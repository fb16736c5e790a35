-- The simple search: every term of the query has to occur in the document. There are no phrases,
-- operators or synonyms. A text that cannot be encoded is the end of the whole search.
import CorpusSearch.Match.FullText
import CorpusSearch.Text.Blank

namespace CorpusSearch.Match

open Corpus

/-! ## Terms and plain texts -/

/-- The terms of a query: lower-case words between blanks and plus signs. -/
def splitTerms (query : Text) : List Text :=
  Text.wordsBy (fun c => c == '+' || Text.isBlank c) query.lower

/-- Blanks out a character that is no word character, blank or hyphen. -/
def plainChar (c : Char) : Char :=
  if Text.isWord c || Text.isBlank c || c == '-' then c else ' '

/-- The normal form of a text with its punctuation blanked out. -/
def plainText (text : Text) : Text := text.normalize.map plainChar

/-! ## Excerpts -/

/-- How much of the text stands before the first term. -/
def charactersBefore : Nat := 140

/-- How much of the text stands from the first term on. -/
def charactersAfter : Nat := 300

/-- The count of excerpts of a document. -/
def maxSimpleSnippets : Int := 3

/-- The excerpt that a part of the text gives, if every term occurs in the same part of the
lower-case text. -/
def excerpt? (terms : List Text) (part loweredPart : Text) : Option Text :=
  if terms.all fun term => term.occursIn loweredPart then
    some ('…' :: (Text.collapse part).strip ++ ['…'])
  else none

/-- The first `count` excerpts around ascending positions. The two texts are given from `offset` on,
which lies before every window. -/
def excerptsFrom (terms : List Text) (offset : Nat) (text lowered : Text) :
    (count : Nat) → List Nat → List Text
  | 0, _ => []
  | _, [] => []
  | count + 1, position :: positions =>
    let ahead := position - charactersBefore - offset
    let text := text.drop ahead
    let lowered := lowered.drop ahead
    let offset := offset + ahead
    let size := position + charactersAfter - offset
    match excerpt? terms (text.take size) (lowered.take size) with
    | some excerpt => excerpt :: excerptsFrom terms offset text lowered count positions
    | none => excerptsFrom terms offset text lowered (count + 1) positions

/-- The excerpts around the first term that hold every term. A letter may become longer in lower
case; of the lower-case text, no window reaches beyond the length of the text itself. -/
def simpleSnippets (maxSnippets : Int) (text : Text) (terms : List Text) : List Text :=
  match terms with
  | [] => []
  | [] :: _ => []
  | anchor :: _ =>
    let lowered := text.lower
    excerptsFrom terms 0 text (lowered.take text.length) maxSnippets.toNat
      (Text.occurrences anchor lowered)

/-! ## Matching -/

/-- The record of a document with its text, if every term occurs in its plain text. -/
def simpleRecord? (terms : List Text) (document : Document) (text : Text) : Option Record :=
  let plain := plainText text
  if terms.all fun term => term.occursIn plain then
    some { document with
      hash := contentHash text, size := (text.byteSize : Int),
      snippets := simpleSnippets maxSimpleSnippets text terms }
  else none

/-- Fetches and tests one document. -/
def simpleProcess (fetch : Fetcher) (terms : List Text) (document : Document) :
    Traced Outcome := do
  Traced.request document.url
  match fetch document.url with
  | .error failure =>
    Traced.log .warning
      ("Fetch failed: " ++ document.title ++ " (" ++ document.url ++ "): " ++ failure)
    return .unavailable
  | .ok text => return .scanned text.byteSize (simpleRecord? terms document text)

/-- Matches documents against the terms of a query; a query without terms asks for nothing. -/
def simpleMatch (maxDocuments : Int) (fetch : Fetcher) (query : Text)
    (documents : List Document) : Traced (List Record × Stats) := do
  let terms := splitTerms query
  if terms.isEmpty then return ([], {})
  else return collect (← (withinCap maxDocuments documents).mapM (simpleProcess fetch terms))

/-! ## Raw texts -/

/-- Fetches and tests documents in turn, up to the first one with a text that cannot be encoded. -/
def simpleScan (fetch : RawFetcher) (terms : List Text) :
    List Document → Traced (Except RawText.Fault (List Outcome))
  | [] => return .ok []
  | document :: documents => match fetch.fault? document.url with
    | some fault => do
      Traced.request document.url
      return .error fault
    | none => do
      let outcome ← simpleProcess fetch.encoded terms document
      return (← simpleScan fetch terms documents).map (outcome :: ·)

/-- Matches documents with raw texts against the terms of a query. -/
def simpleMatchRaw (maxDocuments : Int) (fetch : RawFetcher) (query : Text)
    (documents : List Document) : Traced (Except RawText.Fault (List Record × Stats)) := do
  let terms := splitTerms query
  if terms.isEmpty then return .ok ([], {})
  else return (← simpleScan fetch terms (withinCap maxDocuments documents)).map collect

end CorpusSearch.Match
