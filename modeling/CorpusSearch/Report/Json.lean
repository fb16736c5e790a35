-- A result as a tree of data, for a JSON file, and the text of such a file.
import CorpusSearch.Corpus.Document
import CorpusSearch.Json.Printer

namespace CorpusSearch.Report

open Corpus

def fields (entries : List (Text × Value)) : Value :=
  .mapping (entries.map fun (name, value) => (.text name, value))

def listOf (texts : List Text) : Value := .list (texts.map .text)

/-- A record as data; its kind is told by the group. -/
def recordData (record : Record) : Value :=
  fields [("title", .text record.title), ("url", .text record.url), ("hash", .text record.hash),
    ("size", .int record.size), ("snippets", listOf record.snippets),
    ("strict", .bool record.strict)]

def groupData (records : List Record) : Value := .list (records.map recordData)

def statsData (stats : Stats) : Value :=
  fields [("docs", .int stats.documents), ("bytes", .int stats.bytes), ("hits", .int stats.hits)]

def data (result : Result) : Value :=
  fields [("query", .text result.query), ("mode", .text result.mode),
    ("needles", listOf result.needles), ("textbooks", groupData result.textbooks),
    ("laws", groupData result.laws), ("rules", groupData result.rules),
    ("stats", statsData result.stats)]

/-- What a file of results holds: a single result itself, and otherwise the list of them. -/
def payload : List Value → Value
  | [result] => result
  | results => .list results

/-! ## The text of a file -/

/-- The texts of a record in the order in which they are written. -/
def recordTexts {τ : Type} (record : Record τ) : List τ :=
  record.title :: record.url :: record.snippets

/-- The texts of a result in the order in which they are written. -/
def resultTexts {τ : Type} (result : Result τ) : List τ :=
  result.query :: result.needles ++ Kind.all.flatMap fun kind =>
    (result.group kind).flatMap recordTexts

/-- The text of a file of results, with a mark in the place of each half. -/
def fileText (mark : Char) (results : List (Result RawText)) : Text :=
  Json.indented (payload (results.map fun result => data (result.map (RawText.filled mark))))

/-- The count of characters that two texts share at the start. -/
def sharedLength : Text → Text → Nat
  | c :: text, d :: other => if c = d then sharedLength text other + 1 else 0
  | _, _ => 0

/-- Where the text of a file cannot be encoded. It is the same for all marks up to its first half.
-/
def fileFault? (results : List (Result RawText)) : Option RawText.Fault :=
  (results.flatMap resultTexts).findSome? fun text => match text.encode with
    | .ok _ => none
    | .error fault => some
      { fault with position := sharedLength (fileText ' ' results) (fileText '\ufffd' results) }

/-- The text of a file, if it can be encoded. -/
def fileContent (results : List (Result RawText)) : Except RawText.Fault Text :=
  match fileFault? results with
  | some fault => .error fault
  | none => .ok (fileText ' ' results)

end CorpusSearch.Report
