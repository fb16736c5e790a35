-- The segments of a query text: every character belongs to exactly one of them, and each segment
-- but a blank is one token.
import CorpusSearch.Query.Token
import CorpusSearch.Text.Blank

namespace CorpusSearch.Query

inductive Segment where
  | blank (c : Char)
  | openParen
  | closeParen
  /-- A text between two quotation marks. -/
  | quoted (inside : Text)
  /-- A quotation mark without a partner, and all that follows it. -/
  | unclosed (inside : Text)
  /-- A longest run of characters that are neither blanks nor quotation marks nor parentheses. -/
  | word (text : Text)
  deriving DecidableEq, Repr

/-- What is being read; the characters read so far are reversed. -/
inductive Reading where
  | between
  | inWord (read : Text)
  | inQuote (read : Text)

namespace Reading

/-- The segments that the next character completes, and what is being read behind it. -/
def start (c : Char) : List Segment × Reading :=
  if Text.isBlank c then ([.blank c], .between)
  else if c = '"' then ([], .inQuote [])
  else if c = '(' then ([.openParen], .between)
  else if c = ')' then ([.closeParen], .between)
  else ([], .inWord [c])

/-- Whether a character ends a word. -/
def endsWord (c : Char) : Bool := Text.isBlank c || c = '"' || c = '(' || c = ')'

def step (c : Char) : Reading → List Segment × Reading
  | .between => start c
  | .inWord read =>
    if endsWord c then
      let (segments, next) := start c
      (.word read.reverse :: segments, next)
    else ([], .inWord (c :: read))
  | .inQuote read =>
    if c = '"' then ([.quoted read.reverse], .between) else ([], .inQuote (c :: read))

/-- The segments that the end of the text completes. -/
def finish : Reading → List Segment
  | .between => []
  | .inWord read => [.word read.reverse]
  | .inQuote read => [.unclosed read.reverse]

end Reading

/-- The segments of the rest of a text. -/
def segmentsFrom (reading : Reading) : Text → List Segment
  | [] => reading.finish
  | c :: rest =>
    let (segments, next) := reading.step c
    segments ++ segmentsFrom next rest

def segments (text : Text) : List Segment := segmentsFrom .between text

def Segment.token? : Segment → Option Token
  | .blank _ => none
  | .openParen => some ⟨.openParen, none⟩
  | .closeParen => some ⟨.closeParen, none⟩
  | .quoted inside => some (.phrase inside)
  | .unclosed inside => some (.term inside)
  | .word text => some (.ofWord text)

def tokenize (text : Text) : List Token := (segments text).filterMap Segment.token?

end CorpusSearch.Query
