-- A place in a YAML text: what follows, and where the place is.
import CorpusSearch.Text.Basic

namespace CorpusSearch.Yaml

/-- Whether a character ends a line. -/
def isBreak (c : Char) : Bool :=
  c == '\n' || c == '\r' || c == '\x85' || c == '\u2028' || c == '\u2029'

/-- Whether a character separates words in a line. -/
def isSpace (c : Char) : Bool := c == ' ' || c == '\t'

/-- Whether a text ends here, or a blank or an end of line follows. -/
def isGap : Text → Bool
  | [] => true
  | c :: _ => isSpace c || isBreak c

/-- Whether a text ends here, or a space or an end of line follows. -/
def isStop : Text → Bool
  | [] => true
  | c :: _ => c == ' ' || isBreak c

/-- Whether the line starts with the mark between documents or the mark behind one. -/
def isSeparator : Text → Bool
  | '-' :: '-' :: '-' :: rest => isGap rest
  | '.' :: '.' :: '.' :: rest => isGap rest
  | _ => false

/-- The end of line at the start of a text, as it counts in a scalar, and what stands behind it. -/
def takeBreak : Text → Text × Text
  | '\r' :: '\n' :: rest => (['\n'], rest)
  | c :: rest =>
    if c == '\n' || c == '\r' || c == '\x85' then (['\n'], rest)
    else if isBreak c then ([c], rest)
    else ([], c :: rest)
  | [] => ([], [])

/-- What a first break and the breaks behind it count for in a scalar. -/
def fold (first breaks : Text) : Text :=
  if first ≠ ['\n'] then first ++ breaks else if breaks.isEmpty then [' '] else breaks

/-- What stands behind the end of a line that holds no more than spaces and a comment. -/
def takeLineEnd? (text : Text) : Option Text :=
  let text := text.dropWhile (· == ' ')
  let text := match text with
    | '#' :: _ => text.dropWhile fun c => !isBreak c
    | text => text
  match takeBreak text with
  | ([], []) => some []
  | ([], _ :: _) => none
  | (_, rest) => some rest

/-- A place in a text. -/
structure Cursor where
  rest : Text
  index : Nat := 0
  line : Nat := 0
  column : Nat := 0
  deriving Repr

namespace Cursor

/-- The place behind the next character. A byte order mark takes no column. -/
def next (cursor : Cursor) : Cursor :=
  match cursor.rest with
  | [] => cursor
  | c :: rest =>
    let index := cursor.index + 1
    if isBreak c && !(c == '\r' && rest.head? = some '\n') then
      { rest, index, line := cursor.line + 1, column := 0 }
    else if c == '\ufeff' then { cursor with rest, index }
    else { cursor with rest, index, column := cursor.column + 1 }

/-- The place behind the next characters. -/
def advance : Nat → Cursor → Cursor
  | 0, cursor => cursor
  | n + 1, cursor => advance n cursor.next

/-- The place where `rest`, an end of the text, starts. -/
def moveTo (rest : Text) (cursor : Cursor) : Cursor :=
  cursor.advance (cursor.rest.length - rest.length)

end Cursor

end CorpusSearch.Yaml
