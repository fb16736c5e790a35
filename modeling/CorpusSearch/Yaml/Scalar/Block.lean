-- Block scalars: the lines further to the right, with their breaks or with spaces instead.
import CorpusSearch.Yaml.Fault

namespace CorpusSearch.Yaml.Block

/-- What is kept of the breaks at the end of a scalar: the first one, none or all. -/
inductive Ending where
  | first
  | none
  | all
  deriving DecidableEq, Repr

structure Header where
  ending : Ending := .first
  /-- How far its lines stand to the right, when that is written. -/
  shift : Option Nat := .none
  deriving DecidableEq, Repr

/-! ## The header -/

/-- The ending that a sign calls for. -/
def ending? : Char → Option Ending
  | '+' => some .all
  | '-' => some .none
  | _ => .none

/-- The ending at the start of a text, and what stands behind it. -/
def takeEnding (text : Text) : Option Ending × Text :=
  match text with
  | c :: rest => match ending? c with
    | .none => (.none, text)
    | found => (found, rest)
  | [] => (.none, [])

/-- The shift at the start of a text, and what stands behind it. -/
def takeShift (text : Text) : Option Nat × Text :=
  match text with
  | c :: rest => if c.isDigit then (some (Number.ofDigits [c]), rest) else (.none, text)
  | [] => (.none, [])

/-- A header, with its parts in either order, and what stands behind its line. A shift of zero is
malformed. -/
def takeHeader (text : Text) : Except Fault (Header × Text) :=
  let (before, rest) := takeEnding text
  let (shift, rest) := takeShift rest
  let (ending, rest) := match before, shift with
    | .none, some _ => takeEnding rest
    | before, _ => (before, rest)
  match takeLineEnd? rest with
  | .none => .error .malformed
  | some behind =>
    if shift = some 0 || !isStop rest then .error .malformed
    else .ok ({ ending := ending.getD .first, shift }, behind)

/-! ## The lines -/

/-- Goes on over spaces, but not behind a column. -/
def skipSpaces (column : Nat) : (fuel : Nat) → Cursor → Cursor
  | 0, cursor => cursor
  | fuel + 1, cursor =>
    if cursor.column < column && cursor.rest.head? = some ' ' then
      skipSpaces column fuel cursor.next
    else cursor

/-- The breaks of blank lines, and the place behind them and the spaces of the next line. -/
def takeBreaks (column : Nat) : (fuel : Nat) → Cursor → Text × Cursor
  | 0, cursor => ([], cursor)
  | fuel + 1, cursor =>
    let cursor := skipSpaces column cursor.rest.length cursor
    match takeBreak cursor.rest with
    | ([], _) => ([], cursor)
    | (first, rest) =>
      let (breaks, cursor) := takeBreaks column fuel (cursor.moveTo rest)
      (first ++ breaks, cursor)

/-- The breaks of blank lines, the place behind them and the spaces of the next line, and the column
furthest to the right among them. -/
def takeIndentation : (fuel : Nat) → (column : Nat) → Cursor → Text × Nat × Cursor
  | 0, column, cursor => ([], column, cursor)
  | fuel + 1, column, cursor =>
    if cursor.rest.head? = some ' ' then
      takeIndentation fuel (max column cursor.next.column) cursor.next
    else match takeBreak cursor.rest with
      | ([], _) => ([], column, cursor)
      | (first, rest) =>
        let (breaks, column, cursor) := takeIndentation fuel column (cursor.moveTo rest)
        (first ++ breaks, column, cursor)

/-- The lines of a scalar that were read: their text, the break behind the last one, and the breaks
of the blank lines behind it. -/
structure Lines where
  text : Text := []
  last : Text := []
  breaks : Text := []
  deriving Repr

/-- Whether a line starts here in a column. -/
def startsAt (column : Nat) (cursor : Cursor) : Bool :=
  cursor.column = column && !cursor.rest.isEmpty

/-- What stands between two lines. A folded break is a space, or nothing before further breaks, if
neither of the lines starts with a blank. -/
def between (folded : Bool) (before : Text) (last breaks : Text) (behind : Text) : Text :=
  let isText (line : Text) : Bool := !line.head?.any isSpace
  if folded && last = ['\n'] && isText before && isText behind then
    if breaks.isEmpty then [' '] else []
  else last

/-- Reads lines that start in a column, behind those that were read. -/
def takeLines (folded : Bool) (column : Nat) : (fuel : Nat) → Lines → Cursor → Lines × Cursor
  | 0, lines, cursor => (lines, cursor)
  | fuel + 1, lines, cursor =>
    let before := cursor.rest
    let (line, rest) := before.span fun c => !isBreak c
    let (last, rest) := takeBreak rest
    let (breaks, cursor) := takeBreaks column (rest.length + 1) (cursor.moveTo rest)
    let text := lines.text ++ lines.breaks ++ line
    if startsAt column cursor then
      let text := text ++ between folded before last breaks cursor.rest
      takeLines folded column fuel { text, last, breaks } cursor
    else ({ text, last, breaks }, cursor)

/-- A block scalar behind the sign that starts it, and the place behind it. Its lines stand at the
column `least` or behind it. -/
def take (folded : Bool) (least : Nat) (cursor : Cursor) : Except Fault (Text × Cursor) := do
  let (header, rest) ← takeHeader cursor.rest
  let cursor := cursor.moveTo rest
  let fuel := rest.length + 1
  let (breaks, column, cursor) := match header.shift with
    | some shift =>
      let column := least + shift - 1
      let (breaks, cursor) := takeBreaks column fuel cursor
      (breaks, column, cursor)
    | .none =>
      let (breaks, column, cursor) := takeIndentation fuel 0 cursor
      (breaks, max least column, cursor)
  let (lines, cursor) :=
    if startsAt column cursor then takeLines folded column fuel { breaks } cursor
    else ({ breaks }, cursor)
  return match header.ending with
    | .first => (lines.text ++ lines.last, cursor)
    | .none => (lines.text, cursor)
    | .all => (lines.text ++ lines.last ++ lines.breaks, cursor)

end CorpusSearch.Yaml.Block
