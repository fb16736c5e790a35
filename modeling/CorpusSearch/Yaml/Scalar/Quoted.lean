-- Quoted scalars and their escapes. A line break inside them is a space, and further breaks behind
-- it stay.
import CorpusSearch.Text.Utf8
import CorpusSearch.Yaml.Fault

namespace CorpusSearch.Yaml

/-- The breaks of blank lines at the start of a text, and what stands behind them and the blanks of
the next line. A mark between documents may not stand there. -/
def quotedBreaks : (fuel : Nat) → Text → Except Fault (Text × Text)
  | 0, _ => .error .malformed
  | fuel + 1, text =>
    if isSeparator text then .error .malformed
    else
      let text := text.dropWhile isSpace
      match takeBreak text with
      | ([], _) => .ok ([], text)
      | (first, rest) => (quotedBreaks fuel rest).map fun (breaks, rest) => (first ++ breaks, rest)

/-- The character of an escape of one letter. -/
def escapeChar? : Char → Option Char
  | '0' => some '\x00'
  | 'a' => some '\x07'
  | 'b' => some '\x08'
  | 't' => some '\t'
  | '\t' => some '\t'
  | 'n' => some '\n'
  | 'v' => some '\x0b'
  | 'f' => some '\x0c'
  | 'r' => some '\r'
  | 'e' => some '\x1b'
  | ' ' => some ' '
  | '"' => some '"'
  | '\\' => some '\\'
  | '/' => some '/'
  | 'N' => some '\x85'
  | '_' => some '\u00a0'
  | 'L' => some '\u2028'
  | 'P' => some '\u2029'
  | _ => none

/-- The largest number of an escape that is looked at. -/
def maxCode : Nat := 0x7FFFFFFF

/-- The count of hexadecimal digits of an escape. -/
def escapeWidth? : Char → Option Nat
  | 'x' => some 2
  | 'u' => some 4
  | 'U' => some 8
  | _ => none

/-- The second half of a surrogate pair in an escape of its own, and what stands behind it. -/
def takeLowHalf? : Text → Option (Nat × Text)
  | '\\' :: 'u' :: a :: b :: c :: d :: rest =>
    ((Number.ofHex? [a, b, c, d]).filter Text.isLowHalf).map fun unit => (unit, rest)
  | _ => none

/-- The character of a code point in an escape, and what stands behind it. The halves of a surrogate
pair in two escapes are one character, and a half alone is replaced. -/
def takeCode (code : Nat) (rest : Text) : Text × Text :=
  if Text.isHighHalf code then
    match takeLowHalf? rest with
    | some (low, rest) => ([Text.ofHalves code low], rest)
    | none => (['\ufffd'], rest)
  else if Text.isLowHalf code then (['\ufffd'], rest)
  else ([Char.ofNat code], rest)

/-- The character of an escape of `width` hexadecimal digits, and what stands behind it. -/
def takeDigits (width : Nat) (text : Text) : Except Fault (Text × Text) :=
  match Number.ofHex? (text.take width) with
  | none => .error .malformed
  | some code =>
    if text.length < width then .error .malformed
    else if maxCode < code then .error .noCode
    else if 0x10FFFF < code then .error .noCharacter
    else .ok (takeCode code (text.drop width))

/-- What an escape behind a backslash stands for, and what stands behind it. -/
def takeEscape (text : Text) : Except Fault (Text × Text) :=
  match text with
  | [] => .error .malformed
  | c :: rest =>
    match escapeChar? c, escapeWidth? c with
    | some plain, _ => .ok ([plain], rest)
    | none, some width => takeDigits width rest
    | none, none => match takeBreak text with
      | ([], _) => .error .malformed
      | (_, rest) => quotedBreaks (rest.length + 1) rest

/-- Blanks and breaks inside a quoted scalar, as they count in it, and what stands behind them. -/
def takeQuotedSpace (text : Text) : Except Fault (Text × Text) :=
  let (spaces, rest) := text.span isSpace
  match takeBreak rest with
  | ([], _) => .ok (spaces, rest)
  | (first, rest) =>
    (quotedBreaks (rest.length + 1) rest).map fun (breaks, rest) => (fold first breaks, rest)

/-- The rest of a scalar between marks `quote`, and what stands behind it. In single marks a mark is
written twice; in double ones a backslash starts an escape. -/
def takeQuoted (quote : Char) : (fuel : Nat) → (read : Text) → Text → Except Fault (Text × Text)
  | 0, _, _ => .error .malformed
  | _ + 1, _, [] => .error .malformed
  | fuel + 1, read, c :: rest =>
    if c = quote then
      if quote = '\'' && rest.head? = some '\'' then takeQuoted quote fuel (c :: read) rest.tail
      else .ok (read.reverse, rest)
    else if c = '\\' && quote = '"' then
      match takeEscape rest with
      | .error fault => .error fault
      | .ok (plain, rest) => takeQuoted quote fuel (plain.reverse ++ read) rest
    else if isSpace c || isBreak c then
      match takeQuotedSpace (c :: rest) with
      | .error fault => .error fault
      | .ok (space, rest) => takeQuoted quote fuel (space.reverse ++ read) rest
    else takeQuoted quote fuel (c :: read) rest

end CorpusSearch.Yaml
