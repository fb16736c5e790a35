-- Reading JSON texts. Numbers with a point or an exponent are floats, all others whole numbers; of
-- a repeated key the last value counts. The names NaN, Infinity and -Infinity are read too. A
-- string may hold halves of surrogate pairs that stand alone; the texts of a value can be encoded,
-- and have a mark for each half. Recursion has a limit only here, where values that stand too deep
-- in others are refused; the expressions of queries may be of any depth.
import CorpusSearch.Text.Raw
import CorpusSearch.Value

namespace CorpusSearch.Json

/-- Why a JSON text has no value. -/
inductive Fault where
  /-- The text is not well formed. -/
  | malformed
  /-- A whole number has more digits than are read. -/
  | tooManyDigits (count : Nat)
  /-- Lists or mappings stand too deep in others. -/
  | tooDeep (isList : Bool)
  deriving DecidableEq, Repr

/-- What is said of a fault; a malformed text has no words of its own. -/
def Fault.message : Fault → Text
  | .malformed => ""
  | .tooManyDigits count => Number.tooManyDigits count
  | .tooDeep isList =>
    "maximum recursion depth exceeded while decoding a JSON " ++
      (if isList then "array" else "object").toList ++ " from a unicode string"

/-- How deep lists and mappings may stand in one another. -/
def maxDepth : Nat := 985

def isSpace (c : Char) : Bool := c == ' ' || c == '\t' || c == '\n' || c == '\r'

/-- What stands behind leading white space. -/
def skipSpace (text : Text) : Text := text.dropWhile isSpace

/-! ## Strings -/

/-- The character of an escape of one letter. -/
def escapeChar? : Char → Option Char
  | '"' => some '"'
  | '\\' => some '\\'
  | '/' => some '/'
  | 'b' => some '\x08'
  | 'f' => some '\x0c'
  | 'n' => some '\n'
  | 'r' => some '\r'
  | 't' => some '\t'
  | _ => none

/-- Adds the unit of a four-digit escape to the text read so far, which is reversed. The second half
of a surrogate pair joins the first one, if that was read just before. -/
def pushUnit (read : RawText) (unit : Nat) : RawText :=
  match Half.ofUnit? unit, read with
  | none, read => .char (Char.ofNat unit) :: read
  | some half, .half first :: read =>
    if Text.isHighHalf first.unit && Text.isLowHalf unit then
      .char (Text.ofHalves first.unit unit) :: read
    else .half half :: .half first :: read
  | some half, read => .half half :: read

/-- The string that ends with the next quotation mark, and what stands behind it. -/
def readString (read : RawText) : Text → Option (RawText × Text)
  | '"' :: rest => some (read.reverse, rest)
  | '\\' :: 'u' :: a :: b :: c :: d :: rest =>
    match Number.ofHex? [a, b, c, d] with
    | some unit => readString (pushUnit read unit) rest
    | none => none
  | '\\' :: c :: rest =>
    match escapeChar? c with
    | some plain => readString (.char plain :: read) rest
    | none => none
  | c :: rest =>
    if c.toNat < 32 || c == '\\' then none else readString (.char c :: read) rest
  | [] => none

/-- The text that a value has for a string, with a mark in the place of each half. -/
def textOf (string : RawText) : Text := string.filled '\ufffd'

/-! ## Numbers -/

/-- The digits at the start of a text and what stands behind them. -/
def spanDigits (text : Text) : Text × Text := text.span Char.isDigit

/-- The digits behind a point, when at least one follows. -/
def readFraction : Text → Option (Text × Text)
  | '.' :: rest => match spanDigits rest with
    | ([], _) => none
    | found => some found
  | _ => none

/-- The exponent behind a letter E, when it has at least one digit. -/
def readExponent : Text → Option (Int × Text)
  | mark :: rest =>
    if mark == 'e' || mark == 'E' then
      let (negative, rest) := match rest with
        | '-' :: rest => (true, rest)
        | '+' :: rest => (false, rest)
        | rest => (false, rest)
      match spanDigits rest with
      | ([], _) => none
      | (figures, rest) =>
        some (if negative then -(Number.ofDigits figures : Int) else Number.ofDigits figures, rest)
    else none
  | [] => none

/-- A number behind its sign, and what stands behind it. A leading zero stands alone. -/
def readNumber (negative : Bool) (text : Text) : Except Fault (Value × Text) :=
  let (whole, rest) := match text with
    | '0' :: rest => (['0'], rest)
    | text => spanDigits text
  if whole.isEmpty then .error .malformed
  else
    let fraction := readFraction rest
    let rest := (fraction.map (·.2)).getD rest
    let exponent := readExponent rest
    let rest := (exponent.map (·.2)).getD rest
    if fraction.isNone && exponent.isNone then
      if Number.maxDigits < whole.length then .error (.tooManyDigits whole.length)
      else
        let size : Int := Number.ofDigits whole
        .ok (.int (if negative then -size else size), rest)
    else
      let behind := (fraction.map (·.1)).getD []
      let power := (exponent.map (·.1)).getD 0
      .ok (.float (.ofDecimal negative (Number.ofDigits (whole ++ behind)) (power - behind.length)),
        rest)

/-! ## Values -/

/-- What stands behind a word at the start of a text. -/
def behind? (word text : Text) : Option Text :=
  if word.isPrefixOf text then some (text.drop word.length) else none

/-- The words that are values, with their values. -/
def words : List (Text × Value) :=
  [("null", .null), ("true", .bool true), ("false", .bool false), ("NaN", .float .nan),
    ("Infinity", .float (.infinite false)), ("-Infinity", .float (.infinite true))]

/-- A word or a number at the start of a text. -/
def readPlain (text : Text) : Except Fault (Value × Text) :=
  match words.findSome? fun (word, value) => (behind? word text).map fun rest => (value, rest) with
  | some found => .ok found
  | none => match text with
    | '-' :: rest => readNumber true rest
    | text => readNumber false text

mutual

/-- The value at the start of a text, and what stands behind it. It stands in `depth` others, and
the text is shorter than `fuel`. -/
def readValue : (fuel depth : Nat) → Text → Except Fault (Value × Text)
  | 0, _, _ => .error .malformed
  | fuel + 1, depth, text => match text with
    | '"' :: rest => match readString [] rest with
      | some (string, rest) => .ok (.text (textOf string), rest)
      | none => .error .malformed
    | '[' :: rest =>
      if maxDepth ≤ depth then .error (.tooDeep true)
      else match skipSpace rest with
        | ']' :: rest => .ok (.list [], rest)
        | rest => (readItems fuel (depth + 1) [] rest).map fun (items, rest) => (.list items, rest)
    | '\x7b' :: rest =>
      if maxDepth ≤ depth then .error (.tooDeep false)
      else match skipSpace rest with
        | '\x7d' :: rest => .ok (.mapping [], rest)
        | rest => (readMembers fuel (depth + 1) [] rest).map fun (entries, rest) =>
          (.mapping (Entries.ofList entries), rest)
    | text => readPlain text

/-- The items up to the closing bracket, behind those of `read`, which are reversed. -/
def readItems : (fuel depth : Nat) → List Value → Text → Except Fault (List Value × Text)
  | 0, _, _, _ => .error .malformed
  | fuel + 1, depth, read, text => match readValue fuel depth text with
    | .error fault => .error fault
    | .ok (item, rest) => match skipSpace rest with
      | ',' :: rest => readItems fuel depth (item :: read) (skipSpace rest)
      | ']' :: rest => .ok ((item :: read).reverse, rest)
      | _ => .error .malformed

/-- The members up to the closing brace, behind those of `read`, which are reversed. -/
def readMembers : (fuel depth : Nat) → List (Key × Value) → Text →
    Except Fault (List (Key × Value) × Text)
  | 0, _, _, _ => .error .malformed
  | fuel + 1, depth, read, text => match text with
    | '"' :: rest => match readString [] rest with
      | none => .error .malformed
      | some (string, rest) => match skipSpace rest with
        | ':' :: rest => match readValue fuel depth (skipSpace rest) with
          | .error fault => .error fault
          | .ok (value, rest) =>
            let read := (.text (textOf string), value) :: read
            match skipSpace rest with
            | ',' :: rest => readMembers fuel depth read (skipSpace rest)
            | '\x7d' :: rest => .ok (read.reverse, rest)
            | _ => .error .malformed
        | _ => .error .malformed
    | _ => .error .malformed

end

/-- The value of a JSON text. -/
def read (text : Text) : Except Fault Value := do
  let (value, rest) ← readValue (text.length + 1) 0 (skipSpace text)
  if (skipSpace rest).isEmpty then return value else throw .malformed

/-- The value of a JSON text, none when it has none. -/
def read? (text : Text) : Option Value := (read text).toOption

end CorpusSearch.Json
