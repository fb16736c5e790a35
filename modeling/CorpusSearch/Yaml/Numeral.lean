-- The numbers of scalars. A number may have a sign, underscores between its digits, and parts in
-- base sixty with colons between them.
import CorpusSearch.Number.Double
import CorpusSearch.Text.Blank
import CorpusSearch.Text.Case
import CorpusSearch.Yaml.Fault
import CorpusSearch.Yaml.Tag

namespace CorpusSearch.Yaml.Numeral

/-- A text without its underscores. -/
def bare (text : Text) : Text := text.filter fun c => c ≠ '_'

/-! ## Whole numbers -/

/-- The digit of a base that a character is. -/
def digit? (base : Nat) (c : Char) : Option Nat :=
  (Number.hexDigit? c).filter fun d => d < base

/-- The letter that may stand behind a zero before the digits in a base. -/
def letter? (base : Nat) : Option Char :=
  if base = 2 then some 'b' else if base = 8 then some 'o' else if base = 16 then some 'x' else none

/-- A text without the zero and the letter of a base. -/
def withoutLetter (base : Nat) (text : Text) : Text :=
  match text with
  | '0' :: c :: rest => if letter? base = some c.toLower then rest else text
  | text => text

/-- The number of digits in a base. -/
def inBase (base : Nat) (figures : Text) : Nat :=
  figures.foldl (fun n c => base * n + (digit? base c).getD 0) 0

/-- The whole number that a text writes in a base. Only decimal digits have a limit. -/
def wholeIn (base : Nat) (text : Text) : Except Fault Int :=
  let (negative, size) := Tag.unsigned text.strip
  let size := withoutLetter base size
  let figures := size.takeWhile fun c => (digit? base c).isSome
  if base = 10 && Number.maxDigits < figures.length then .error (.tooManyDigits figures.length)
  else if figures.isEmpty || figures.length < size.length then .error (.noWhole base text)
  else .ok (if negative then -(inBase base figures : Int) else inBase base figures)

/-- The size of a whole number, in the base that its first characters call for. -/
def wholeSize (size : Text) : Except Fault Int :=
  match size with
  | [] => .error .noFigure
  | ['0'] => .ok 0
  | '0' :: 'b' :: figures => wholeIn 2 figures
  | '0' :: 'x' :: figures => wholeIn 16 figures
  | '0' :: _ => wholeIn 8 size
  | _ =>
    if size.contains ':' then
      ((Text.splitAt (· == ':') size).mapM (wholeIn 10)).map fun parts =>
        parts.foldl (fun n part => 60 * n + part) 0
    else wholeIn 10 size

def whole (text : Text) : Except Fault Int :=
  if (bare text).isEmpty then .error .noFigure
  else
    let (negative, size) := Tag.unsigned (bare text)
    (wholeSize size).map fun i => if negative then -i else i

/-! ## Floating-point numbers -/

/-- An exponent, which may be absent. -/
def exponent? : Text → Option Int
  | [] => some 0
  | mark :: rest =>
    let (negative, figures) := Tag.unsigned rest
    if mark = 'e' && !figures.isEmpty && figures.all Char.isDigit then
      some (if negative then -(Number.ofDigits figures : Int) else Number.ofDigits figures)
    else none

/-- The size of a number in decimal digits, in small letters and without its sign. -/
def decimal? (negative : Bool) (size : Text) : Option Double :=
  let (before, rest) := size.span Char.isDigit
  let (behind, rest) := match rest with
    | '.' :: rest => rest.span Char.isDigit
    | rest => ([], rest)
  if before.isEmpty && behind.isEmpty then none
  else (exponent? rest).map fun power =>
    .ofDecimal negative (Number.ofDigits (before ++ behind)) (power - behind.length)

/-- The floating-point number that a text in small letters writes. -/
def floatIn (text : Text) : Except Fault Double :=
  let (negative, size) := Tag.unsigned text.strip
  if size = "inf".toList || size = "infinity".toList then .ok (.infinite negative)
  else if size = "nan".toList then .ok .nan
  else match decimal? negative size with
    | some d => .ok d
    | none => .error (.noFloat text)

/-- Adds parts in base sixty, the last one first, to a sum; the first of them counts for `unit`. -/
def addParts (unit : Nat) (sum : Double) : List Double → Except Fault Double
  | [] => .ok sum
  | part :: parts => match Double.ofInt? unit with
    | none => .error .tooLarge
    | some factor => addParts (60 * unit) (sum.add (part.mul factor)) parts

/-- The size of a floating-point number in small letters. -/
def floatSize (size : Text) : Except Fault Double :=
  if size = ".inf".toList then .ok (.infinite false)
  else if size = ".nan".toList then .ok .nan
  else if size.contains ':' then do
    addParts 1 (.zero false) (← (Text.splitAt (· == ':') size).mapM floatIn).reverse
  else floatIn size

/-- The floating-point number of a scalar. -/
def float (text : Text) : Except Fault Double :=
  if (bare text).isEmpty then .error .noFigure
  else
    let (negative, size) := Tag.unsigned (bare text).lower
    (floatSize size).map fun d => if negative then d.negated else d

end CorpusSearch.Yaml.Numeral
