-- Whole numbers in decimal digits, read and written, with the limit on the digits that are read.
import CorpusSearch.Text.Basic

namespace CorpusSearch.Number

/-- The decimal digits of a natural number, without leading zeros. -/
def digits (n : Nat) : Text := Nat.toDigits 10 n

/-- A whole number in decimal digits, with a minus sign when it is negative. -/
def decimal (i : Int) : Text := if i < 0 then '-' :: digits i.natAbs else digits i.natAbs

/-- Digits with a comma before every third one from the right, the last one apart. -/
def groupThrees : Text → Text
  | [] => []
  | d :: rest =>
    if rest.length % 3 = 0 && !rest.isEmpty then d :: ',' :: groupThrees rest
    else d :: groupThrees rest

/-- A whole number in decimal digits with commas between the thousands. -/
def grouped (i : Int) : Text :=
  let figures := groupThrees (digits i.natAbs)
  if i < 0 then '-' :: figures else figures

def twoTo (k : Nat) : Nat := Nat.pow 2 k

def tenTo (k : Nat) : Nat := Nat.pow 10 k

/-- The number that ASCII digits name; other characters are passed over. -/
def ofDigits (text : Text) : Nat :=
  text.foldl (fun n c => if c.isDigit then 10 * n + (c.toNat - '0'.toNat) else n) 0

/-- The hexadecimal digit that a character names. -/
def hexDigit? (c : Char) : Option Nat :=
  if c.isDigit then some (c.toNat - '0'.toNat)
  else if 'a' ≤ c && c ≤ 'f' then some (c.toNat - 'a'.toNat + 10)
  else if 'A' ≤ c && c ≤ 'F' then some (c.toNat - 'A'.toNat + 10)
  else none

/-- The number that hexadecimal digits name. -/
def ofHex? : Text → Option Nat
  | [] => none
  | text => text.foldl
      (fun n c => match n, hexDigit? c with
        | some n, some d => some (16 * n + d)
        | _, _ => none) (some 0)

/-- The most decimal digits that a whole number may have to be read. -/
def maxDigits : Nat := 4300

/-- What is said of a number with more digits. -/
def tooManyDigits (count : Nat) : Text :=
  "Exceeds the limit (4300 digits) for integer string conversion: value has " ++ digits count ++
    " digits; use sys.set_int_max_str_digits() to increase the limit"

end CorpusSearch.Number
