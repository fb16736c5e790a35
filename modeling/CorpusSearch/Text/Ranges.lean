-- Tables over code points: membership in ascending ranges, and maps given by rows.
import CorpusSearch.Text.Basic

namespace CorpusSearch.Text

/-- Whether a code point lies in one of the ranges `(first, last)`, which stand in ascending
order. -/
def inRanges : List (Nat × Nat) → Nat → Bool
  | [], _ => false
  | (first, last) :: rest, code =>
    if code < first then false else code ≤ last || inRanges rest code

/-- The value of the row `(first, last, value)` that holds the code point, with the distance from
the first code point of the row; the rows stand in ascending order. -/
def rowOf? {α : Type} : List (Nat × Nat × α) → Nat → Option (Nat × α)
  | [], _ => none
  | (first, last, value) :: rest, code =>
    if code < first then none
    else if code ≤ last then some (code - first, value) else rowOf? rest code

/-- The value of the row `(code, value)` of a code point. -/
def entryOf? {α : Type} (rows : List (Nat × α)) (code : Nat) : Option α :=
  (rows.find? fun row => row.1 == code).map (·.2)

/-- The texts of a list of code points. -/
def ofCodes (codes : List Nat) : Text := codes.map Char.ofNat

end CorpusSearch.Text
