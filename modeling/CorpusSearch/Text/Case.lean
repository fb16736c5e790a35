-- Lower and upper case of whole texts. One character may become several, and a capital sigma is
-- lowered by its place: the final form stands after a cased letter when none follows.
import CorpusSearch.Text.Ranges
import CorpusSearch.Text.Table.Case
import CorpusSearch.Text.Table.Role

namespace CorpusSearch.Text

/-! ## Single characters -/

/-- The image of a code point under rows `(first, last, step, image)`. -/
def runImage? (rows : List (Nat × Nat × Nat × Nat)) (code : Nat) : Option Nat :=
  match rowOf? rows code with
  | some (distance, step, image) => if distance % step = 0 then some (image + distance) else none
  | none => none

/-- The lower-case form of one character, whatever stands around it. -/
def lowerChar (c : Char) : Text :=
  if c.toNat < 128 then [c.toLower]
  else match runImage? Table.lowerRuns c.toNat with
    | some code => [Char.ofNat code]
    | none => match entryOf? Table.lowerMany c.toNat with
      | some codes => ofCodes codes
      | none => [c]

/-- The upper-case form of one character. -/
def upperChar (c : Char) : Text :=
  if c.toNat < 128 then [c.toUpper]
  else match runImage? Table.upperRuns c.toNat with
    | some code => [Char.ofNat code]
    | none => match entryOf? Table.upperMany c.toNat with
      | some codes => ofCodes codes
      | none => [c]

/-! ## Whole texts -/

/-- A character that has case and is not passed over. -/
def isCased (c : Char) : Bool := inRanges Table.cased c.toNat

/-- A character that is passed over when the neighbours of a sigma are looked at. -/
def isIgnorable (c : Char) : Bool := inRanges Table.ignorable c.toNat

/-- Whether the first character that is not passed over is cased. -/
def casedAhead : Text → Bool
  | [] => false
  | c :: rest => if isIgnorable c then casedAhead rest else isCased c

/-- Whether a cased character was the last one before the next place. -/
def casedAfter (casedBefore : Bool) (c : Char) : Bool :=
  if isIgnorable c then casedBefore else isCased c

/-- The lower-case form of a text that stands behind a cased character or not. -/
def lowerFrom : Bool → Text → Text
  | _, [] => []
  | casedBefore, c :: rest =>
    (if c = 'Σ' then [if casedBefore && !casedAhead rest then 'ς' else 'σ'] else lowerChar c) ++
      lowerFrom (casedAfter casedBefore c) rest

def lower (text : Text) : Text := lowerFrom false text

def upper (text : Text) : Text := text.flatMap upperChar

/-! ## Equality up to case -/

/-- One letter for each class of characters that differ in case alone: the first character of
the lower-case form, and of letters that share a capital the usual one. -/
def caseClass (c : Char) : Char :=
  let small := (lowerChar c).headD c
  match entryOf? Table.twins small.toNat with
  | some code => Char.ofNat code
  | none => small

/-- Whether two characters are equal up to case. -/
def sameUpToCase (c d : Char) : Bool := caseClass c == caseClass d

end CorpusSearch.Text
