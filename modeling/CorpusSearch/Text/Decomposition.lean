-- Compatibility decomposition and the canonical order of combining marks, and the normal form in
-- which queries and documents are compared: lower case first, then the decomposition. It may bring
-- capitals back, and they stay.
import CorpusSearch.Text.Case
import CorpusSearch.Text.Ranges
import CorpusSearch.Text.Table.DecomposeBeyond
import CorpusSearch.Text.Table.DecomposeEast
import CorpusSearch.Text.Table.DecomposeForm
import CorpusSearch.Text.Table.DecomposeGreek
import CorpusSearch.Text.Table.DecomposeIdeograph
import CorpusSearch.Text.Table.DecomposeLatin
import CorpusSearch.Text.Table.DecomposeSupplement
import CorpusSearch.Text.Table.DecomposeSymbol
import CorpusSearch.Text.Table.Mark

namespace CorpusSearch.Text

/-! ## One character -/

/-- The rows of the decompositions, found by the region of the code point. -/
def decompositionRows (code : Nat) : List (Nat × Nat × List Nat) :=
  if code < 0x1100 then Table.decomposeLatin
  else if code < 0x2000 then Table.decomposeGreek
  else if code < 0x2E80 then Table.decomposeSymbol
  else if code < 0xF900 then Table.decomposeEast
  else if code < 0xFB00 then Table.decomposeIdeograph
  else if code < 0x10000 then Table.decomposeForm
  else if code < 0x2F800 then Table.decomposeBeyond
  else Table.decomposeSupplement

/-- The two or three letters of a composed Hangul syllable, which follow from its place among
the syllables: 588 for each leading consonant, 28 for each vowel. -/
def hangulParts (code : Nat) : List Nat :=
  let place := code - 0xAC00
  let parts := [0x1100 + place / 588, 0x1161 + place % 588 / 28]
  if place % 28 = 0 then parts else parts ++ [0x11A7 + place % 28]

/-- The full compatibility decomposition of a code point. -/
def decomposeCode (code : Nat) : List Nat :=
  if code < 0xA0 then [code]
  else if 0xAC00 ≤ code && code ≤ 0xD7A3 then hangulParts code
  else match rowOf? (decompositionRows code) code with
    | some (distance, part :: parts) => (part + distance) :: parts
    | _ => [code]

/-- The full compatibility decomposition of a character. -/
def decomposeChar (c : Char) : Text :=
  if c.toNat < 0xA0 then [c] else ofCodes (decomposeCode c.toNat)

/-! ## Marks in order -/

/-- The combining class of a character; a starter has class 0. -/
def markClass (c : Char) : Nat :=
  if c.toNat < 0x300 then 0
  else match rowOf? Table.marks c.toNat with
    | some (_, order) => order
    | none => 0

/-- Puts a character before an ordered text: a mark goes behind the marks of a lower class that
it meets first, and any other character stays in front. -/
def insertMark (c : Char) : Text → Text
  | [] => [c]
  | d :: rest =>
    if 0 < markClass d && markClass d < markClass c then d :: insertMark c rest else c :: d :: rest

/-- Orders each run of marks by class; marks of one class keep their order. -/
def reorder (text : Text) : Text := text.foldr insertMark []

/-- The full compatibility decomposition of a text, with its marks in order. -/
def decompose (text : Text) : Text := reorder (text.flatMap decomposeChar)

def normalize (text : Text) : Text := decompose (lower text)

end CorpusSearch.Text
