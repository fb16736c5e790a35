-- Blanks are neutral: they have no case, letters around them do not look past them, they are their
-- own lower case, they are no marks, and each of them decomposes to one blank. A text is stripped
-- of blanks only.
import CorpusSearch.Proofs.Text.Apart
import CorpusSearch.Text.Blank
import CorpusSearch.Text.Decomposition
import Mathlib.Data.List.TakeWhile

namespace CorpusSearch.Text

def blankRanges : List (Nat × Nat) :=
  [(9, 13), (28, 32), (0x85, 0x85), (0xA0, 0xA0), (0x1680, 0x1680), (0x2000, 0x200A),
   (0x2028, 0x2029), (0x202F, 0x202F), (0x205F, 0x205F), (0x3000, 0x3000)]

theorem within_of_isBlank {c : Char} (h : isBlank c = true) : Within blankRanges c.toNat := by
  simp only [isBlank, Bool.or_eq_true, Bool.and_eq_true, decide_eq_true_eq, beq_iff_eq] at h
  simp only [blankRanges, within_cons, not_within_nil]
  omega

/-- What holds of the first 128 characters holds of every character below 128. -/
theorem of_lt_128 {p : Char → Prop} (h : ∀ n < 128, p (Char.ofNat n)) {c : Char}
    (hc : c.toNat < 128) : p c := by
  have := h c.toNat hc
  rwa [Char.ofNat_toNat] at this

theorem apart_blankRanges :
    Apart blankRanges Table.cased ∧ Apart blankRanges Table.ignorable ∧
      Apart blankRanges (spans Table.lowerRuns) ∧ Apart blankRanges (spans Table.marks) := by
  decide +kernel

/-! ## Case -/

theorem isCased_of_isBlank {c : Char} (h : isBlank c = true) : isCased c = false :=
  apart_blankRanges.1.inRanges_eq_false (within_of_isBlank h)

theorem isIgnorable_of_isBlank {c : Char} (h : isBlank c = true) : isIgnorable c = false :=
  apart_blankRanges.2.1.inRanges_eq_false (within_of_isBlank h)

theorem runImage?_of_isBlank {c : Char} (h : isBlank c = true) :
    runImage? Table.lowerRuns c.toNat = none := by
  rw [runImage?, apart_blankRanges.2.2.1.rowOf?_eq_none (within_of_isBlank h)]

theorem lowerChar_of_isBlank {c : Char} (h : isBlank c = true) : lowerChar c = [c] := by
  unfold lowerChar
  split
  · rename_i hascii
    exact of_lt_128 (p := fun c => isBlank c = true → [c.toLower] = [c]) (by decide) hascii h
  · have hmany : entryOf? Table.lowerMany c.toNat = none := by
      have hne : c.toNat ≠ 0x130 := by
        intro heq
        simp [isBlank, heq] at h
      simp [entryOf?, Table.lowerMany, Ne.symm hne]
    rw [runImage?_of_isBlank h, hmany]

/-- A character that neither has case nor is passed over, and is its own lower-case form. -/
structure IsNeutral (c : Char) : Prop where
  cased : isCased c = false
  ignorable : isIgnorable c = false
  lower : lowerChar c = [c]

theorem isNeutral_of_isBlank {c : Char} (h : isBlank c = true) : IsNeutral c :=
  ⟨isCased_of_isBlank h, isIgnorable_of_isBlank h, lowerChar_of_isBlank h⟩

/-! ## Decomposition -/

theorem markClass_of_isBlank {c : Char} (h : isBlank c = true) : markClass c = 0 := by
  unfold markClass
  split
  · rfl
  · rw [apart_blankRanges.2.2.2.rowOf?_eq_none (within_of_isBlank h)]

/-- The code points of blanks that are not below U+00A0. -/
def farBlanks : List Nat :=
  [0xA0, 0x1680, 0x2000, 0x2001, 0x2002, 0x2003, 0x2004, 0x2005, 0x2006, 0x2007, 0x2008, 0x2009,
   0x200A, 0x2028, 0x2029, 0x202F, 0x205F, 0x3000]

theorem decomposeChar_of_isBlank {c : Char} (h : isBlank c = true) :
    ∃ d, isBlank d = true ∧ decomposeChar c = [d] := by
  unfold decomposeChar
  split
  · exact ⟨c, h, rfl⟩
  · rename_i hfar
    have hmem : c.toNat ∈ farBlanks := by
      simp only [isBlank, Bool.or_eq_true, Bool.and_eq_true, decide_eq_true_eq, beq_iff_eq] at h
      simp only [farBlanks, List.mem_cons, List.not_mem_nil, or_false]
      omega
    have hall : ∀ code ∈ farBlanks,
        decomposeCode code = [0x20] ∨ decomposeCode code = [code] := by decide +kernel
    rcases hall _ hmem with hspace | hself
    · exact ⟨' ', rfl, by rw [hspace]; rfl⟩
    · refine ⟨c, h, ?_⟩
      rw [hself, ofCodes, List.map_singleton, Char.ofNat_toNat]

/-! ## Stripped texts -/

theorem forall_mem_dropWhile {p : Char → Bool} {text : Text} :
    (∀ c ∈ text.dropWhile p, p c = true) ↔ ∀ c ∈ text, p c = true := by
  induction text with
  | nil => exact Iff.rfl
  | cons c rest ih =>
    rw [List.dropWhile_cons]
    split
    · rename_i hc
      rw [ih, List.forall_mem_cons]
      exact ⟨fun h => ⟨hc, h⟩, And.right⟩
    · rfl

theorem forall_isBlank_strip {text : Text} :
    (∀ c ∈ text.strip, isBlank c = true) ↔ ∀ c ∈ text, isBlank c = true := by
  simp only [strip, stripEnd, stripStart, List.mem_reverse, forall_mem_dropWhile]

theorem strip_eq_nil_iff {text : Text} : text.strip = [] ↔ ∀ c ∈ text, isBlank c = true := by
  simp only [strip, stripEnd, stripStart, List.reverse_eq_nil_iff, List.dropWhile_eq_nil_iff,
    List.mem_reverse, forall_mem_dropWhile]

end CorpusSearch.Text
