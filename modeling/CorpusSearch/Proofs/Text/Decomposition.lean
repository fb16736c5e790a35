-- Decompositions are full: what a character decomposes to is not decomposed further. The tables are
-- compared as sets of code points, those that have a decomposition with those that appear in one.
import CorpusSearch.Proofs.Text.Apart
import CorpusSearch.Proofs.Text.Marks
import CorpusSearch.Text.Decomposition

namespace CorpusSearch.Text

/-! ## The tables -/

def allRows : List (Nat × Nat × List Nat) :=
  Table.decomposeLatin ++ Table.decomposeGreek ++ Table.decomposeSymbol ++ Table.decomposeEast ++
    Table.decomposeIdeograph ++ Table.decomposeForm ++ Table.decomposeBeyond ++
    Table.decomposeSupplement

theorem mem_allRows {code : Nat} {row : Nat × Nat × List Nat}
    (h : row ∈ decompositionRows code) : row ∈ allRows := by
  simp only [allRows, List.mem_append]
  unfold decompositionRows at h
  repeat' split at h
  all_goals simp [h]

/-- The code points of the composed Hangul syllables. -/
def hangulRange : Nat × Nat := (0xAC00, 0xD7A3)

/-- The code points of the letters of Hangul syllables. -/
def hangulLetters : List (Nat × Nat) := [(0x1100, 0x1112), (0x1161, 0x1175), (0x11A7, 0x11C2)]

/-- The code points in the decompositions of a row. -/
def rowImages (row : Nat × Nat × List Nat) : List (Nat × Nat) :=
  match row.2.2 with
  | [] => []
  | part :: parts => (part, part + (row.2.1 - row.1)) :: parts.map fun p => (p, p)

/-- The code points in all decompositions. -/
def images : List (Nat × Nat) := hangulLetters ++ allRows.flatMap rowImages

theorem within_append (ranges others : List (Nat × Nat)) (code : Nat) :
    Within (ranges ++ others) code ↔ Within ranges code ∨ Within others code := by
  simp [Within, or_and_right, exists_or]

theorem within_hangulLetters {code part : Nat} (h : code ≤ 0xD7A3)
    (hpart : part ∈ hangulParts code) : Within hangulLetters part := by
  simp only [hangulLetters, within_cons, not_within_nil]
  unfold hangulParts at hpart
  simp only at hpart
  split at hpart
  · simp only [List.mem_cons, List.not_mem_nil, or_false] at hpart
    omega
  · simp only [List.cons_append, List.nil_append, List.mem_cons, List.not_mem_nil,
      or_false] at hpart
    omega

theorem within_rowImages {first last code part : Nat} {parts : List Nat}
    (hfirst : first ≤ code) (hlast : code ≤ last) {p : Nat}
    (hp : p ∈ (part + (code - first)) :: parts) :
    Within (rowImages (first, last, part :: parts)) p := by
  simp only [rowImages, within_cons]
  rcases List.mem_cons.mp hp with rfl | hrest
  · left
    omega
  · exact Or.inr ⟨(p, p), List.mem_map.mpr ⟨p, hrest, rfl⟩, Nat.le_refl p, Nat.le_refl p⟩

/-! ## One character -/

/-- A decomposition is the code point itself or made of code points in the images. -/
theorem decomposeCode_cases (code : Nat) :
    decomposeCode code = [code] ∨ ∀ p ∈ decomposeCode code, Within images p := by
  unfold decomposeCode
  split
  · exact Or.inl rfl
  · split
    · rename_i hhangul
      simp only [Bool.and_eq_true, decide_eq_true_eq] at hhangul
      right
      intro p hp
      exact (within_append ..).mpr (Or.inl (within_hangulLetters hhangul.2 hp))
    · split
      · rename_i distance part parts hrow
        right
        intro p hp
        obtain ⟨first, last, hmem, hfirst, hlast, rfl⟩ := row_of_rowOf? hrow
        obtain ⟨range, hrange, hin⟩ := within_rowImages hfirst hlast hp
        have hall : range ∈ allRows.flatMap rowImages :=
          List.mem_flatMap.mpr ⟨_, mem_allRows hmem, hrange⟩
        exact ⟨range, List.mem_append_right _ hall, hin⟩
      · exact Or.inl rfl

theorem apart_images : Apart images (hangulRange :: spans allRows) := by decide +kernel

theorem decomposeCode_of_within {code : Nat} (h : Within images code) :
    decomposeCode code = [code] := by
  have hnot := apart_images.not_within h
  rw [within_cons, not_or] at hnot
  unfold decomposeCode
  split
  · rfl
  · split
    · rename_i hhangul
      simp only [Bool.and_eq_true, decide_eq_true_eq] at hhangul
      exact absurd hhangul hnot.1
    · cases hrow : rowOf? (decompositionRows code) code with
      | none => rfl
      | some found =>
        obtain ⟨first, last, hmem, hfirst, hlast, _⟩ := row_of_rowOf? hrow
        have hspan : (first, last) ∈ spans allRows :=
          List.mem_map.mpr ⟨_, mem_allRows hmem, rfl⟩
        exact absurd ⟨_, hspan, hfirst, hlast⟩ hnot.2

theorem decomposeCode_of_mem {code p : Nat} (h : p ∈ decomposeCode code) :
    decomposeCode p = [p] := by
  rcases decomposeCode_cases code with hself | hall
  · have : p = code := by simpa [hself] using h
    rw [this, hself]
  · exact decomposeCode_of_within (hall p h)

/-- The characters that a character decomposes to decompose to themselves. -/
theorem decomposeChar_of_mem {c d : Char} (h : d ∈ decomposeChar c) : decomposeChar d = [d] := by
  unfold decomposeChar at h
  split at h
  · rename_i hsmall
    rw [List.mem_singleton.mp h, decomposeChar, if_pos hsmall]
  · obtain ⟨p, hp, rfl⟩ := List.mem_map.mp h
    unfold decomposeChar
    split
    · rfl
    · rename_i hlarge
      have hcode : (Char.ofNat p).toNat = p := by
        rcases toNat_ofNat p with hcode | hzero
        · exact hcode
        · rw [hzero] at hlarge
          exact absurd (by decide) hlarge
      rw [hcode, decomposeCode_of_mem hp]
      rfl

/-! ## Texts -/

theorem decomposeChar_of_mem_decompose {d : Char} {text : Text} (h : d ∈ decompose text) :
    decomposeChar d = [d] := by
  obtain ⟨c, _, hc⟩ := List.mem_flatMap.mp ((reorder_perm _).mem_iff.mp h)
  exact decomposeChar_of_mem hc

end CorpusSearch.Text
