-- Tables that have no code point in common. The set of the code points of a table is held as one
-- number, whose bits are the code points; two tables are apart when the two numbers share no bit,
-- which is checked by one computation for all code points.
import CorpusSearch.Text.Ranges

namespace CorpusSearch.Text

/-! ## Code points in ranges -/

theorem toNat_ofNat (code : Nat) :
    (Char.ofNat code).toNat = code ∨ Char.ofNat code = '\x00' := by
  by_cases hvalid : code.isValidChar
  · left
    rw [Char.ofNat, dif_pos hvalid]
    rfl
  · right
    rw [Char.ofNat, dif_neg hvalid]
    rfl

/-- A code point lies in one of the ranges, in whatever order they stand. -/
def Within (ranges : List (Nat × Nat)) (code : Nat) : Prop :=
  ∃ range ∈ ranges, range.1 ≤ code ∧ code ≤ range.2

@[simp] theorem not_within_nil (code : Nat) : ¬ Within [] code := by
  rintro ⟨_, hmem, _⟩
  cases hmem

@[simp] theorem within_cons (range : Nat × Nat) (ranges : List (Nat × Nat)) (code : Nat) :
    Within (range :: ranges) code ↔ (range.1 ≤ code ∧ code ≤ range.2) ∨ Within ranges code := by
  simp [Within]

theorem within_of_inRanges {ranges : List (Nat × Nat)} {code : Nat}
    (h : inRanges ranges code = true) : Within ranges code := by
  induction ranges with
  | nil => cases h
  | cons range ranges ih =>
    unfold inRanges at h
    split at h
    · cases h
    · rename_i hfirst
      rw [within_cons]
      rcases Bool.or_eq_true_iff.mp h with hlast | hrest
      · exact Or.inl ⟨by omega, of_decide_eq_true hlast⟩
      · exact Or.inr (ih hrest)

/-- The ranges of the rows of a table. -/
def spans {α : Type} (rows : List (Nat × Nat × α)) : List (Nat × Nat) :=
  rows.map fun row => (row.1, row.2.1)

theorem row_of_rowOf? {α : Type} {rows : List (Nat × Nat × α)} {code distance : Nat} {value : α}
    (h : rowOf? rows code = some (distance, value)) :
    ∃ first last, (first, last, value) ∈ rows ∧ first ≤ code ∧ code ≤ last ∧
      distance = code - first := by
  induction rows with
  | nil => cases h
  | cons row rows ih =>
    obtain ⟨first, last, v⟩ := row
    unfold rowOf? at h
    split at h
    · cases h
    · split at h
      · rename_i hfirst hlast
        cases h
        exact ⟨first, last, List.mem_cons_self .., by omega, hlast, rfl⟩
      · obtain ⟨first', last', hmem, hin⟩ := ih h
        exact ⟨first', last', List.mem_cons_of_mem _ hmem, hin⟩

theorem within_of_rowOf? {α : Type} {rows : List (Nat × Nat × α)} {code : Nat} {found : Nat × α}
    (h : rowOf? rows code = some found) : Within (spans rows) code := by
  obtain ⟨first, last, hmem, hfirst, hlast, _⟩ := row_of_rowOf? h
  exact ⟨(first, last), List.mem_map.mpr ⟨_, hmem, rfl⟩, hfirst, hlast⟩

/-! ## Sets as numbers -/

/-- The number whose bits are the code points in ranges. -/
def bits (ranges : List (Nat × Nat)) : Nat :=
  ranges.foldr (fun range set => ((1 <<< (range.2 + 1 - range.1) - 1) <<< range.1) ||| set) 0

theorem testBit_bits {ranges : List (Nat × Nat)} {code : Nat} (h : Within ranges code) :
    (bits ranges).testBit code = true := by
  obtain ⟨range, hmem, hfirst, hlast⟩ := h
  unfold bits
  induction ranges with
  | nil => cases hmem
  | cons other ranges ih =>
    rw [List.foldr_cons, Nat.testBit_or, Nat.testBit_shiftLeft, Nat.one_shiftLeft,
      Nat.testBit_two_pow_sub_one]
    rcases List.mem_cons.mp hmem with rfl | hrest
    · have hbit : code - range.1 < range.2 + 1 - range.1 := by omega
      simp [hfirst, hbit]
    · rw [ih hrest, Bool.or_true]

/-- Two tables have no code point in common. -/
def Apart (ranges others : List (Nat × Nat)) : Prop := bits ranges &&& bits others = 0

instance instDecidableApart (ranges others : List (Nat × Nat)) : Decidable (Apart ranges others) :=
  inferInstanceAs (Decidable (bits ranges &&& bits others = 0))

theorem Apart.not_within {ranges others : List (Nat × Nat)} {code : Nat} (h : Apart ranges others)
    (hs : Within ranges code) : ¬ Within others code := by
  intro ho
  have hbit : (bits ranges &&& bits others).testBit code = true := by
    rw [Nat.testBit_and, testBit_bits hs, testBit_bits ho, Bool.and_self]
  rw [h, Nat.zero_testBit] at hbit
  cases hbit

/-- A code point of one table is in no row of a table that is apart from it. -/
theorem Apart.inRanges_eq_false {ranges others : List (Nat × Nat)} {code : Nat}
    (h : Apart ranges others) (hs : Within ranges code) : inRanges others code = false := by
  cases ho : inRanges others code with
  | false => rfl
  | true => exact absurd (within_of_inRanges ho) (h.not_within hs)

theorem Apart.rowOf?_eq_none {α : Type} {ranges : List (Nat × Nat)} {rows : List (Nat × Nat × α)}
    {code : Nat} (h : Apart ranges (spans rows)) (hs : Within ranges code) :
    rowOf? rows code = none := by
  cases ho : rowOf? rows code with
  | none => rfl
  | some found => exact absurd (within_of_rowOf? ho) (h.not_within hs)

end CorpusSearch.Text
