-- The order of marks. Ordering a text moves its characters and leaves each run of marks in order,
-- and what stands in order already stays as it is.
import CorpusSearch.Text.Decomposition
import Mathlib.Data.List.Chain

namespace CorpusSearch.Text

/-- Two neighbours stand in order unless the second is a mark of a lower class. -/
def InOrder (c d : Char) : Prop := ¬ (0 < markClass d ∧ markClass d < markClass c)

theorem insertMark_of_isChain {c : Char} {text : Text} (h : (c :: text).IsChain InOrder) :
    insertMark c text = c :: text := by
  cases text with
  | nil => rfl
  | cons d rest =>
    have hfirst : InOrder c d := h.rel
    unfold insertMark
    rw [if_neg]
    simpa [InOrder] using hfirst

theorem isChain_insertMark (c : Char) {text : Text} (h : text.IsChain InOrder) :
    (insertMark c text).IsChain InOrder := by
  induction text with
  | nil => exact List.isChain_singleton c
  | cons d rest ih =>
    unfold insertMark
    split
    · rename_i hpast
      rw [Bool.and_eq_true, decide_eq_true_iff, decide_eq_true_iff] at hpast
      refine (ih h.tail).cons fun e he => ?_
      -- Behind `d` stands `c` now, or what stood behind `d` before.
      rw [List.isChain_cons] at h
      cases rest with
      | nil =>
        cases he
        unfold InOrder
        omega
      | cons f rest =>
        unfold insertMark at he
        split at he
        · exact h.1 e he
        · cases he
          unfold InOrder
          omega
    · rename_i hstay
      refine h.cons fun e he => ?_
      cases he
      simpa [InOrder] using hstay

theorem isChain_reorder (text : Text) : (reorder text).IsChain InOrder := by
  induction text with
  | nil => exact List.isChain_nil
  | cons c text ih => exact isChain_insertMark c ih

theorem reorder_of_isChain {text : Text} (h : text.IsChain InOrder) : reorder text = text := by
  induction text with
  | nil => rfl
  | cons c text ih =>
    have hcons : reorder (c :: text) = insertMark c (reorder text) := rfl
    rw [hcons, ih h.tail, insertMark_of_isChain h]

theorem insertMark_perm (c : Char) (text : Text) : (insertMark c text).Perm (c :: text) := by
  induction text with
  | nil => exact List.Perm.refl _
  | cons d rest ih =>
    unfold insertMark
    split
    · exact (ih.cons d).trans (List.Perm.swap c d rest)
    · exact List.Perm.refl _

theorem reorder_perm (text : Text) : (reorder text).Perm text := by
  induction text with
  | nil => exact List.Perm.refl _
  | cons c text ih => exact (insertMark_perm c _).trans (ih.cons c)

end CorpusSearch.Text
