-- Marks around needles. Where a needle is found in a text, the first place of one is marked: what
-- stands in front of it stays as it is, and what stands behind it is marked by itself. A text in
-- which no needle is found stays as it is.
import CorpusSearch.Snippet.Highlight
import Mathlib.Data.List.Infix

namespace CorpusSearch.Snippet

variable {needles : List Text} {needle text opening closing : Text}

/-! ## Equality up to case -/

/-- Two texts are equal up to case, character by character. -/
def EqualUpToCase (text other : Text) : Prop := text.map Text.caseClass = other.map Text.caseClass

/-- A needle stands somewhere in a text, up to case. -/
def OccursUpToCase (needle text : Text) : Prop :=
  needle.map Text.caseClass <:+: text.map Text.caseClass

instance instDecidableOccursUpToCase (needle text : Text) :
    Decidable (OccursUpToCase needle text) :=
  inferInstanceAs (Decidable (_ <:+: _))

theorem OccursUpToCase.of_isInfix (h : needle <:+: text) : OccursUpToCase needle text :=
  h.map Text.caseClass

theorem startsWith_iff (needle text : Text) : startsWith needle text = true ↔
    needle.map Text.caseClass <+: text.map Text.caseClass := by
  induction text generalizing needle with
  | nil => cases needle <;> simp [startsWith]
  | cons c rest ih =>
    cases needle with
    | nil => simp [startsWith]
    | cons d needle =>
      simp only [startsWith, Text.sameUpToCase, Bool.and_eq_true, beq_iff_eq, ih, List.map_cons,
        List.cons_prefix_cons]
      exact and_congr_left' eq_comm

theorem occursUpToCase_cons {c : Char} : OccursUpToCase needle (c :: text) ↔
    startsWith needle (c :: text) = true ∨ OccursUpToCase needle text := by
  unfold OccursUpToCase
  rw [startsWith_iff, List.map_cons, List.infix_cons_iff]

/-- What a text starts with up to case is the beginning of the text. -/
theorem equalUpToCase_take (h : startsWith needle text = true) :
    needle.length ≤ text.length ∧ EqualUpToCase (text.take needle.length) needle := by
  have hstarts := (startsWith_iff needle text).mp h
  have hle := hstarts.length_le
  rw [List.length_map, List.length_map] at hle
  refine ⟨hle, ?_⟩
  rw [List.prefix_iff_eq_take, List.length_map] at hstarts
  unfold EqualUpToCase
  rw [List.map_take, ← hstarts]

/-! ## The longest needle at one place -/

theorem max_longestMatch (needles : List Text) (text : Text) :
    (0 :: (needles.filter fun needle => startsWith needle text).map List.length).max? =
      some (longestMatch needles text) :=
  List.max?_cons'

theorem length_le_longestMatch (hneedle : needle ∈ needles) (h : startsWith needle text = true) :
    needle.length ≤ longestMatch needles text := by
  refine (List.max?_eq_some_iff.mp (max_longestMatch needles text)).2 _ ?_
  exact List.mem_cons_of_mem _ (List.mem_map_of_mem (List.mem_filter.mpr ⟨hneedle, h⟩))

theorem exists_needle_of_longestMatch (h : longestMatch needles text ≠ 0) :
    ∃ needle ∈ needles, startsWith needle text = true ∧
      needle.length = longestMatch needles text := by
  have hmem := (List.max?_eq_some_iff.mp (max_longestMatch needles text)).1
  obtain ⟨needle, hneedle, hlength⟩ := List.mem_map.mp ((List.mem_cons.mp hmem).resolve_left h)
  obtain ⟨hneedle, hstarts⟩ := List.mem_filter.mp hneedle
  exact ⟨needle, hneedle, hstarts, hlength⟩

/-! ## Marks -/

/-- The characters inside a needle stay, the closing mark stands behind them, and what follows is
marked by itself. -/
theorem markFrom_inside {inside : Nat} (h : inside + 1 ≤ text.length) :
    markFrom needles opening closing (inside + 1) text =
      text.take (inside + 1) ++
        (closing ++ markFrom needles opening closing 0 (text.drop (inside + 1))) := by
  induction inside generalizing text with
  | zero =>
    cases text with
    | nil => simp at h
    | cons c rest => simp [markFrom]
  | succ inside ih =>
    cases text with
    | nil => simp at h
    | cons c rest =>
      have hrest := ih (Nat.le_of_succ_le_succ h)
      rw [markFrom, hrest, List.take_succ_cons, List.drop_succ_cons, List.cons_append]

theorem markFrom_of_longestMatch_eq_zero {c : Char}
    (h : longestMatch needles (c :: text) = 0) :
    markFrom needles opening closing 0 (c :: text) =
      c :: markFrom needles opening closing 0 text := by
  rw [markFrom, h]

theorem markFrom_of_longestMatch {c : Char} (h : longestMatch needles (c :: text) ≠ 0) :
    let size := longestMatch needles (c :: text)
    markFrom needles opening closing 0 (c :: text) =
      opening ++ ((c :: text).take size ++
        (closing ++ markFrom needles opening closing 0 ((c :: text).drop size))) := by
  intro size
  have hsize : size ≤ (c :: text).length := by
    obtain ⟨needle, -, hstarts, hlength⟩ := exists_needle_of_longestMatch h
    exact hlength.symm.trans_le (equalUpToCase_take hstarts).1
  rw [markFrom]
  split
  · rename_i hnone
    exact absurd hnone h
  · rename_i hone
    simp only [size, hone]
    rfl
  · rename_i length hmore
    simp only [size, hmore] at hsize ⊢
    rw [markFrom_inside (Nat.le_of_succ_le_succ hsize)]
    rfl

theorem length_le_markFrom (inside : Nat) (text : Text) :
    text.length ≤ (markFrom needles opening closing inside text).length := by
  fun_induction markFrom needles opening closing inside text with
  | case1 => exact Nat.zero_le _
  | case2 | case3 | case4 | case5 | case6 =>
    simp only [List.length_cons, List.length_append]
    omega

theorem markFrom_eq_self
    (h : ∀ needle ∈ needles, needle ≠ [] → ¬ OccursUpToCase needle text) :
    markFrom needles opening closing 0 text = text := by
  induction text with
  | nil => rfl
  | cons c rest ih =>
    have hnone : longestMatch needles (c :: rest) = 0 := by
      by_contra hsome
      obtain ⟨needle, hneedle, hstarts, hlength⟩ := exists_needle_of_longestMatch hsome
      have hne : needle ≠ [] := List.ne_nil_of_length_pos (by omega)
      exact h needle hneedle hne (occursUpToCase_cons.mpr (Or.inl hstarts))
    rw [markFrom_of_longestMatch_eq_zero hnone, ih]
    exact fun needle hneedle hne hoccurs =>
      h needle hneedle hne (occursUpToCase_cons.mpr (Or.inr hoccurs))

/-- The first place where a needle is found is marked. -/
theorem exists_marked (hneedle : needle ∈ needles) (hne : needle ≠ [])
    (h : OccursUpToCase needle text) : ∃ before piece behind,
      text = before ++ (piece ++ behind) ∧
      (∃ other ∈ needles, other ≠ [] ∧ EqualUpToCase piece other) ∧
      markFrom needles opening closing 0 text =
        before ++ (opening ++ (piece ++
          (closing ++ markFrom needles opening closing 0 behind))) := by
  induction text with
  | nil =>
    have hnil : needle = [] := by simpa [OccursUpToCase] using h
    exact absurd hnil hne
  | cons c rest ih =>
    by_cases hnone : longestMatch needles (c :: rest) = 0
    · have hlater : OccursUpToCase needle rest := by
        refine (occursUpToCase_cons.mp h).resolve_left fun hstarts => hne ?_
        have hle := length_le_longestMatch hneedle hstarts
        exact List.length_eq_zero_iff.mp (by omega)
      obtain ⟨before, piece, behind, htext, hpiece, hmark⟩ := ih hlater
      refine ⟨c :: before, piece, behind, by rw [htext, List.cons_append], hpiece, ?_⟩
      rw [markFrom_of_longestMatch_eq_zero hnone, hmark, List.cons_append]
    · obtain ⟨other, hother, hstarts, hlength⟩ := exists_needle_of_longestMatch hnone
      have hequal := (equalUpToCase_take hstarts).2
      rw [hlength] at hequal
      refine ⟨[], _, _, (List.take_append_drop _ _).symm, ⟨other, hother, ?_, hequal⟩,
        markFrom_of_longestMatch hnone⟩
      exact List.ne_nil_of_length_pos (by omega)

/-! ## The law -/

/-- Needles that are never found: those that end with a capital past U+FFFF, where the nonempty
needles are several that differ in their last characters alone. -/
def IsMissed (needles : List Text) (needle : Text) : Prop :=
  differAtEnd (needles.filter fun needle => !needle.isEmpty) = true ∧
    endsWithFarCapital needle = true

instance instDecidableIsMissed (needles : List Text) (needle : Text) :
    Decidable (IsMissed needles needle) :=
  inferInstanceAs (Decidable (_ ∧ _))

theorem mem_findable : needle ∈ findable needles ↔
    needle ∈ needles ∧ needle ≠ [] ∧ ¬ IsMissed needles needle := by
  have hnonempty : needle ∈ needles.filter (fun needle => !needle.isEmpty) ↔
      needle ∈ needles ∧ needle ≠ [] := by
    simp
  unfold findable IsMissed
  dsimp only
  split
  · rename_i hdiffer
    rw [List.mem_filter, hnonempty, and_assoc]
    simp [hdiffer]
  · rename_i hdiffer
    rw [hnonempty]
    simp [hdiffer]

/-- A match of a needle is marked in a text: in front of it the text stays as it is, and behind it
the rest is marked by itself. -/
def IsMarked (opening closing : Text) (needles : List Text) (text : Text) : Prop :=
  ∃ before piece behind, text = before ++ (piece ++ behind) ∧
    (∃ needle ∈ needles, needle ≠ [] ∧ EqualUpToCase piece needle) ∧
    highlight opening closing needles text =
      before ++ (opening ++ (piece ++ (closing ++ highlight opening closing needles behind)))

/-- A text has a mark exactly when a needle that can be found stands in it up to case. -/
theorem isMarked_iff (hmarks : opening ++ closing ≠ []) :
    IsMarked opening closing needles text ↔
      ∃ needle ∈ findable needles, OccursUpToCase needle text := by
  constructor
  · rintro ⟨before, piece, behind, htext, -, hmark⟩
    by_contra hnone
    have hself : highlight opening closing needles text = text :=
      markFrom_eq_self fun needle hneedle _ hoccurs => hnone ⟨needle, hneedle, hoccurs⟩
    -- The marks make a text longer.
    have hbehind : behind.length ≤ (highlight opening closing needles behind).length :=
      length_le_markFrom 0 behind
    have hlength := congrArg List.length (hself.symm.trans hmark)
    have hpos := List.length_pos_iff.mpr hmarks
    rw [htext] at hlength
    simp only [List.length_append] at hlength hpos
    omega
  · rintro ⟨needle, hneedle, hoccurs⟩
    obtain ⟨before, piece, behind, htext, ⟨other, hother, hne, hequal⟩, hmark⟩ :=
      exists_marked hneedle (mem_findable.mp hneedle).2.1 hoccurs
    exact ⟨before, piece, behind, htext, ⟨other, (mem_findable.mp hother).1, hne, hequal⟩, hmark⟩

end CorpusSearch.Snippet
