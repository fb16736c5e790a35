-- Where a part occurs in a text, found from left to right without overlap. Each place that is found
-- holds the part, a part that stands in the text is found, and no other list of places is found
-- from left to right.
import CorpusSearch.Text.Basic
import Mathlib.Data.List.Infix

namespace CorpusSearch.Text

variable {part text : Text}

/-- Positions are counted from that of the first character, and the part stands at each of them. -/
theorem prefix_of_mem_occurrencesFrom {position skip found : Nat}
    (h : found ∈ occurrencesFrom part position skip text) :
    position ≤ found ∧ part <+: text.drop (found - position) := by
  have behind : ∀ {position : Nat} {c : Char} {rest : Text},
      position + 1 ≤ found ∧ part <+: rest.drop (found - (position + 1)) →
        position ≤ found ∧ part <+: (c :: rest).drop (found - position) := by
    rintro position c rest ⟨hle, hpart⟩
    refine ⟨Nat.le_of_succ_le hle, ?_⟩
    rwa [show found - position = found - (position + 1) + 1 by omega, List.drop_succ_cons]
  fun_induction occurrencesFrom part position skip text with
  | case1 => cases h
  | case2 position skip c rest ih => exact behind (ih h)
  | case3 position c rest hstands ih =>
    rcases List.mem_cons.mp h with rfl | hrest
    · rw [Nat.sub_self, List.drop_zero]
      exact ⟨Nat.le_refl _, List.isPrefixOf_iff_prefix.mp hstands⟩
    · exact behind (ih hrest)
  | case4 position c rest hstands ih => exact behind (ih h)

theorem prefix_of_mem_occurrences {found : Nat} (h : found ∈ occurrences part text) :
    part <+: text.drop found :=
  (prefix_of_mem_occurrencesFrom h).2

theorem pairwise_occurrencesFrom (part : Text) (position skip : Nat) (text : Text) :
    (occurrencesFrom part position skip text).Pairwise (· ≤ ·) := by
  fun_induction occurrencesFrom part position skip text with
  | case1 => exact .nil
  | case2 position skip c rest ih => exact ih
  | case3 position c rest hstands ih =>
    refine List.pairwise_cons.mpr ⟨fun found hfound => ?_, ih⟩
    exact Nat.le_of_succ_le (prefix_of_mem_occurrencesFrom hfound).1
  | case4 position c rest hstands ih => exact ih

theorem pairwise_occurrences (part text : Text) : (occurrences part text).Pairwise (· ≤ ·) :=
  pairwise_occurrencesFrom part 0 0 text

theorem occurrencesFrom_eq_nil_iff (hpart : part ≠ []) (position : Nat) :
    occurrencesFrom part position 0 text = [] ↔ ¬ part <:+: text := by
  induction text generalizing position with
  | nil => simp [occurrencesFrom, hpart]
  | cons c rest ih =>
    rw [List.infix_cons_iff, not_or, ← ih (position + 1), ← List.isPrefixOf_iff_prefix,
      occurrencesFrom]
    split
    · rename_i hstands
      simp [hstands]
    · rename_i hstands
      simp [hstands]

/-- A nonempty part has an occurrence exactly when it stands somewhere in the text. -/
theorem occurrences_eq_nil_iff (hpart : part ≠ []) :
    occurrences part text = [] ↔ ¬ part <:+: text :=
  occurrencesFrom_eq_nil_iff hpart 0

/-! ## From left to right -/

/-- Places of a part in a text, from left to right: each one is the first place of the part at or
behind the start, or behind the end of the one before it, and no place is left behind the last. -/
inductive IsGreedy (part text : Text) : (start : Nat) → List Nat → Prop
  | none {start : Nat} (hnone : ∀ found, start ≤ found → ¬ part <+: text.drop found) :
      IsGreedy part text start []
  | next {start found : Nat} {rest : List Nat} (hle : start ≤ found)
      (hstands : part <+: text.drop found)
      (hfirst : ∀ earlier, start ≤ earlier → earlier < found → ¬ part <+: text.drop earlier)
      (hrest : IsGreedy part text (found + part.length) rest) :
      IsGreedy part text start (found :: rest)

theorem IsGreedy.of_succ {start : Nat} {places : List Nat}
    (h : IsGreedy part text (start + 1) places) (hstart : ¬ part <+: text.drop start) :
    IsGreedy part text start places := by
  cases h with
  | none hnone =>
    refine .none fun found hle => ?_
    rcases Nat.eq_or_lt_of_le hle with rfl | hlt
    · exact hstart
    · exact hnone found hlt
  | next hle hstands hfirst hrest =>
    refine .next (Nat.le_of_succ_le hle) hstands (fun earlier hearlier hlt => ?_) hrest
    rcases Nat.eq_or_lt_of_le hearlier with rfl | hbehind
    · exact hstart
    · exact hfirst earlier hbehind hlt

theorem isGreedy_occurrencesFrom (hpart : part ≠ []) (position skip : Nat) {rest : Text}
    (hrest : text.drop position = rest) :
    IsGreedy part text (position + skip) (occurrencesFrom part position skip rest) := by
  have htail : ∀ {position : Nat} {c : Char} {rest : Text},
      text.drop position = c :: rest → text.drop (position + 1) = rest := by
    intro position c rest h
    rw [← List.drop_drop, h, List.drop_succ_cons, List.drop_zero]
  fun_induction occurrencesFrom part position skip rest with
  | case1 position skip =>
    refine .none fun found hle hstands => ?_
    have hend : text.drop found = [] := by
      rw [← Nat.add_sub_of_le (Nat.le_of_add_right_le hle), ← List.drop_drop, hrest, List.drop_nil]
    rw [hend] at hstands
    exact hpart (List.prefix_nil.mp hstands)
  | case2 position skip c rest ih =>
    rw [← Nat.succ_add_eq_add_succ]
    exact ih (htail hrest)
  | case3 position c rest hstands ih =>
    have hlength : position + 1 + (part.length - 1) = position + part.length := by
      have := List.length_pos_iff.mpr hpart
      omega
    refine .next (Nat.le_refl _) ?_ (fun earlier hle hlt => absurd hlt (Nat.not_lt.mpr hle)) ?_
    · rw [hrest]
      exact List.isPrefixOf_iff_prefix.mp hstands
    · rw [← hlength]
      exact ih (htail hrest)
  | case4 position c rest hstands ih =>
    refine IsGreedy.of_succ (ih (htail hrest)) ?_
    rwa [Nat.add_zero, hrest, ← List.isPrefixOf_iff_prefix]

theorem IsGreedy.unique {start : Nat} {places others : List Nat}
    (h : IsGreedy part text start places) (h' : IsGreedy part text start others) :
    places = others := by
  induction h generalizing others with
  | none hnone =>
    cases h' with
    | none => rfl
    | next hle hstands => exact absurd hstands (hnone _ hle)
  | @next start found rest hle hstands hfirst hrest ih =>
    cases h' with
    | none hnone => exact absurd hstands (hnone _ hle)
    | @next _ other _ hle' hstands' hfirst' hrest' =>
      obtain rfl : found = other := by
        rcases Nat.lt_trichotomy found other with hlt | heq | hlt
        · exact absurd hstands (hfirst' found hle hlt)
        · exact heq
        · exact absurd hstands' (hfirst other hle' hlt)
      rw [ih hrest']

/-- The occurrences of a nonempty part are its places from left to right, and the only ones. -/
theorem isGreedy_iff (hpart : part ≠ []) {places : List Nat} :
    IsGreedy part text 0 places ↔ places = occurrences part text := by
  have hgreedy : IsGreedy part text 0 (occurrences part text) :=
    isGreedy_occurrencesFrom hpart 0 0 rfl
  exact ⟨fun h => h.unique hgreedy, fun h => h ▸ hgreedy⟩

theorem IsGreedy.start_le {start found : Nat} {places : List Nat}
    (h : IsGreedy part text start places) (hfound : found ∈ places) : start ≤ found := by
  induction h with
  | none => cases hfound
  | next hle _ _ _ ih =>
    rcases List.mem_cons.mp hfound with rfl | hrest
    · exact hle
    · exact Nat.le_trans hle (Nat.le_of_add_right_le (ih hrest))

theorem IsGreedy.pairwise {start : Nat} {places : List Nat}
    (h : IsGreedy part text start places) :
    places.Pairwise fun found behind => found + part.length ≤ behind := by
  induction h with
  | none => exact .nil
  | next _ _ _ hrest ih => exact .cons (fun _ hbehind => hrest.start_le hbehind) ih

theorem pairwise_lt_occurrences (hpart : part ≠ []) (text : Text) :
    (occurrences part text).Pairwise (· < ·) := by
  refine ((isGreedy_iff hpart).mpr rfl).pairwise.imp fun {found behind} hle => ?_
  have := List.length_pos_iff.mpr hpart
  omega

end CorpusSearch.Text
