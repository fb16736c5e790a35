-- ASCII texts: each letter changes case by itself, nothing decomposes, and the normal form is the
-- lower-case form. Blanks past ASCII may stand between the letters.
import CorpusSearch.Proofs.Text.Normal

namespace CorpusSearch.Text

theorem toLower_of_isBlank {c : Char} (h : isBlank c = true) : c.toLower = c := by
  have hne : ¬ (65 ≤ c.toNat ∧ c.toNat ≤ 90) := by
    simp only [isBlank, Bool.or_eq_true, Bool.and_eq_true, decide_eq_true_eq, beq_iff_eq] at h
    omega
  unfold Char.toLower
  rw [dif_neg]
  rintro ⟨hfirst, hlast⟩
  exact hne ⟨UInt32.le_iff_toNat_le.mp hfirst, UInt32.le_iff_toNat_le.mp hlast⟩

theorem lowerFrom_eq_map (cased : Bool) {text : Text}
    (h : ∀ c ∈ text, c.toNat < 128 ∨ isBlank c = true) :
    lowerFrom cased text = text.map Char.toLower := by
  induction text generalizing cased with
  | nil => rfl
  | cons c text ih =>
    have hrest := ih (casedAfter cased c) fun d hd => h d (List.mem_cons_of_mem _ hd)
    have hfirst : lowerChar c = [c.toLower] := by
      rcases h c (List.mem_cons_self ..) with hascii | hblank
      · simp [lowerChar, hascii]
      · rw [lowerChar_of_isBlank hblank, toLower_of_isBlank hblank]
    have hsigma : c ≠ 'Σ' := by
      rintro rfl
      exact absurd (h 'Σ' (List.mem_cons_self ..)) (by decide)
    rw [lowerFrom, if_neg hsigma, hfirst, hrest]
    rfl

/-- Texts of ASCII characters and blanks are lowered character by character. -/
theorem lower_eq_map {text : Text} (h : ∀ c ∈ text, c.toNat < 128 ∨ isBlank c = true) :
    text.lower = text.map Char.toLower :=
  lowerFrom_eq_map false h

variable {text : Text}

theorem lower_of_ascii (h : ∀ c ∈ text, c.toNat < 128) : text.lower = text.map Char.toLower :=
  lower_eq_map fun c hc => Or.inl (h c hc)

theorem upper_of_ascii (h : ∀ c ∈ text, c.toNat < 128) : text.upper = text.map Char.toUpper := by
  calc text.upper = text.flatMap fun c => [c.toUpper] :=
        List.flatMap_congr fun c hc => by simp [upperChar, h c hc]
    _ = text.map Char.toUpper := (List.map_eq_flatMap ..).symm

theorem map_toLower_upper (h : ∀ c ∈ text, c.toNat < 128) :
    text.upper.map Char.toLower = text.lower := by
  rw [upper_of_ascii h, lower_of_ascii h, List.map_map]
  apply List.map_congr_left
  intro c hc
  exact of_lt_128 (p := fun c => c.toUpper.toLower = c.toLower) (by decide) (h c hc)

theorem normalize_of_ascii (h : ∀ c ∈ text, c.toNat < 128) : text.normalize = text.lower := by
  have hlower : ∀ c ∈ text.lower, c.toNat < 128 := by
    rw [lower_of_ascii h]
    intro d hd
    obtain ⟨c, hc, rfl⟩ := List.mem_map.mp hd
    exact of_lt_128 (p := fun c => c.toLower.toNat < 128) (by decide) (h c hc)
  apply decompose_of_starters
  · intro c hc
    have : c.toNat < 128 := hlower c hc
    exact if_pos (by omega)
  · intro c hc
    have : c.toNat < 128 := hlower c hc
    exact if_pos (by omega)

end CorpusSearch.Text
