-- Lower case keeps what divides the terms of a query: no letter becomes a blank or a plus sign, and
-- no text becomes empty. ASCII letters become ASCII letters.
import CorpusSearch.Proofs.Text.Blank
import CorpusSearch.Proofs.Text.Words

namespace CorpusSearch.Text

/-! ## Where the characters of a lower-case text come from -/

theorem codes_of_lowerMany {code : Nat} {codes : List Nat}
    (h : entryOf? Table.lowerMany code = some codes) : codes = [0x0069, 0x0307] := by
  simp only [entryOf?, Table.lowerMany, List.find?_cons] at h
  split at h
  · simpa using h.symm
  · cases h

theorem lowerChar_ne_nil (c : Char) : lowerChar c ≠ [] := by
  unfold lowerChar
  split
  · simp
  · split
    · simp
    · split
      · rename_i codes hmany
        simp [codes_of_lowerMany hmany, ofCodes]
      · simp

theorem lowerFrom_ne_nil (cased : Bool) {text : Text} (h : text ≠ []) :
    lowerFrom cased text ≠ [] := by
  obtain ⟨c, rest, rfl⟩ := List.exists_cons_of_ne_nil h
  rw [lowerFrom, Ne, List.append_eq_nil_iff, not_and]
  intro hfirst
  split at hfirst
  · cases hfirst
  · exact absurd hfirst (lowerChar_ne_nil c)

/-- A character of a lower-case text is one of the two small sigmas or comes from a character of the
text. -/
theorem mem_lowerFrom {cased : Bool} {text : Text} {d : Char} (h : d ∈ lowerFrom cased text) :
    ∃ c ∈ text, d ∈ lowerChar c ∨ d = 'ς' ∨ d = 'σ' := by
  induction text generalizing cased with
  | nil => cases h
  | cons c rest ih =>
    rw [lowerFrom, List.mem_append] at h
    rcases h with hfirst | hrest
    · refine ⟨c, List.mem_cons_self .., ?_⟩
      split at hfirst
      · right
        rw [List.mem_singleton] at hfirst
        split at hfirst
        · exact Or.inl hfirst
        · exact Or.inr hfirst
      · exact Or.inl hfirst
    · obtain ⟨e, he, hd⟩ := ih hrest
      exact ⟨e, List.mem_cons_of_mem _ he, hd⟩

/-! ## Separators -/

/-- A character that divides the terms of a query. -/
def isSeparator (c : Char) : Bool := c == '+' || isBlank c

/-- The lower-case forms of single characters. -/
def lowerImages : List (Nat × Nat) :=
  Table.lowerRuns.map fun (first, last, _, image) => (image, image + (last - first))

theorem within_lowerImages {code image : Nat} (h : runImage? Table.lowerRuns code = some image) :
    Within lowerImages image := by
  unfold runImage? at h
  split at h
  · rename_i distance step start hrow
    split at h
    · obtain ⟨first, last, hmem, hfirst, hlast, rfl⟩ := row_of_rowOf? hrow
      cases h
      exact ⟨_, List.mem_map.mpr ⟨_, hmem, rfl⟩, by simp, by simp; omega⟩
    · cases h
  · cases h

theorem not_separator_of_within {c : Char} (h : Within lowerImages c.toNat) :
    isSeparator c = false := by
  have hapart : Apart lowerImages ((43, 43) :: blankRanges) := by decide +kernel
  have hnot := hapart.not_within h
  rw [within_cons, not_or] at hnot
  unfold isSeparator
  rw [Bool.or_eq_false_iff]
  constructor
  · rw [beq_eq_false_iff_ne]
    rintro rfl
    exact hnot.1 ⟨Nat.le_refl _, Nat.le_refl _⟩
  · cases hblank : isBlank c with
    | false => rfl
    | true => exact absurd (within_of_isBlank hblank) hnot.2

/-- The lower-case form of a character is no separator unless the character is one. -/
theorem not_separator_of_mem_lowerChar {c d : Char} (hc : isSeparator c = false)
    (hd : d ∈ lowerChar c) : isSeparator d = false := by
  unfold lowerChar at hd
  split at hd
  · rename_i hascii
    rw [List.mem_singleton.mp hd]
    exact of_lt_128 (p := fun c => isSeparator c = false → isSeparator c.toLower = false)
      (by decide) hascii hc
  · split at hd
    · rename_i image himage
      rw [List.mem_singleton.mp hd]
      rcases toNat_ofNat image with hcode | hzero
      · apply not_separator_of_within
        rw [hcode]
        exact within_lowerImages himage
      · rw [hzero]
        decide
    · split at hd
      · rename_i codes hmany
        rw [codes_of_lowerMany hmany] at hd
        simp only [ofCodes, List.map_cons, List.map_nil, List.mem_cons, List.not_mem_nil,
          or_false] at hd
        rcases hd with rfl | rfl
        · decide
        · decide
      · rw [List.mem_singleton.mp hd]
        exact hc

/-- The lower-case form of a text has no separator unless the text has one. -/
theorem uncut_lower {text : Text} (h : Uncut isSeparator text) :
    Uncut isSeparator (lower text) := by
  intro d hd
  obtain ⟨c, hc, hlower | rfl | rfl⟩ := mem_lowerFrom hd
  · exact not_separator_of_mem_lowerChar (h c hc) hlower
  · decide
  · decide

end CorpusSearch.Text
