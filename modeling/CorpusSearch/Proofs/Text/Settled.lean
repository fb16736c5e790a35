-- Normal forms that are brought into normal form once more. Their characters decompose to
-- themselves and their marks stand in order, so nothing but case can change: a decomposition may
-- have brought capitals back. Where there are none left, a text is settled.
import CorpusSearch.Proofs.Text.Decomposition
import CorpusSearch.Proofs.Text.Lower
import CorpusSearch.Proofs.Text.Normal

namespace CorpusSearch.Text

/-! ## The case tables -/

/-- The code points whose lower-case form is another code point, each with that one. -/
def loweredCodes : List (Nat × Nat) :=
  Table.lowerRuns.flatMap fun (first, last, step, image) =>
    ((List.range (last + 1 - first)).filter fun distance => distance % step = 0).map fun distance =>
      (first + distance, image + distance)

/-- The code points that lower case brings in: single ones, the small sigmas, and the two that one
letter becomes. U+0000 stands for code points that no character has. -/
def smallCodes : List (Nat × Nat) :=
  (0, 0) :: (0x69, 0x69) :: (0x307, 0x307) :: (0x3C2, 0x3C3) ::
    loweredCodes.map fun pair => (pair.2, pair.2)

/-- The code points that lower case changes. -/
def changingCodes : List (Nat × Nat) :=
  (0x130, 0x130) :: loweredCodes.map fun pair => (pair.1, pair.1)

/-- The code points of characters that are not settled: lower case changes them, or they are a
quotation mark. -/
def unsettledCodes : List (Nat × Nat) := (0x22, 0x22) :: changingCodes

/-- The decomposition of the code point that stands so far behind the first one of a row. -/
def rowParts (row : Nat × Nat × List Nat) (distance : Nat) : List Nat :=
  match row.2.2 with
  | [] => []
  | part :: parts => (part + distance) :: parts

/-- The code points that lower case brings in, as one number. -/
def smallSet : Nat := bits smallCodes

/-- The code points that are not settled, as one number. -/
def unsettledSet : Nat := bits unsettledCodes

/-- Of the code points that lower case brings in, none is a composed syllable, and none is or
decomposes to one that is not settled. -/
theorem settled_smallCodes :
    Apart smallCodes (hangulRange :: unsettledCodes) ∧
      (allRows.all fun row => Nat.all (row.2.1 + 1 - row.1) fun distance _ =>
        !smallSet.testBit (row.1 + distance) ||
          (rowParts row distance).all fun p => !unsettledSet.testBit p) = true := by
  decide +kernel

theorem mem_loweredCodes {code image : Nat} (h : runImage? Table.lowerRuns code = some image) :
    (code, image) ∈ loweredCodes := by
  unfold runImage? at h
  split at h
  · rename_i distance step start hrow
    split at h
    · rename_i hstep
      cases h
      obtain ⟨first, last, hmem, hfirst, hlast, rfl⟩ := row_of_rowOf? hrow
      refine List.mem_flatMap.mpr ⟨_, hmem, List.mem_map.mpr ⟨code - first, ?_, ?_⟩⟩
      · exact List.mem_filter.mpr ⟨List.mem_range.mpr (by omega), decide_eq_true hstep⟩
      · rw [Nat.add_sub_cancel' hfirst]
    · cases h
  · cases h

theorem lowerChar_of_lt_128 {c : Char} (h : c.toNat < 128) :
    lowerChar c = [((runImage? Table.lowerRuns c.toNat).map Char.ofNat).getD c] :=
  of_lt_128 (p := fun c =>
    lowerChar c = [((runImage? Table.lowerRuns c.toNat).map Char.ofNat).getD c])
    (by decide) h

/-- A lower-case form is found in the table of single code points, is that of the one letter which
becomes two, or is the character itself. -/
theorem lowerChar_cases (c : Char) :
    (∃ image, runImage? Table.lowerRuns c.toNat = some image ∧ lowerChar c = [Char.ofNat image]) ∨
      (c.toNat = 0x130 ∧ lowerChar c = ofCodes [0x69, 0x307]) ∨ lowerChar c = [c] := by
  cases himage : runImage? Table.lowerRuns c.toNat with
  | some image =>
    refine Or.inl ⟨image, rfl, ?_⟩
    by_cases hascii : c.toNat < 128
    · rw [lowerChar_of_lt_128 hascii, himage]
      rfl
    · unfold lowerChar
      rw [if_neg hascii, himage]
  | none =>
    right
    by_cases hascii : c.toNat < 128
    · rw [lowerChar_of_lt_128 hascii, himage]
      exact Or.inr rfl
    · unfold lowerChar
      rw [if_neg hascii, himage]
      dsimp only
      cases hmany : entryOf? Table.lowerMany c.toNat with
      | some codes =>
        refine Or.inl ⟨?_, by rw [codes_of_lowerMany hmany]⟩
        simp only [entryOf?, Table.lowerMany, List.find?_cons] at hmany
        split at hmany
        · rename_i hcode
          exact (beq_iff_eq.mp hcode).symm
        · cases hmany
      | none => exact Or.inr rfl

/-- What is not among the code points that change is its own lower-case form. -/
theorem lowerChar_of_not_within {c : Char} (h : ¬ Within changingCodes c.toNat) :
    lowerChar c = [c] := by
  unfold changingCodes at h
  rw [within_cons, not_or] at h
  rcases lowerChar_cases c with ⟨image, himage, _⟩ | ⟨hcode, _⟩ | hself
  · have hmem := List.mem_map_of_mem (f := fun pair : Nat × Nat => (pair.1, pair.1))
      (mem_loweredCodes himage)
    exact absurd ⟨_, hmem, Nat.le_refl _, Nat.le_refl _⟩ h.2
  · exact absurd ⟨by omega, by omega⟩ h.1
  · exact hself

theorem settled_of_not_within {code : Nat} (h : ¬ Within unsettledCodes code) :
    lowerChar (Char.ofNat code) = [Char.ofNat code] ∧ Char.ofNat code ≠ '"' := by
  rcases toNat_ofNat code with hcode | hzero
  · unfold unsettledCodes at h
    rw [within_cons, not_or] at h
    refine ⟨lowerChar_of_not_within (by rw [hcode]; exact h.2), fun hquote => h.1 ?_⟩
    rw [hquote] at hcode
    rw [← hcode]
    exact ⟨Nat.le_refl _, Nat.le_refl _⟩
  · rw [hzero]
    decide

theorem settled_of_mem_rowParts {row : Nat × Nat × List Nat} {code p : Nat} (hrow : row ∈ allRows)
    (hfirst : row.1 ≤ code) (hlast : code ≤ row.2.1) (hsmall : Within smallCodes code)
    (hp : p ∈ rowParts row (code - row.1)) : ¬ Within unsettledCodes p := by
  intro hunsettled
  have hin : smallSet.testBit code = true := testBit_bits hsmall
  have hout : unsettledSet.testBit p = true := testBit_bits hunsettled
  have hall := List.all_eq_true.mp settled_smallCodes.2 row hrow
  rw [Nat.all_eq_finRange_all, List.all_eq_true] at hall
  have hcode := hall ⟨code - row.1, by omega⟩ (List.mem_finRange _)
  dsimp only at hcode
  rw [Nat.add_sub_cancel' hfirst, hin, Bool.not_true, Bool.false_or, List.all_eq_true] at hcode
  have hnot := hcode p hp
  rw [hout] at hnot
  cases hnot

/-- A code point that lower case brings in decomposes to settled ones. -/
theorem settled_of_mem_decomposeCode {code p : Nat} (h : Within smallCodes code)
    (hp : p ∈ decomposeCode code) : ¬ Within unsettledCodes p := by
  have hself := settled_smallCodes.1.not_within h
  rw [within_cons, not_or] at hself
  unfold decomposeCode at hp
  split at hp
  · rw [List.mem_singleton.mp hp]
    exact hself.2
  · split at hp
    · rename_i hrange
      simp only [Bool.and_eq_true, decide_eq_true_eq] at hrange
      exact absurd hrange hself.1
    · split at hp
      · rename_i distance part parts hrow
        obtain ⟨first, last, hmem, hfirst, hlast, rfl⟩ := row_of_rowOf? hrow
        exact settled_of_mem_rowParts (mem_allRows hmem) hfirst hlast h hp
      · rw [List.mem_singleton.mp hp]
        exact hself.2

/-- Of a character that lower case brings in comes nothing but settled characters, and no quotation
mark. -/
theorem settled_of_mem_decomposeChar {e d : Char} (h : Within smallCodes e.toNat)
    (hd : d ∈ decomposeChar e) : lowerChar d = [d] ∧ d ≠ '"' := by
  unfold decomposeChar at hd
  split at hd
  · have hself := settled_smallCodes.1.not_within h
    rw [within_cons, not_or] at hself
    rw [List.mem_singleton.mp hd, ← Char.ofNat_toNat e]
    exact settled_of_not_within hself.2
  · obtain ⟨p, hp, rfl⟩ := List.mem_map.mp hd
    exact settled_of_not_within (settled_of_mem_decomposeCode h hp)

theorem lowerChar_self_or_within (c : Char) :
    lowerChar c = [c] ∨ ∀ e ∈ lowerChar c, Within smallCodes e.toNat := by
  rcases lowerChar_cases c with ⟨image, himage, hlower⟩ | ⟨_, hlower⟩ | hself
  · right
    intro e he
    rw [hlower, List.mem_singleton] at he
    subst he
    unfold smallCodes
    rcases toNat_ofNat image with hcode | hzero
    · have hmem := List.mem_map_of_mem (f := fun pair : Nat × Nat => (pair.2, pair.2))
        (mem_loweredCodes himage)
      simp only [within_cons]
      rw [hcode]
      exact Or.inr (Or.inr (Or.inr (Or.inr ⟨_, hmem, Nat.le_refl _, Nat.le_refl _⟩)))
    · rw [hzero]
      exact (within_cons ..).mpr (Or.inl (by decide))
  · right
    intro e he
    rw [hlower] at he
    obtain ⟨code, hcode, rfl⟩ := List.mem_map.mp he
    simp only [smallCodes, within_cons]
    rcases List.mem_cons.mp hcode with rfl | hsecond
    · exact Or.inr (Or.inl (by decide))
    · rw [List.mem_singleton.mp hsecond]
      exact Or.inr (Or.inr (Or.inl (by decide)))
  · exact Or.inl hself

/-- The lower-case form of the first character of a text. -/
def lowerHead (cased : Bool) (c : Char) (rest : Text) : Text :=
  if c = 'Σ' then [if cased && !casedAhead rest then 'ς' else 'σ'] else lowerChar c

theorem lowerFrom_cons (cased : Bool) (c : Char) (rest : Text) :
    lowerFrom cased (c :: rest) = lowerHead cased c rest ++ lowerFrom (casedAfter cased c) rest :=
  rfl

/-- Also among its neighbours a character is left as it is or gives small ones. -/
theorem lowerHead_cases (cased : Bool) (c : Char) (rest : Text) :
    (lowerHead cased c rest = [c] ∧ lowerChar c = [c]) ∨
      ∀ e ∈ lowerHead cased c rest, Within smallCodes e.toNat := by
  unfold lowerHead
  by_cases hsigma : c = 'Σ'
  · right
    rw [if_pos hsigma]
    intro e he
    rw [List.mem_singleton.mp he]
    simp only [smallCodes, within_cons]
    refine Or.inr (Or.inr (Or.inr (Or.inl ?_)))
    split <;> decide
  · rw [if_neg hsigma]
    rcases lowerChar_self_or_within c with hself | hsmall
    · exact Or.inl ⟨hself, hself⟩
    · exact Or.inr hsmall

/-! ## Normal forms of decomposed texts -/

/-- A decomposed text: its characters decompose to themselves and its marks stand in order. -/
structure IsDecomposed (text : Text) : Prop where
  self : ∀ c ∈ text, decomposeChar c = [c]
  ordered : text.IsChain InOrder

theorem isDecomposed_normalize (text : Text) : IsDecomposed text.normalize where
  self _ := decomposeChar_of_mem_decompose
  ordered := isChain_reorder _

theorem IsDecomposed.part {part text : Text} (h : IsDecomposed text) (hpart : part <:+: text) :
    IsDecomposed part where
  self c hc := h.self c (hpart.subset hc)
  ordered := h.ordered.infix hpart

theorem IsDecomposed.decompose_eq {text : Text} (h : IsDecomposed text) :
    decompose text = text := by
  rw [decompose, flatMap_decomposeChar_of_self h.self, reorder_of_isChain h.ordered]

theorem lowerFrom_of_small (cased : Bool) {text : Text} (h : ∀ c ∈ text, lowerChar c = [c]) :
    lowerFrom cased text = text := by
  induction text generalizing cased with
  | nil => rfl
  | cons c text ih =>
    have hfirst := h c (List.mem_cons_self ..)
    have hsigma : c ≠ 'Σ' := by
      rintro rfl
      exact absurd hfirst (by decide)
    rw [lowerFrom, if_neg hsigma, hfirst, ih _ fun d hd => h d (List.mem_cons_of_mem _ hd)]
    rfl

variable {text : Text}

/-- A character of a lower-case text stands in the text already or is a small one. -/
theorem cases_of_mem_lowerFrom {cased : Bool} {e : Char} (h : e ∈ lowerFrom cased text) :
    (e ∈ text ∧ lowerChar e = [e]) ∨ Within smallCodes e.toNat := by
  induction text generalizing cased with
  | nil => cases h
  | cons c rest ih =>
    rw [lowerFrom_cons, List.mem_append] at h
    rcases h with hfirst | hrest
    · rcases lowerHead_cases cased c rest with ⟨hhead, hself⟩ | hsmall
      · rw [hhead, List.mem_singleton] at hfirst
        rw [hfirst]
        exact Or.inl ⟨List.mem_cons_self .., hself⟩
      · exact Or.inr (hsmall e hfirst)
    · rcases ih hrest with ⟨hmem, hself⟩ | hsmall
      · exact Or.inl ⟨List.mem_cons_of_mem _ hmem, hself⟩
      · exact Or.inr hsmall

theorem lowerChar_of_mem_normalize (h : ∀ c ∈ text, decomposeChar c = [c]) {d : Char}
    (hd : d ∈ text.normalize) : lowerChar d = [d] := by
  obtain ⟨e, he, hde⟩ := List.mem_flatMap.mp ((reorder_perm _).mem_iff.mp hd)
  rcases cases_of_mem_lowerFrom he with ⟨hmem, hself⟩ | hsmall
  · rw [h e hmem, List.mem_singleton] at hde
    rw [hde]
    exact hself
  · exact (settled_of_mem_decomposeChar hsmall hde).1

/-- A decomposed text is its own normal form exactly when it has no capitals. -/
theorem IsDecomposed.normalize_eq_self_iff (h : IsDecomposed text) :
    text.normalize = text ↔ ∀ c ∈ text, lowerChar c = [c] := by
  constructor
  · intro heq c hc
    rw [← heq] at hc
    exact lowerChar_of_mem_normalize h.self hc
  · intro hsmall
    have hlower : text.lower = text := lowerFrom_of_small false hsmall
    rw [normalize, hlower, h.decompose_eq]

/-! ## Sizes and quotation marks -/

theorem decomposeChar_ne_nil (c : Char) : decomposeChar c ≠ [] := by
  unfold decomposeChar
  split
  · simp
  · unfold decomposeCode hangulParts ofCodes
    dsimp only
    repeat' split
    all_goals simp

/-- Texts that stand for the characters of a text are no fewer characters. -/
theorem length_le_flatMap {f : Char → Text} (h : ∀ c, f c ≠ []) (text : Text) :
    text.length ≤ (text.flatMap f).length := by
  induction text with
  | nil => exact Nat.le_refl _
  | cons c text ih =>
    have hfirst : 0 < (f c).length := List.length_pos_iff.mpr (h c)
    rw [List.flatMap_cons, List.length_append, List.length_cons]
    omega

theorem length_le_lowerFrom (cased : Bool) (text : Text) :
    text.length ≤ (lowerFrom cased text).length := by
  induction text generalizing cased with
  | nil => exact Nat.le_refl _
  | cons c text ih =>
    have hrest := ih (casedAfter cased c)
    have hfirst : 0 < (lowerChar c).length := List.length_pos_iff.mpr (lowerChar_ne_nil c)
    rw [lowerFrom, List.length_append, List.length_cons]
    split
    · rw [List.length_singleton]
      omega
    · omega

theorem length_le_normalize (text : Text) : text.length ≤ text.normalize.length := by
  calc text.length ≤ text.lower.length := length_le_lowerFrom false text
    _ ≤ (text.lower.flatMap decomposeChar).length := length_le_flatMap decomposeChar_ne_nil _
    _ = text.normalize.length := (reorder_perm _).length_eq.symm

theorem count_quote_lowerFrom (cased : Bool) (h : ∀ c ∈ text, decomposeChar c = [c]) :
    ((lowerFrom cased text).flatMap decomposeChar).count '"' = text.count '"' := by
  induction text generalizing cased with
  | nil => rfl
  | cons c text ih =>
    have hrest := ih (casedAfter cased c) fun d hd => h d (List.mem_cons_of_mem _ hd)
    have hself := h c (List.mem_cons_self ..)
    rw [lowerFrom_cons, List.flatMap_append, List.count_append, hrest, List.count_cons,
      Nat.add_comm]
    congr 1
    rcases lowerHead_cases cased c text with ⟨hhead, _⟩ | hsmall
    · rw [hhead, List.flatMap_singleton, hself, List.count_singleton]
    · have hnone : ∀ d ∈ (lowerHead cased c text).flatMap decomposeChar, d ≠ '"' := by
        intro d hd
        obtain ⟨e, he, hde⟩ := List.mem_flatMap.mp hd
        exact (settled_of_mem_decomposeChar (hsmall e he) hde).2
      have hquote : c ≠ '"' := by
        rintro rfl
        exact hnone '"' (List.mem_singleton.mpr rfl) rfl
      rw [List.count_eq_zero.mpr fun hmem => hnone _ hmem rfl, if_neg (by simpa using hquote)]

/-- The normal form of a decomposed text has the quotation marks of the text. -/
theorem count_quote_normalize (h : ∀ c ∈ text, decomposeChar c = [c]) :
    text.normalize.count '"' = text.count '"' :=
  ((reorder_perm _).count_eq '"').trans (count_quote_lowerFrom false h)

/-! ## Capitals past U+FFFF -/

/-- The ranges that reach past U+FFFF. -/
def farRanges (ranges : List (Nat × Nat)) : List (Nat × Nat) :=
  ranges.filter fun range => 0xFFFF < range.2

theorem Within.far {ranges : List (Nat × Nat)} {code : Nat} (h : Within ranges code)
    (hfar : 0xFFFF < code) : Within (farRanges ranges) code := by
  obtain ⟨range, hrange, hfirst, hlast⟩ := h
  refine ⟨range, List.mem_filter.mpr ⟨hrange, decide_eq_true ?_⟩, hfirst, hlast⟩
  omega

theorem apart_farImages : Apart (farRanges images) (farRanges changingCodes) := by decide +kernel

/-- What a character past U+FFFF comes from by decomposition: itself, or a row of the tables. -/
theorem eq_or_within_images {e c : Char} (h : c ∈ decomposeChar e) (hfar : 0xFFFF < c.toNat) :
    c = e ∨ Within images c.toNat := by
  unfold decomposeChar at h
  split at h
  · exact Or.inl (List.mem_singleton.mp h)
  · obtain ⟨code, hcode, rfl⟩ := List.mem_map.mp h
    have hplace : (Char.ofNat code).toNat = code := by
      rcases toNat_ofNat code with hcode | hzero
      · exact hcode
      · rw [hzero] at hfar
        exact absurd hfar (by decide)
    rcases decomposeCode_cases e.toNat with hself | himages
    · rw [hself, List.mem_singleton] at hcode
      rw [hcode, Char.ofNat_toNat]
      exact Or.inl rfl
    · rw [hplace]
      exact Or.inr (himages code hcode)

/-- The normal form of a text has no capitals past U+FFFF: lower case left none, and those that a
decomposition brings back lie below. -/
theorem lowerChar_of_far {c : Char} (h : c ∈ text.normalize) (hfar : 0xFFFF < c.toNat) :
    lowerChar c = [c] := by
  obtain ⟨e, he, hc⟩ := List.mem_flatMap.mp ((reorder_perm _).mem_iff.mp h)
  rcases cases_of_mem_lowerFrom he with ⟨-, hself⟩ | hsmall
  · rcases eq_or_within_images hc hfar with rfl | himage
    · exact hself
    · have hnot := apart_farImages.not_within (himage.far hfar)
      exact lowerChar_of_not_within fun hchanging => hnot (hchanging.far hfar)
  · exact (settled_of_mem_decomposeChar hsmall hc).1

end CorpusSearch.Text
