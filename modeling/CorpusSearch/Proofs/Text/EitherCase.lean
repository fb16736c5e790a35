-- Words of ASCII letters in letters of either case. A lower-case text has such a word where the
-- text itself has it, but for two letters: i and k are also the small letters of letters past
-- ASCII.
import CorpusSearch.Proofs.Text.Between

namespace CorpusSearch.Text

/-- A character that in lower case comes from ASCII characters alone. -/
def isFirm (c : Char) : Bool := 32 < c.toNat && c.toNat < 127 && c != 'i' && c != 'k'

/-- Of the letters past ASCII only the Kelvin sign has an ASCII letter as its small letter. -/
theorem lowerRuns_past_ascii : ∀ row ∈ Table.lowerRuns,
    row.2.1 < 128 ∨ 127 ≤ row.2.2.2 ∨ row.1 = row.2.1 ∧ row.2.2.2 = 0x6B := by
  decide +kernel

variable {c d : Char} {text word : Text}

theorem isFirm_iff : isFirm c = true ↔ 32 < c.toNat ∧ c.toNat < 127 ∧ c ≠ 'i' ∧ c ≠ 'k' := by
  simp [isFirm, and_assoc]

theorem lt_128_of_firm (hd : isFirm d = true) (h : d ∈ lowerChar c) : c.toNat < 128 := by
  obtain ⟨habove, hbelow, hi, hk⟩ := isFirm_iff.mp hd
  rcases lowerChar_cases c with ⟨image, himage, hlower⟩ | ⟨-, hlower⟩ | hself
  · rw [hlower, List.mem_singleton] at h
    subst h
    obtain hcode | hzero := toNat_ofNat image
    · unfold runImage? at himage
      split at himage
      · rename_i distance step start hrow
        split at himage
        · obtain ⟨first, last, hmem, hfirst, hlast, rfl⟩ := row_of_rowOf? hrow
          cases himage
          rcases lowerRuns_past_ascii _ hmem with hascii | hfar | ⟨hone, hkelvin⟩
          · exact Nat.lt_of_le_of_lt hlast hascii
          · exact absurd hbelow (by rw [hcode]; dsimp only at hfar; omega)
          · refine absurd ?_ hk
            dsimp only at hone hkelvin
            rw [hkelvin, show c.toNat - first = 0 by omega]
        · cases himage
      · cases himage
    · rw [hzero] at habove
      exact absurd habove (by decide)
  · rw [hlower] at h
    simp only [ofCodes, List.map_cons, List.map_nil, List.mem_cons, List.not_mem_nil,
      or_false] at h
    rcases h with rfl | rfl
    · exact absurd rfl hi
    · exact absurd hbelow (by decide)
  · rw [hself, List.mem_singleton] at h
    rw [← h]
    exact Nat.lt_trans hbelow (by decide)

/-- A firm character of a lower-case text comes from one ASCII character. -/
theorem lowerHead_of_firm {cased : Bool} {rest : Text} (hd : isFirm d = true)
    (h : d ∈ lowerHead cased c rest) : lowerHead cased c rest = [d] ∧ c.toLower = d := by
  unfold lowerHead at h ⊢
  split
  · rename_i hsigma
    rw [if_pos hsigma, List.mem_singleton] at h
    rw [h] at hd
    split at hd <;> exact absurd hd (by decide)
  · rename_i hsigma
    rw [if_neg hsigma] at h
    have hlower : lowerChar c = [c.toLower] := by
      unfold lowerChar
      rw [if_pos (lt_128_of_firm hd h)]
    rw [hlower, List.mem_singleton] at h
    rw [hlower, h]
    exact ⟨rfl, rfl⟩

theorem lt_128_of_toLower (h : isFirm c.toLower = true) : c.toNat < 128 := by
  obtain ⟨-, hbelow, -⟩ := isFirm_iff.mp h
  unfold Char.toLower at hbelow
  split at hbelow
  · rename_i hcapital
    have hle : c.toNat ≤ 90 := UInt32.le_iff_toNat_le.mp hcapital.2
    omega
  · exact Nat.lt_trans hbelow (by decide)

theorem lowerHead_of_toLower {cased : Bool} {rest : Text} (h : isFirm c.toLower = true) :
    lowerHead cased c rest = [c.toLower] := by
  have hascii := lt_128_of_toLower h
  have hsigma : c ≠ 'Σ' := by
    rintro rfl
    exact absurd hascii (by decide)
  rw [lowerHead, if_neg hsigma, lowerChar, if_pos hascii]

/-- A lower-case text starts with a firm word where the text starts with it in letters of either
case. -/
theorem isPrefix_lowerFrom_iff (hword : ∀ c ∈ word, isFirm c = true) (cased : Bool) :
    word <+: lowerFrom cased text ↔ ∃ part, part <+: text ∧ part.map Char.toLower = word := by
  induction word generalizing text cased with
  | nil => exact ⟨fun _ => ⟨[], List.nil_prefix, rfl⟩, fun _ => List.nil_prefix⟩
  | cons d word ih =>
    obtain ⟨hd, hword⟩ := List.forall_mem_cons.mp hword
    cases text with
    | nil =>
      constructor
      · intro h
        cases List.prefix_nil.mp h
      · rintro ⟨part, hpart, hlower⟩
        rw [List.prefix_nil.mp hpart] at hlower
        cases hlower
    | cons c text =>
      rw [lowerFrom_cons]
      constructor
      · intro h
        obtain ⟨e, head, hhead⟩ := List.exists_cons_of_ne_nil (lowerHead_ne_nil cased c text)
        have hfirst : d = e := by
          rw [hhead, List.cons_append, List.cons_prefix_cons] at h
          exact h.1
        obtain ⟨hone, hlower⟩ := lowerHead_of_firm hd (show d ∈ lowerHead cased c text by
          rw [hhead, hfirst]
          exact List.mem_cons_self)
        rw [hone, List.singleton_append, List.cons_prefix_cons] at h
        obtain ⟨part, hpart, hrest⟩ := (ih hword _).mp h.2
        refine ⟨c :: part, List.cons_prefix_cons.mpr ⟨rfl, hpart⟩, ?_⟩
        rw [List.map_cons, hlower, hrest]
      · rintro ⟨part, hpart, hlower⟩
        cases part with
        | nil => cases hlower
        | cons e part =>
          rw [List.map_cons, List.cons.injEq] at hlower
          rw [List.cons_prefix_cons] at hpart
          obtain ⟨rfl, hpart⟩ := hpart
          rw [lowerHead_of_toLower (hlower.1 ▸ hd), List.singleton_append, List.cons_prefix_cons]
          exact ⟨hlower.1.symm, (ih hword _).mpr ⟨part, hpart, hlower.2⟩⟩

/-- What a word has no character of does not count in front of a text. -/
theorem infix_of_infix_append {head : Text} (hapart : ∀ c ∈ head, c ∉ word)
    (h : word <:+: head ++ text) : word <:+: text := by
  cases word with
  | nil => exact List.nil_infix
  | cons d word =>
    induction head with
    | nil => exact h
    | cons c head ih =>
      obtain ⟨hc, hhead⟩ := List.forall_mem_cons.mp hapart
      refine ih hhead ((List.infix_cons_iff.mp h).resolve_left fun hprefix => hc ?_)
      rw [(List.cons_prefix_cons.mp hprefix).1]
      exact List.mem_cons_self

theorem exists_of_infix_lowerFrom (hword : ∀ c ∈ word, isFirm c = true) {cased : Bool}
    (h : word <:+: lowerFrom cased text) :
    ∃ part, part <:+: text ∧ part.map Char.toLower = word := by
  induction text generalizing cased with
  | nil =>
    rw [List.eq_nil_of_infix_nil h]
    exact ⟨[], List.nil_infix, rfl⟩
  | cons c text ih =>
    by_cases hfirst : word <+: lowerFrom cased (c :: text)
    · obtain ⟨part, hpart, hlower⟩ := (isPrefix_lowerFrom_iff hword cased).mp hfirst
      exact ⟨part, hpart.isInfix, hlower⟩
    · have hrest : word <:+: lowerFrom (casedAfter cased c) text := by
        rw [lowerFrom_cons] at h hfirst
        by_cases hfirm : ∃ d ∈ lowerHead cased c text, d ∈ word
        · obtain ⟨d, hd, hdword⟩ := hfirm
          rw [(lowerHead_of_firm (hword d hdword) hd).1, List.singleton_append] at h hfirst
          exact (List.infix_cons_iff.mp h).resolve_left hfirst
        · exact infix_of_infix_append (fun d hd hdword => hfirm ⟨d, hd, hdword⟩) h
      obtain ⟨part, hpart, hlower⟩ := ih hrest
      exact ⟨part, hpart.trans (List.suffix_cons c text).isInfix, hlower⟩

/-- A lower-case text has a firm word where the text has it in letters of either case. -/
theorem isInfix_lower_iff (hword : ∀ c ∈ word, isFirm c = true) :
    word <:+: text.lower ↔ ∃ part, part <:+: text ∧ part.map Char.toLower = word := by
  constructor
  · exact exists_of_infix_lowerFrom hword
  · rintro ⟨part, ⟨before, behind, rfl⟩, hlower⟩
    have hpart : word <+: lowerFrom (before.foldl casedAfter false) (part ++ behind) :=
      (isPrefix_lowerFrom_iff hword _).mpr ⟨part, List.prefix_append part behind, hlower⟩
    rw [lower, List.append_assoc, lowerFrom_append]
    exact hpart.isInfix.trans (List.suffix_append _ _).isInfix

end CorpusSearch.Text
