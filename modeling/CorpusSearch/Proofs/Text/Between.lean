-- Lower case of a part of a text. A part has a lower-case form of its own, and in a longer text
-- nothing but its capital sigmas can have another one. Only the capital I with a dot becomes
-- longer, so behind a text without it the part stands where it stood. On one line the form is that
-- of the line.
import CorpusSearch.Proofs.Text.Settled
import CorpusSearch.Proofs.Text.Tidy

namespace CorpusSearch.Text

variable {text part behind rest : Text} {cased other : Bool}

/-! ## Parts -/

/-- The lower-case form of a part of a text that stands behind a cased character or not, and in
front of `behind`. -/
def lowerBetween : (casedBefore : Bool) → (part behind : Text) → Text
  | _, [], _ => []
  | casedBefore, c :: rest, behind =>
    lowerHead casedBefore c (rest ++ behind) ++ lowerBetween (casedAfter casedBefore c) rest behind

theorem lowerFrom_append (cased : Bool) (part behind : Text) : lowerFrom cased (part ++ behind) =
    lowerBetween cased part behind ++ lowerFrom (part.foldl casedAfter cased) behind := by
  induction part generalizing cased with
  | nil => rfl
  | cons c rest ih =>
    rw [List.cons_append, lowerFrom_cons, ih, lowerBetween, List.append_assoc, List.foldl_cons]

/-! ## Lengths -/

theorem length_lowerChar_of_ne {c : Char} (h : c ≠ 'İ') : (lowerChar c).length = 1 := by
  rcases lowerChar_cases c with ⟨image, -, hlower⟩ | ⟨hcode, -⟩ | hself
  · rw [hlower, List.length_singleton]
  · refine absurd ?_ h
    rw [← Char.ofNat_toNat c, hcode]
  · rw [hself, List.length_singleton]

theorem lowerHead_ne_nil (cased : Bool) (c : Char) (rest : Text) : lowerHead cased c rest ≠ [] := by
  unfold lowerHead
  split
  · exact List.cons_ne_nil _ _
  · exact lowerChar_ne_nil c

theorem length_lowerHead_of_ne {c : Char} (h : c ≠ 'İ') (cased : Bool) (rest : Text) :
    (lowerHead cased c rest).length = 1 := by
  unfold lowerHead
  split
  · rfl
  · exact length_lowerChar_of_ne h

theorem length_le_lowerBetween (cased : Bool) (part behind : Text) :
    part.length ≤ (lowerBetween cased part behind).length := by
  induction part generalizing cased with
  | nil => exact Nat.zero_le _
  | cons c rest ih =>
    have hrest := ih (casedAfter cased c)
    have hfirst := List.length_pos_iff.mpr (lowerHead_ne_nil cased c (rest ++ behind))
    rw [lowerBetween, List.length_append, List.length_cons]
    omega

theorem length_lowerBetween (h : 'İ' ∉ part) :
    (lowerBetween cased part behind).length = part.length := by
  induction part generalizing cased with
  | nil => rfl
  | cons c rest ih =>
    rw [List.mem_cons, not_or] at h
    rw [lowerBetween, List.length_append, length_lowerHead_of_ne (Ne.symm h.1), ih h.2,
      List.length_cons, Nat.add_comm]

/-- Behind a text without that letter a slice of the lower-case text is the beginning of the
lower-case form of the same slice. -/
theorem slice_lower_isPrefix {start stop : Nat} (hstart : start ≤ stop) (hstop : stop ≤ text.length)
    (h : 'İ' ∉ text.take start) : slice start stop text.lower <+:
      lowerBetween ((text.take start).foldl casedAfter false) (slice start stop text)
        (text.drop stop) := by
  have htext : text = text.take start ++ (slice start stop text ++ text.drop stop) := by
    have hbefore : text.take start = (text.take stop).take start := by
      rw [List.take_take, Nat.min_eq_left hstart]
    rw [hbefore, slice, ← List.append_assoc, List.take_append_drop, List.take_append_drop]
  have hbefore :
      (lowerBetween false (text.take start) (slice start stop text ++ text.drop stop)).length =
        start := by
    rw [length_lowerBetween h, List.length_take, Nat.min_eq_left (hstart.trans hstop)]
  have hlower := lowerFrom_append false (text.take start) (slice start stop text ++ text.drop stop)
  rw [← htext, lowerFrom_append] at hlower
  have hpart : (slice start stop text).length = stop - start := by
    rw [slice, List.length_drop, List.length_take, Nat.min_eq_left hstop]
  have hle := length_le_lowerBetween ((text.take start).foldl casedAfter false)
    (slice start stop text) (text.drop stop)
  rw [hpart] at hle
  rw [lower, hlower, slice, List.drop_take, List.drop_left' hbefore,
    List.take_append_of_le_length hle]
  exact List.take_prefix ..

/-! ## Sigmas -/

/-- One form of the small sigma. -/
def oneSigma (c : Char) : Char := if c = 'ς' then 'σ' else c

/-- Whether a capital sigma between two texts has the final form in lower case. -/
def isFinalSigma (before behind : Text) : Bool :=
  before.foldl casedAfter false && !casedAhead behind

/-- Each capital sigma of a part has the same form in lower case whether or not there are texts
around the part. -/
def KeepsSigmas (before part behind : Text) : Prop :=
  ∀ first second, part = first ++ 'Σ' :: second →
    isFinalSigma (before ++ first) (second ++ behind) = isFinalSigma first second

theorem KeepsSigmas.of_not_mem (h : 'Σ' ∉ part) (before behind : Text) :
    KeepsSigmas before part behind := by
  rintro first second rfl
  exact absurd (List.mem_append_right _ (List.mem_cons_self ..)) h

theorem isBlank_oneSigma (c : Char) : isBlank (oneSigma c) = isBlank c := by
  unfold oneSigma
  split
  · rename_i hsigma
    rw [hsigma]
    rfl
  · rfl

theorem map_oneSigma_of_not_mem (h : 'ς' ∉ text) : text.map oneSigma = text := by
  refine (List.map_congr_left fun c hc => if_neg ?_).trans (List.map_id _)
  rintro rfl
  exact h hc

theorem eq_of_map_oneSigma {other : Text} (h : other.map oneSigma = text.map oneSigma)
    (hmedial : 'σ' ∉ text) (hfinal : 'ς' ∉ text) : other = text := by
  rw [map_oneSigma_of_not_mem hfinal] at h
  have hother : 'ς' ∉ other := by
    intro hmem
    have hform : oneSigma 'ς' ∈ other.map oneSigma := List.mem_map_of_mem hmem
    rw [h] at hform
    exact hmedial hform
  rwa [map_oneSigma_of_not_mem hother] at h

theorem map_oneSigma_lowerHead (cased other : Bool) (c : Char) (behind rest : Text) :
    (lowerHead cased c behind).map oneSigma = (lowerHead other c rest).map oneSigma := by
  have hforms : ∀ final : Bool, oneSigma (if final then 'ς' else 'σ') = 'σ' := by decide
  unfold lowerHead
  split
  · rw [List.map_singleton, List.map_singleton, hforms, hforms]
  · rfl

/-- What stands around a part does not count but for the form of the small sigmas. -/
theorem map_oneSigma_lowerBetween (cased other : Bool) (part behind : Text) :
    (lowerBetween cased part behind).map oneSigma = (lowerFrom other part).map oneSigma := by
  induction part generalizing cased other with
  | nil => rfl
  | cons c rest ih =>
    rw [lowerBetween, lowerFrom_cons, List.map_append, List.map_append, ih,
      map_oneSigma_lowerHead cased other c (rest ++ behind) rest]

theorem lowerBetween_eq_lowerFrom (h : ∀ first second, part = first ++ 'Σ' :: second →
      (first.foldl casedAfter cased && !casedAhead (second ++ behind)) =
        (first.foldl casedAfter other && !casedAhead second)) :
    lowerBetween cased part behind = lowerFrom other part := by
  induction part generalizing cased other with
  | nil => rfl
  | cons c rest ih =>
    have hrest : lowerBetween (casedAfter cased c) rest behind =
        lowerFrom (casedAfter other c) rest :=
      ih fun first second hpart => h (c :: first) second (by rw [hpart, List.cons_append])
    rw [lowerBetween, lowerFrom_cons, hrest]
    congr 1
    unfold lowerHead
    split
    · rename_i hsigma
      have hform := h [] rest (by rw [hsigma]; rfl)
      simp only [List.foldl_nil] at hform
      rw [hform]
    · rfl

/-- A part whose sigmas are kept becomes lower case as it does by itself. -/
theorem KeepsSigmas.lowerBetween_eq {before : Text} (h : KeepsSigmas before part behind) :
    lowerBetween (before.foldl casedAfter false) part behind = part.lower := by
  refine lowerBetween_eq_lowerFrom fun first second hpart => ?_
  have hform := h first second hpart
  unfold isFinalSigma at hform
  rwa [List.foldl_append] at hform

/-! ## Texts on one line -/

theorem Uncut.isTidy (h : Uncut isBlank text) : IsTidy text where
  spaces c hc hblank := absurd hblank (Bool.eq_false_iff.mp (h c hc))
  single := by
    refine List.Pairwise.isChain (List.pairwise_iff_forall_sublist.mpr fun hsub hblank => ?_)
    exact absurd hblank (Bool.eq_false_iff.mp (h _ (hsub.subset (List.mem_cons_self ..))))
  starts c hc := h c (List.mem_of_mem_head? hc)
  ends c hc := h c (List.mem_of_getLast? hc)

theorem not_isBlank_of_mem_lowerChar {c d : Char} (hc : isBlank c = false) (hd : d ∈ lowerChar c) :
    isBlank d = false := by
  by_cases hplus : c = '+'
  · subst hplus
    have hlower : lowerChar '+' = ['+'] := rfl
    rw [hlower, List.mem_singleton] at hd
    rw [hd]
    rfl
  · have hseparator : isSeparator c = false := by simp [isSeparator, hplus, hc]
    exact (Bool.or_eq_false_iff.mp (not_separator_of_mem_lowerChar hseparator hd)).2

theorem uncut_lowerHead {c : Char} (hc : isBlank c = false) (cased : Bool) (rest : Text) :
    Uncut isBlank (lowerHead cased c rest) := by
  intro d hd
  unfold lowerHead at hd
  split at hd
  · rw [List.mem_singleton] at hd
    rw [hd]
    split <;> rfl
  · exact not_isBlank_of_mem_lowerChar hc hd

theorem collapseFrom_append_uncut {word : Text} (h : Uncut isBlank word) (hne : word ≠ [])
    (inRun : Bool) (rest : Text) :
    collapseFrom inRun (word ++ rest) = word ++ collapseFrom false rest := by
  induction word generalizing inRun with
  | nil => exact absurd rfl hne
  | cons c word ih =>
    have hc : isBlank c = false := h c (List.mem_cons_self ..)
    rw [List.cons_append, collapseFrom, hc, if_neg Bool.false_ne_true, List.cons_append]
    cases word with
    | nil => rfl
    | cons d word =>
      rw [ih (fun e he => h e (List.mem_cons_of_mem _ he)) (List.cons_ne_nil _ _)]

theorem casedAhead_collapse (text : Text) :
    casedAhead (collapseFrom false text) = casedAhead text := by
  induction text with
  | nil => rfl
  | cons c rest ih =>
    unfold collapseFrom
    cases hc : isBlank c with
    | true =>
      have hneutral := isNeutral_of_isBlank hc
      have hspace : IsNeutral ' ' := isNeutral_of_isBlank rfl
      rw [if_pos rfl, if_neg Bool.false_ne_true]
      simp only [casedAhead, hneutral.ignorable, hneutral.cased, hspace.ignorable, hspace.cased,
        Bool.false_eq_true, if_false]
    | false =>
      rw [if_neg Bool.false_ne_true, casedAhead, casedAhead, ih]

theorem lowerFrom_collapseFrom {inRun : Bool} (h : inRun = true → cased = false) (text : Text) :
    lowerFrom cased (collapseFrom inRun text) = collapseFrom inRun (lowerFrom cased text) := by
  induction text generalizing cased inRun with
  | nil => rfl
  | cons c rest ih =>
    cases hc : isBlank c with
    | true =>
      have hspace : IsNeutral ' ' := isNeutral_of_isBlank rfl
      have hrest : lowerFrom false (collapseFrom true rest) =
          collapseFrom true (lowerFrom false rest) := ih fun _ => rfl
      rw [lowerFrom_neutral cased (isNeutral_of_isBlank hc), collapseFrom, collapseFrom, hc,
        if_pos rfl, if_pos rfl]
      cases inRun with
      | true => rw [if_pos rfl, if_pos rfl, h rfl, hrest]
      | false =>
        rw [if_neg Bool.false_ne_true, if_neg Bool.false_ne_true,
          lowerFrom_neutral cased hspace, hrest]
    | false =>
      have hhead : lowerHead cased c (collapseFrom false rest) = lowerHead cased c rest := by
        unfold lowerHead
        rw [casedAhead_collapse]
      have hrest : lowerFrom (casedAfter cased c) (collapseFrom false rest) =
          collapseFrom false (lowerFrom (casedAfter cased c) rest) :=
        ih fun h => absurd h Bool.false_ne_true
      rw [collapseFrom, hc, if_neg Bool.false_ne_true, lowerFrom_cons, lowerFrom_cons, hhead, hrest,
        collapseFrom_append_uncut (uncut_lowerHead hc _ _) (lowerHead_ne_nil _ _ _)]

theorem lower_collapse (text : Text) : (collapse text).lower = collapse text.lower :=
  lowerFrom_collapseFrom (fun h => absurd h Bool.false_ne_true) text

theorem lower_stripStart (text : Text) : (stripStart text).lower = stripStart text.lower := by
  induction text with
  | nil => rfl
  | cons c rest ih =>
    cases hc : isBlank c with
    | true =>
      have hlower : lower (c :: rest) = c :: lower rest :=
        lowerFrom_neutral false (isNeutral_of_isBlank hc) rest
      rw [hlower, stripStart, stripStart, List.dropWhile_cons_of_pos hc,
        List.dropWhile_cons_of_pos hc]
      exact ih
    | false =>
      have hstarts : ∀ d ∈ (lower (c :: rest)).head?, isBlank d = false := by
        intro d hd
        rw [lower, lowerFrom_cons, List.head?_append_of_ne_nil _ (lowerHead_ne_nil _ _ _)] at hd
        exact uncut_lowerHead hc false rest d (List.mem_of_mem_head? hd)
      have hstrip := stripStart_append [] hstarts
      rw [stripStart, List.dropWhile_cons_of_neg (by simp [hc])]
      exact hstrip.symm

theorem lower_stripEnd (text : Text) : (stripEnd text).lower = stripEnd text.lower := by
  induction text using List.reverseRecOn with
  | nil => rfl
  | append_singleton before c ih =>
    cases hc : isBlank c with
    | true =>
      have hlower : lower (before ++ [c]) = lower before ++ [c] :=
        lower_append_neutral before [] (isNeutral_of_isBlank hc)
      have hlast : ∀ text : Text, stripEnd (text ++ [c]) = stripEnd text := by
        intro text
        simp [stripEnd, hc]
      rw [hlower, hlast, hlast, ih]
    | false =>
      have hself : stripEnd (before ++ [c]) = before ++ [c] := by simp [stripEnd, hc]
      have hends : ∀ d ∈ (lower (before ++ [c])).getLast?, isBlank d = false := by
        intro d hd
        rw [lower, lowerFrom_append, lowerFrom_cons, lowerFrom, List.append_nil,
          List.getLast?_append_of_ne_nil _ (lowerHead_ne_nil _ _ _)] at hd
        exact uncut_lowerHead hc _ [] d (List.mem_of_getLast? hd)
      have hstrip := stripEnd_append [] hends
      rw [hself]
      simpa [stripEnd] using hstrip.symm

theorem lower_strip_collapse (text : Text) :
    (collapse text).strip.lower = (collapse text.lower).strip := by
  rw [strip, lower_stripEnd, lower_stripStart, lower_collapse, ← strip]

end CorpusSearch.Text
