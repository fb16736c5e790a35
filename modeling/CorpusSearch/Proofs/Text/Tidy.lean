-- Texts on one line. Runs of blanks become single spaces and the blanks at the two ends go. What is
-- tidy already stays as it is, also where it stands inside a longer text.
import CorpusSearch.Proofs.Text.Blank
import Mathlib.Data.List.Chain

namespace CorpusSearch.Text

structure HasSingleSpaces (text : Text) : Prop where
  spaces : ∀ c ∈ text, isBlank c = true → c = ' '
  single : text.IsChain fun c d => isBlank c = true → isBlank d = false

/-- The blanks of a text are single spaces between other characters. -/
structure IsTidy (text : Text) : Prop extends HasSingleSpaces text where
  starts : ∀ c ∈ text.head?, isBlank c = false
  ends : ∀ c ∈ text.getLast?, isBlank c = false

variable {text part : Text}

theorem isTidy_iff : IsTidy text ↔
    text.all (fun c => !isBlank c || c == ' ') = true ∧
      text.IsChain (fun c d => isBlank c = true → isBlank d = false) ∧
      text.head?.all (fun c => !isBlank c) = true ∧
      text.getLast?.all (fun c => !isBlank c) = true := by
  simp only [List.all_eq_true, Option.all_eq_true, Bool.or_eq_true, Bool.not_eq_true',
    beq_iff_eq, or_iff_not_imp_left, Bool.not_eq_false]
  constructor
  · rintro ⟨⟨hspaces, hsingle⟩, hstarts, hends⟩
    exact ⟨hspaces, hsingle, hstarts, hends⟩
  · rintro ⟨hspaces, hsingle, hstarts, hends⟩
    exact ⟨⟨hspaces, hsingle⟩, hstarts, hends⟩

instance instDecidableIsTidy (text : Text) : Decidable (IsTidy text) :=
  decidable_of_iff' _ isTidy_iff

theorem HasSingleSpaces.inside (h : HasSingleSpaces text) (hpart : part <:+: text) :
    HasSingleSpaces part where
  spaces c hc := h.spaces c (hpart.subset hc)
  single := h.single.infix hpart

/-! ## Runs of blanks -/

/-- A text is collapsed part by part: of what stands before a part it counts only whether a run of
blanks is open. -/
theorem collapseFrom_append (inRun : Bool) (before behind : Text) :
    collapseFrom inRun (before ++ behind) =
      collapseFrom inRun before ++
        collapseFrom (before.foldl (fun _ c => isBlank c) inRun) behind := by
  induction before generalizing inRun with
  | nil => rfl
  | cons c before ih =>
    rw [List.cons_append, List.foldl_cons, collapseFrom, collapseFrom]
    cases hc : isBlank c with
    | false => simp [ih]
    | true => cases inRun <;> simp [ih]

theorem collapseFrom_of_singleSpaces {inRun : Bool} (h : HasSingleSpaces text)
    (hrun : inRun = true → ∀ c ∈ text.head?, isBlank c = false) :
    collapseFrom inRun text = text := by
  induction text generalizing inRun with
  | nil => rfl
  | cons c rest ih =>
    have hrest : HasSingleSpaces rest := h.inside (List.suffix_cons c rest).isInfix
    unfold collapseFrom
    cases hc : isBlank c with
    | false =>
      rw [if_neg Bool.false_ne_true, ih hrest fun hrun => absurd hrun Bool.false_ne_true]
    | true =>
      have hnext : ∀ d ∈ rest.head?, isBlank d = false :=
        fun d hd => (List.isChain_cons.mp h.single).1 d hd hc
      cases inRun with
      | true => exact absurd hc (Bool.eq_false_iff.mp (hrun rfl c rfl))
      | false => rw [if_pos rfl, if_neg Bool.false_ne_true, ih hrest fun _ => hnext,
          h.spaces c (List.mem_cons_self ..) hc]

theorem hasSingleSpaces_collapseFrom (inRun : Bool) (text : Text) :
    HasSingleSpaces (collapseFrom inRun text) ∧
      (inRun = true → ∀ c ∈ (collapseFrom inRun text).head?, isBlank c = false) := by
  induction text generalizing inRun with
  | nil => exact ⟨⟨nofun, .nil⟩, nofun⟩
  | cons c rest ih =>
    unfold collapseFrom
    cases hc : isBlank c with
    | true =>
      obtain ⟨hrest, hnext⟩ := ih true
      cases inRun with
      | true => exact ⟨hrest, hnext⟩
      | false =>
        refine ⟨⟨?_, List.isChain_cons.mpr ⟨fun d hd _ => hnext rfl d hd, hrest.single⟩⟩, nofun⟩
        exact List.forall_mem_cons.mpr ⟨fun _ => rfl, hrest.spaces⟩
    | false =>
      obtain ⟨hrest, -⟩ := ih false
      refine ⟨⟨?_, ?_⟩, fun _ d hd => ?_⟩
      · refine List.forall_mem_cons.mpr ⟨fun hblank => ?_, hrest.spaces⟩
        rw [hc] at hblank
        cases hblank
      · refine List.isChain_cons.mpr ⟨fun d _ hblank => ?_, hrest.single⟩
        rw [hc] at hblank
        cases hblank
      · cases hd
        exact hc

theorem length_collapseFrom_le (inRun : Bool) (text : Text) :
    (collapseFrom inRun text).length ≤ text.length := by
  induction text generalizing inRun with
  | nil => exact Nat.le_refl _
  | cons c rest ih =>
    have htrue := ih true
    have hfalse := ih false
    unfold collapseFrom
    split
    · split
      · exact Nat.le_succ_of_le htrue
      · exact Nat.succ_le_succ htrue
    · exact Nat.succ_le_succ hfalse

theorem mem_of_mem_collapseFrom {inRun : Bool} {c : Char} (h : c ∈ collapseFrom inRun text) :
    c = ' ' ∨ c ∈ text := by
  induction text generalizing inRun with
  | nil => cases h
  | cons d rest ih =>
    have hrest : ∀ {inRun}, c ∈ collapseFrom inRun rest → c = ' ' ∨ c ∈ d :: rest :=
      fun hc => (ih hc).imp_right (List.mem_cons_of_mem d)
    unfold collapseFrom at h
    split at h
    · split at h
      · exact hrest h
      · exact (List.mem_cons.mp h).elim Or.inl hrest
    · exact (List.mem_cons.mp h).elim (fun heq => Or.inr (heq ▸ List.mem_cons_self ..)) hrest

/-! ## Blanks at the ends -/

/-- A part that starts with no blank stays when a text is stripped at its start. -/
theorem stripStart_append (before : Text) (h : ∀ c ∈ part.head?, isBlank c = false) :
    stripStart (before ++ part) = stripStart before ++ part := by
  unfold stripStart
  induction before with
  | nil =>
    cases part with
    | nil => rfl
    | cons c part => simp [h c rfl]
  | cons c before ih =>
    rw [List.cons_append, List.dropWhile_cons, List.dropWhile_cons]
    split
    · exact ih
    · rfl

theorem not_isBlank_of_mem_head?_stripStart {c : Char} (h : c ∈ (stripStart text).head?) :
    isBlank c = false := by
  have hnot := List.head?_dropWhile_not isBlank text
  unfold stripStart at h
  rwa [Option.mem_def.mp h] at hnot

/-- A part that ends with no blank stays when a text is stripped at its end. -/
theorem stripEnd_append (behind : Text) (h : ∀ c ∈ part.getLast?, isBlank c = false) :
    stripEnd (part ++ behind) = part ++ stripEnd behind := by
  have hstart : stripStart (behind.reverse ++ part.reverse) =
      stripStart behind.reverse ++ part.reverse :=
    stripStart_append _ (by rwa [List.head?_reverse])
  unfold stripEnd
  rw [List.reverse_append, ← stripStart, hstart, List.reverse_append, List.reverse_reverse]
  rfl

theorem isPrefix_stripEnd (text : Text) : stripEnd text <+: text := by
  have h := List.reverse_prefix.mpr (List.dropWhile_suffix isBlank (l := text.reverse))
  rwa [List.reverse_reverse] at h

theorem isInfix_strip (text : Text) : strip text <:+: text :=
  (isPrefix_stripEnd _).isInfix.trans (List.dropWhile_suffix isBlank).isInfix

/-- A part that neither starts nor ends with a blank stays when a text is stripped. -/
theorem infix_strip (hpart : part <:+: text) (hstarts : ∀ c ∈ part.head?, isBlank c = false)
    (hends : ∀ c ∈ part.getLast?, isBlank c = false) : part <:+: strip text := by
  obtain ⟨before, behind, rfl⟩ := hpart
  cases part with
  | nil => exact List.nil_infix
  | cons c part =>
    have hstart : stripStart (before ++ (c :: part ++ behind)) =
        stripStart before ++ (c :: part ++ behind) :=
      stripStart_append before hstarts
    have hlast : ∀ d ∈ (stripStart before ++ (c :: part)).getLast?, isBlank d = false := by
      rwa [List.getLast?_append_of_ne_nil _ (List.cons_ne_nil c part)]
    unfold strip
    rw [List.append_assoc, hstart, ← List.append_assoc, stripEnd_append behind hlast]
    exact List.infix_append ..

/-! ## The laws -/

/-- On one line a text is tidy. -/
theorem isTidy_strip_collapse (text : Text) : IsTidy (collapse text).strip where
  toHasSingleSpaces := (hasSingleSpaces_collapseFrom false text).1.inside (isInfix_strip _)
  starts c hc := by
    obtain ⟨rest, hrest⟩ := isPrefix_stripEnd (stripStart (collapse text))
    have hfirst : c ∈ (stripStart (collapse text)).head? := by
      rw [strip] at hc
      rw [← hrest, List.head?_append, Option.mem_def.mp hc]
      rfl
    exact not_isBlank_of_mem_head?_stripStart hfirst
  ends c hc := by
    unfold strip stripEnd at hc
    rw [List.getLast?_reverse] at hc
    exact not_isBlank_of_mem_head?_stripStart hc

/-- A tidy part of a text stays a part of it when the text is brought on one line. -/
theorem IsTidy.infix_strip_collapse (h : IsTidy part) (hpart : part <:+: text) :
    part <:+: (collapse text).strip := by
  refine infix_strip ?_ h.starts h.ends
  obtain ⟨before, behind, rfl⟩ := hpart
  unfold collapse
  rw [collapseFrom_append, collapseFrom_append,
    collapseFrom_of_singleSpaces h.toHasSingleSpaces fun _ => h.starts]
  exact List.infix_append ..

theorem length_strip_collapse_le (text : Text) : (collapse text).strip.length ≤ text.length :=
  (isInfix_strip _).length_le.trans (length_collapseFrom_le false text)

theorem mem_of_mem_strip_collapse {c : Char} (h : c ∈ (collapse text).strip) :
    c = ' ' ∨ c ∈ text :=
  mem_of_mem_collapseFrom ((isInfix_strip _).subset h)

end CorpusSearch.Text
