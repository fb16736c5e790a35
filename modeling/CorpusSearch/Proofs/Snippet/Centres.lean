-- The positions around which excerpts are cut. They are taken from the hits from left to right,
-- each one half a window or more behind those before it; and every hit that is passed over lies
-- less than half a window behind one that is taken, up to the last one that there is room for. Only
-- a window of which the half is past every floating-point number is refused.
import CorpusSearch.Proofs.Number.Whole
import CorpusSearch.Snippet.Window
import Mathlib.Data.List.Sort

namespace CorpusSearch.Snippet

/-! ## Hits in their order -/

/-- The order of hits by position, in which hits at one position are equals. -/
def Hit.NotBehind (hit other : Hit) : Prop := hit.position ≤ other.position

instance instDecidableNotBehind : DecidableRel Hit.NotBehind := fun hit other =>
  inferInstanceAs (Decidable (hit.position ≤ other.position))

instance instTotalNotBehind : Std.Total Hit.NotBehind where
  total hit other := Nat.le_total hit.position other.position

instance instTransNotBehind : IsTrans Hit Hit.NotBehind where
  trans _ _ _ h h' := Nat.le_trans h h'

theorem insertHit_eq_orderedInsert (hit : Hit) (hits : List Hit) :
    insertHit hit hits = hits.orderedInsert Hit.NotBehind hit := by
  induction hits with
  | nil => rfl
  | cons other hits ih =>
    rw [insertHit, List.orderedInsert_cons, ih]
    rfl

theorem sortHits_eq_insertionSort (hits : List Hit) :
    sortHits hits = hits.insertionSort Hit.NotBehind := by
  unfold sortHits List.insertionSort
  congr 1
  funext hit hits
  exact insertHit_eq_orderedInsert hit hits

theorem pairwise_findOccurrences (text : Text) (needles : List Text) :
    (findOccurrences text needles).Pairwise Hit.NotBehind := by
  unfold findOccurrences
  rw [sortHits_eq_insertionSort]
  exact List.pairwise_insertionSort _ _

/-! ## Positions that are taken -/

theorem isNear_iff {window : Int} {position centre : Nat} (h : centre ≤ position) :
    isNear window position centre = true ↔ 2 * ((position : Int) - centre) < window := by
  unfold isNear
  rw [decide_eq_true_iff]
  omega

/-- Whether a position lies less than half a window behind one that was taken. -/
def IsCovered (window : Int) (taken : List Nat) (position : Nat) : Prop :=
  ∃ centre ∈ taken, centre ≤ position ∧ 2 * ((position : Int) - centre) < window

variable {window : Int} {room : Nat} {taken : List Nat} {hits : List Hit}

theorem IsCovered.mono {others : List Nat} {position : Nat} (h : IsCovered window taken position)
    (hsubset : taken ⊆ others) : IsCovered window others position := by
  obtain ⟨centre, hcentre, hcovers⟩ := h
  exact ⟨centre, hsubset hcentre, hcovers⟩

/-- No hit lies in front of a position that was taken. -/
def Precede (taken : List Nat) (hits : List Hit) : Prop :=
  ∀ centre ∈ taken, ∀ hit ∈ hits, centre ≤ hit.position

theorem Precede.tail {hit : Hit} (h : Precede taken (hit :: hits)) : Precede taken hits :=
  fun centre hcentre other hother => h centre hcentre other (List.mem_cons_of_mem _ hother)

theorem Precede.cons {hit : Hit} (h : Precede taken hits)
    (hfirst : ∀ other ∈ hits, hit.NotBehind other) : Precede (hit.position :: taken) hits := by
  intro centre hcentre
  rcases List.mem_cons.mp hcentre with rfl | hcentre
  · exact hfirst
  · exact h centre hcentre

theorem sublist_centresFrom :
    (centresFrom window room taken hits).Sublist (hits.map Hit.position) := by
  fun_induction centresFrom window room taken hits with
  | case1 => exact List.nil_sublist _
  | case2 => exact List.nil_sublist _
  | case3 room taken hit hits _ ih => exact ih.cons _
  | case4 room taken hit hits _ ih => exact ih.cons_cons _

theorem length_centresFrom_le : (centresFrom window room taken hits).length ≤ room := by
  fun_induction centresFrom window room taken hits with
  | case1 => exact Nat.le_refl _
  | case2 => exact Nat.zero_le _
  | case3 room taken hit hits _ ih => exact ih
  | case4 room taken hit hits _ ih => exact Nat.succ_le_succ ih

/-- No position is near to one that was taken before it. -/
theorem apart_centresFrom :
    (∀ position ∈ centresFrom window room taken hits,
      taken.any (isNear window position) = false) ∧
    (centresFrom window room taken hits).Pairwise fun centre position =>
      isNear window position centre = false := by
  fun_induction centresFrom window room taken hits with
  | case1 => exact ⟨nofun, .nil⟩
  | case2 => exact ⟨nofun, .nil⟩
  | case3 room taken hit hits _ ih => exact ih
  | case4 room taken hit hits hfar ih =>
    obtain ⟨hbehind, hpairs⟩ := ih
    have htaken : ∀ position ∈ centresFrom window room (hit.position :: taken) hits,
        isNear window position hit.position = false ∧
          taken.any (isNear window position) = false := by
      intro position hposition
      rw [← Bool.or_eq_false_iff, ← List.any_cons]
      exact hbehind position hposition
    refine ⟨?_, .cons (fun position hposition => (htaken position hposition).1) hpairs⟩
    intro position hposition
    rcases List.mem_cons.mp hposition with rfl | hrest
    · exact Bool.eq_false_iff.mpr hfar
    · exact (htaken position hrest).2

/-- Each hit is covered up to the last position that is taken, and behind it as well while there is
room left. -/
theorem isCovered_centresFrom (hwindow : 0 < window) (hsorted : hits.Pairwise Hit.NotBehind)
    (htaken : Precede taken hits) {hit : Hit} (hhit : hit ∈ hits)
    (hroom : (centresFrom window room taken hits).length < room ∨
      ∃ last ∈ centresFrom window room taken hits, hit.position ≤ last) :
    IsCovered window (taken ++ centresFrom window room taken hits) hit.position := by
  fun_induction centresFrom window room taken hits with
  | case1 => simp at hroom
  | case2 => cases hhit
  | case3 room taken first hits hnear ih =>
    obtain ⟨-, hsorted⟩ := List.pairwise_cons.mp hsorted
    rcases List.mem_cons.mp hhit with rfl | hhit
    · obtain ⟨centre, hcentre, hnear⟩ := List.any_eq_true.mp hnear
      have hbefore := htaken centre hcentre hit (List.mem_cons_self ..)
      exact ⟨centre, List.mem_append_left _ hcentre, hbefore, (isNear_iff hbefore).mp hnear⟩
    · exact ih hsorted htaken.tail hhit hroom
  | case4 room taken first hits _ ih =>
    obtain ⟨hfirst, hsorted⟩ := List.pairwise_cons.mp hsorted
    -- The hit that is taken covers itself, and with it all hits at its position.
    have hself : IsCovered window
        (taken ++ first.position :: centresFrom window room (first.position :: taken) hits)
        first.position :=
      ⟨first.position, by simp, Nat.le_refl _, by omega⟩
    rcases List.mem_cons.mp hhit with rfl | hhit
    · exact hself
    · have hbehind : first.position ≤ hit.position := hfirst hit hhit
      have hrest := fun hroom =>
        (ih hsorted (htaken.tail.cons hfirst) hhit hroom).mono List.perm_middle.symm.subset
      rcases hroom with hroom | ⟨last, hlast, hle⟩
      · exact hrest (Or.inl (Nat.lt_of_succ_lt_succ hroom))
      · rcases List.mem_cons.mp hlast with rfl | hlast
        · rwa [Nat.le_antisymm hle hbehind]
        · exact hrest (Or.inr ⟨last, hlast, hle⟩)

/-! ## The laws of a selection -/

/-- Positions increase, and two of them are half a window or more apart. -/
def IsSpaced (window : Int) (positions : List Nat) : Prop :=
  positions.Pairwise fun (centre position : Nat) =>
    centre < position ∧ window ≤ 2 * ((position : Int) - centre)

theorem IsSpaced.apart {positions : List Nat} (h : IsSpaced window positions)
    {centre position : Nat} (hcentre : centre ∈ positions) (hposition : position ∈ positions)
    (hlt : centre < position) : window ≤ 2 * ((position : Int) - centre) := by
  induction positions with
  | nil => cases hcentre
  | cons first positions ih =>
    obtain ⟨hfirst, hrest⟩ := List.pairwise_cons.mp h
    rcases List.mem_cons.mp hposition with rfl | hbehind
    · rcases List.mem_cons.mp hcentre with rfl | hcentre
      · exact absurd hlt (Nat.lt_irrefl _)
      · exact absurd (hfirst centre hcentre).1 (Nat.lt_asymm hlt)
    · rcases List.mem_cons.mp hcentre with rfl | hcentre
      · exact (hfirst position hbehind).2
      · exact ih hrest hcentre hbehind

theorem IsSpaced.zero_not_mem_tail {positions : List Nat} (h : IsSpaced window positions) :
    0 ∉ positions.tail := by
  intro hzero
  cases positions with
  | nil => cases hzero
  | cons first positions =>
    obtain ⟨hfirst, -⟩ := List.pairwise_cons.mp h
    exact absurd (hfirst 0 hzero).1 (Nat.not_lt_zero first)

theorem IsSpaced.nodup {positions : List Nat} (h : IsSpaced window positions) :
    positions.Nodup := h.imp fun hpair => Nat.ne_of_lt hpair.1

/-- Positions that are selected from hits for at most `room` excerpts. -/
structure IsSelection (window : Int) (room : Nat) (hits : List Hit) (selected : List Nat) :
    Prop where
  sublist : selected.Sublist (hits.map Hit.position)
  length_le : selected.length ≤ room
  spaced : IsSpaced window selected
  covered : ∀ hit ∈ hits, selected.length < room ∨ (∃ last ∈ selected, hit.position ≤ last) →
    IsCovered window selected hit.position

theorem isSelection_centres (hwindow : 0 < window) (hsorted : hits.Pairwise Hit.NotBehind)
    (maxSnippets : Int) :
    IsSelection window maxSnippets.toNat hits (centres window maxSnippets hits) where
  sublist := sublist_centresFrom
  length_le := length_centresFrom_le
  spaced := by
    have hordered : (hits.map Hit.position).Pairwise (· ≤ ·) := List.pairwise_map.mpr hsorted
    have hpositions : (centres window maxSnippets hits).Pairwise (· ≤ ·) :=
      hordered.sublist sublist_centresFrom
    refine (hpositions.and apart_centresFrom.2).imp fun {centre position} ⟨hle, hfar⟩ => ?_
    have hfar : ¬ 2 * ((position : Int) - centre) < window := by
      rw [← isNear_iff hle, hfar]
      exact Bool.false_ne_true
    omega
  covered _ hhit hroom :=
    isCovered_centresFrom hwindow hsorted (fun _ hnone => absurd hnone List.not_mem_nil) hhit hroom

/-! ## The excerpts of a text -/

theorem extract?_eq (window maxSnippets : Int) (text : Text) (needles : List Text) :
    extract? window maxSnippets text needles =
      if window.natAbs < 2 * Double.past then .ok (extract window maxSnippets text needles)
      else .error windowTooLarge := by
  have hlarge := Double.quotient?_eq_none_iff (show 1 ≤ 1021 by decide) window
  rw [show Number.twoTo 1 = 2 from rfl, Nat.mul_comm] at hlarge
  unfold extract?
  split
  · rename_i hquotient
    rw [if_pos]
    exact Nat.lt_of_not_le fun hle => by simp [hlarge.mpr hle] at hquotient
  · rename_i hquotient
    rw [if_neg]
    exact Nat.not_lt.mpr (hlarge.mp hquotient)

/-- Excerpts are refused for a window of which the half is past every floating-point number. For
every other one there is one excerpt for each position that is taken, in their order. The positions
are those of hits, no more than are wanted; they increase, and two of them are half a window or more
apart; and each hit lies less than half a window behind one of them, the hits behind the last one
only while fewer are taken than are wanted. -/
theorem extract_selects_hits {window maxSnippets : Int} (hwindow : 1 ≤ window)
    (hmax : 0 ≤ maxSnippets) (text : Text) (needles : List Text) :
    let hits := findOccurrences text needles
    let taken := centres window maxSnippets hits
    extract? window maxSnippets text needles =
      (if window < 2 * Double.past then
        .ok (taken.map fun position => clip text (windowAround window text.length position))
      else .error windowTooLarge) ∧
    taken.Sublist (hits.map Hit.position) ∧ (taken.length : Int) ≤ maxSnippets ∧
    (taken.Pairwise fun (centre position : Nat) =>
      centre < position ∧ window ≤ 2 * ((position : Int) - centre)) ∧
    ∀ hit ∈ hits, (taken.length : Int) < maxSnippets ∨ (∃ last ∈ taken, hit.position ≤ last) →
      ∃ centre ∈ taken, centre ≤ hit.position ∧
        2 * ((hit.position : Int) - centre) < window := by
  intro hits taken
  have hselection : IsSelection window maxSnippets.toNat hits taken :=
    isSelection_centres hwindow (pairwise_findOccurrences text needles) maxSnippets
  have hroom : (maxSnippets.toNat : Int) = maxSnippets := Int.toNat_of_nonneg hmax
  refine ⟨?_, hselection.sublist, ?_, hselection.spaced, fun hit hhit hroom => ?_⟩
  · rw [extract?_eq]
    have hnatAbs : window.natAbs < 2 * Double.past ↔ window < 2 * Double.past := by omega
    simp only [hnatAbs]
    rfl
  · have := hselection.length_le
    omega
  · exact hselection.covered hit hhit (hroom.imp_left fun hless => by omega)

/-- The second of three hits lies a quarter of a window behind the first one, and has no excerpt. -/
theorem extract_selects_hits_law :
    let text : Text := "law law and law"
    let hits := findOccurrences text ["law"]
    let taken := centres 16 6 hits
    (1 : Int) ≤ 16 ∧ (0 : Int) ≤ 6 ∧ hits.map Hit.position = [0, 4, 12] ∧ taken = [0, 12] ∧
      extract? 16 6 text ["law"] = .ok ["law law and law".toList, "…law and law".toList] ∧
      ∃ centre ∈ taken, centre ≤ 4 ∧ 2 * ((4 : Int) - centre) < 16 := by
  intro text hits taken
  have hwindow : (1 : Int) ≤ 16 := by decide
  have hmax : (0 : Int) ≤ 6 := by decide
  have hhit : (⟨4, "law"⟩ : Hit) ∈ hits := by decide
  obtain ⟨hextract, -, -, -, hcovered⟩ := extract_selects_hits hwindow hmax text ["law"]
  refine ⟨hwindow, hmax, by decide, by decide, ?_, hcovered _ hhit (Or.inl (by decide))⟩
  rw [hextract, if_pos (by decide +kernel)]
  decide

/-- A window of `10 ^ 309` characters is refused, and the hit has no excerpt. -/
theorem extract_refuses_wide_window :
    (1 : Int) ≤ Number.tenTo 309 ∧ findOccurrences "law" ["law"] = [⟨0, "law"⟩] ∧
      extract? (Number.tenTo 309) 6 "law" ["law"] = .error windowTooLarge := by
  refine ⟨by decide +kernel, by decide, ?_⟩
  rw [extract?_eq, if_neg]
  decide +kernel

end CorpusSearch.Snippet
