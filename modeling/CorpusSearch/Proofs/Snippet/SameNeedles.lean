-- The order of the needles and their repetitions do not show in the excerpts of a text, as long as
-- no hit is left out: hits at one position may change places, but only their positions are looked
-- at.
import CorpusSearch.Proofs.Snippet.Hits

namespace CorpusSearch.Snippet

open scoped List

variable {text : Text} {needles others : List Text} {hits : List Hit}

/-! ## Positions -/

/-- What stands at the positions of hits does not count for which of them are taken. -/
theorem centresFrom_bare (window : Int) (room : Nat) (taken : List Nat) (hits : List Hit) :
    centresFrom window room taken hits =
      centresFrom window room taken
        ((hits.map Hit.position).map fun position => ⟨position, []⟩) := by
  fun_induction centresFrom window room taken hits with
  | case1 => rw [centresFrom]
  | case2 => rfl
  | case3 room taken hit hits hnear ih =>
    rw [List.map_cons, List.map_cons, centresFrom, if_pos hnear, ih]
  | case4 room taken hit hits hfar ih =>
    rw [List.map_cons, List.map_cons, centresFrom, if_neg hfar, ih]

theorem centres_congr (window maxSnippets : Int) {others : List Hit}
    (h : hits.map Hit.position = others.map Hit.position) :
    centres window maxSnippets hits = centres window maxSnippets others := by
  unfold centres
  rw [centresFrom_bare, h, ← centresFrom_bare]

/-! ## Needles in another order -/

theorem distinctNeedles_perm (hsame : ∀ needle, needle ∈ needles ↔ needle ∈ others) :
    (distinctNeedles needles).Perm (distinctNeedles others) := by
  refine (List.perm_ext_iff_of_nodup (nodup_distinctNeedles _) (nodup_distinctNeedles _)).mpr ?_
  intro needle
  rw [mem_distinctNeedles, mem_distinctNeedles, hsame]

/-- Up to the limit the hits of the same needles are the same hits, maybe in another order. -/
theorem findOccurrences_perm_of_same (hsame : ∀ needle, needle ∈ needles ↔ needle ∈ others)
    (hfew : occurrenceCount text needles ≤ maxOccurrences) :
    (findOccurrences text needles).Perm (findOccurrences text others) := by
  have hperm := distinctNeedles_perm hsame
  have hcount : occurrenceCount text others = occurrenceCount text needles :=
    (hperm.map _).sum_nat.symm
  calc findOccurrences text needles ~ (distinctNeedles needles).flatMap (hitsOf text) :=
        findOccurrences_perm_hitsOf hfew
    _ ~ (distinctNeedles others).flatMap (hitsOf text) := hperm.flatMap_right _
    _ ~ findOccurrences text others :=
        (findOccurrences_perm_hitsOf (hcount.trans_le hfew)).symm

theorem positions_findOccurrences_of_same (hsame : ∀ needle, needle ∈ needles ↔ needle ∈ others)
    (hfew : occurrenceCount text needles ≤ maxOccurrences) :
    (findOccurrences text needles).map Hit.position =
      (findOccurrences text others).map Hit.position := by
  have hordered : ∀ needles, ((findOccurrences text needles).map Hit.position).Pairwise (· ≤ ·) :=
    fun needles => List.pairwise_map.mpr (pairwise_findOccurrences text needles)
  exact List.Perm.eq_of_pairwise (fun _ _ _ _ => Nat.le_antisymm) (hordered needles)
    (hordered others) ((findOccurrences_perm_of_same hsame hfew).map Hit.position)

/-! ## The law -/

/-- Two lists of the same needles, in whatever order and however often each, give the same excerpts
of a text for every window and every count, if the needles have no more occurrences in all than the
limit. Where the window is refused, it is refused for both. -/
theorem extract?_of_same_needles (window maxSnippets : Int) (text : Text)
    {needles others : List Text}
    (hsame : ∀ needle, needle ∈ needles ↔ needle ∈ others)
    (hfew : occurrenceCount text needles ≤ maxOccurrences) :
    extract? window maxSnippets text needles = extract? window maxSnippets text others := by
  have hcentres : centres window maxSnippets (findOccurrences text needles) =
      centres window maxSnippets (findOccurrences text others) :=
    centres_congr window maxSnippets (positions_findOccurrences_of_same hsame hfew)
  rw [extract?_eq, extract?_eq]
  unfold extract
  rw [hcentres]

/-- Two needles start at one position, and their hits change places with the needles. A window
without width takes both. -/
theorem extract?_of_same_needles_law :
    let text : Text := "common law"
    let needles : List Text := ["law", "la", [], "on"]
    let others : List Text := ["la", "on", "law", [], "la"]
    (∀ needle, needle ∈ needles ↔ needle ∈ others) ∧
      occurrenceCount text needles ≤ maxOccurrences ∧
      findOccurrences text needles ≠ findOccurrences text others ∧
      extract? 0 2 text needles = extract? 0 2 text others ∧
      extract? 4 6 text others = .ok ["…mmon…".toList, "…n la…".toList] := by
  intro text needles others
  have hsame : ∀ needle, needle ∈ needles ↔ needle ∈ others := by
    simp only [needles, others, List.mem_cons, List.not_mem_nil, or_false]
    tauto
  have hfew : occurrenceCount text needles ≤ maxOccurrences := by decide
  refine ⟨hsame, hfew, by decide, extract?_of_same_needles 0 2 text hsame hfew, ?_⟩
  rw [← extract?_of_same_needles 4 6 text hsame hfew, extract?_eq, if_pos (by decide +kernel)]
  decide

end CorpusSearch.Snippet
