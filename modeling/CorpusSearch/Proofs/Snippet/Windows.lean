-- The windows that the excerpts of a text are cut from. Their starts increase from one to the next,
-- but for one case: around a hit at the start of the text and around one exactly half a window
-- behind it, the window is the same.
import CorpusSearch.Proofs.Snippet.Centres

namespace CorpusSearch.Snippet

/-! ## Windows around positions -/

/-- The windows of the excerpts of a text. -/
def windows (window maxSnippets : Int) (text : Text) (needles : List Text) : List Window :=
  (centres window maxSnippets (findOccurrences text needles)).map (windowAround window text.length)

theorem extract_eq_map_windows (window maxSnippets : Int) (text : Text) (needles : List Text) :
    extract window maxSnippets text needles =
      (windows window maxSnippets text needles).map (clip text) := by
  unfold extract windows
  rw [List.map_map]
  rfl

/-- The excerpts are cut from the windows, unless the half of a window is past every floating-point
number. -/
theorem extract?_eq_windows {window : Int} (hwindow : 1 ≤ window) (maxSnippets : Int) (text : Text)
    (needles : List Text) :
    extract? window maxSnippets text needles =
      if window < 2 * Double.past then
        .ok ((windows window maxSnippets text needles).map (clip text))
      else .error windowTooLarge := by
  have hnatAbs : window.natAbs < 2 * Double.past ↔ window < 2 * Double.past := by omega
  rw [extract?_eq, extract_eq_map_windows]
  simp only [hnatAbs]

variable {window : Int} {length centre position : Nat}

theorem start_windowAround :
    (windowAround window length position).start = ((position : Int) - window / 2).toNat := by
  rw [← Int.fdiv_eq_ediv_of_nonneg window (by decide)]
  rfl

theorem windowAround_eq_iff :
    windowAround window length centre = windowAround window length position ↔
      (windowAround window length centre).start = (windowAround window length position).start := by
  refine ⟨congrArg Window.start, fun h => ?_⟩
  unfold windowAround at h ⊢
  dsimp only at h ⊢
  rw [h]

theorem start_windowAround_le (h : centre ≤ position) :
    (windowAround window length centre).start ≤ (windowAround window length position).start := by
  rw [start_windowAround, start_windowAround]
  omega

/-- Of two positions half a window apart the second one has a window further on, unless the first
one is the start of the text and the second one no more than half a window behind it. -/
theorem start_windowAround_lt (hlt : centre < position)
    (hapart : window ≤ 2 * ((position : Int) - centre))
    (hstart : centre = 0 → 2 * (position : Int) ≠ window) :
    (windowAround window length centre).start < (windowAround window length position).start := by
  rw [start_windowAround, start_windowAround]
  omega

theorem pairwise_start_le {positions : List Nat} (h : IsSpaced window positions) :
    (positions.map (windowAround window length)).Pairwise fun first second =>
      first.start ≤ second.start :=
  List.pairwise_map.mpr (h.imp fun hpair => start_windowAround_le (Nat.le_of_lt hpair.1))

theorem pairwise_start_lt {positions : List Nat} (h : IsSpaced window positions)
    (hstart : 0 ∈ positions → ∀ position ∈ positions, 2 * (position : Int) ≠ window) :
    (positions.map (windowAround window length)).Pairwise fun first second =>
      first.start < second.start := by
  refine List.pairwise_map.mpr (h.imp_of_mem fun hcentre hposition hpair => ?_)
  exact start_windowAround_lt hpair.1 hpair.2 fun hzero =>
    hstart (hzero ▸ hcentre) _ hposition

/-! ## Hits half a window apart at the start of a text -/

namespace IsSelection

variable {room : Nat} {hits : List Hit} {selected : List Nat}

theorem exists_hit (h : IsSelection window room hits selected) (hposition : position ∈ selected) :
    ∃ hit ∈ hits, hit.position = position :=
  List.mem_map.mp (h.sublist.subset hposition)

/-- A hit at the start of the text is always taken if there is room. -/
theorem zero_mem (h : IsSelection window room hits selected) (hroom : 0 < room)
    (hhit : ∃ hit ∈ hits, hit.position = 0) : 0 ∈ selected := by
  obtain ⟨hit, hhit, hzero⟩ := hhit
  have hcovered : IsCovered window selected hit.position := by
    refine h.covered hit hhit ?_
    cases selected with
    | nil => exact Or.inl hroom
    | cons first rest => exact Or.inr ⟨first, List.mem_cons_self .., by omega⟩
  obtain ⟨centre, hcentre, hle, -⟩ := hcovered
  rwa [show centre = 0 by omega] at hcentre

theorem halfway_mem (h : IsSelection window room hits selected) (hroom : 2 ≤ room)
    (hzero : 0 ∈ selected) {hit : Hit} (hhit : hit ∈ hits)
    (hhalf : 2 * (hit.position : Int) = window) : hit.position ∈ selected := by
  have hcovered : IsCovered window selected hit.position := by
    refine h.covered hit hhit ?_
    by_cases hfull : selected.length < room
    · exact Or.inl hfull
    · -- There is a second position, and it lies half a window behind the start or more.
      have hmore : ¬ selected ⊆ [0] := by
        intro honly
        have := h.spaced.nodup.length_le_of_subset honly
        rw [List.length_singleton] at this
        omega
      obtain ⟨last, hlast, hne⟩ : ∃ last ∈ selected, last ≠ 0 := by
        simpa [List.subset_def] using hmore
      have hapart := h.spaced.apart hzero hlast (Nat.pos_of_ne_zero hne)
      exact Or.inr ⟨last, hlast, by omega⟩
  obtain ⟨centre, hcentre, hle, hnear⟩ := hcovered
  have hapart := h.spaced.apart hzero hcentre (by omega)
  rwa [show centre = hit.position by omega] at hcentre

theorem two_le_room (h : IsSelection window room hits selected) (hzero : 0 ∈ selected)
    (hposition : position ∈ selected) (hne : position ≠ 0) : 2 ≤ room := by
  have htwo : [0, position].length ≤ selected.length := by
    refine List.Nodup.length_le_of_subset (by simpa using hne.symm) fun other hother => ?_
    rcases List.mem_pair.mp hother with rfl | rfl
    · exact hzero
    · exact hposition
  exact Nat.le_trans htwo h.length_le

end IsSelection

theorem IsSpaced.eq_cons_cons {positions : List Nat} (h : IsSpaced window positions)
    (hwindow : 1 ≤ window) (hzero : 0 ∈ positions) (hposition : position ∈ positions)
    (hhalf : 2 * (position : Int) = window) : ∃ rest, positions = 0 :: position :: rest := by
  cases positions with
  | nil => cases hzero
  | cons first positions =>
    obtain ⟨hfirst, hrest⟩ := List.pairwise_cons.mp h
    have hstart : first = 0 := by
      rcases List.mem_cons.mp hzero with rfl | hbehind
      · rfl
      · exact absurd (hfirst 0 hbehind).1 (Nat.not_lt_zero first)
    subst hstart
    have hbehind : position ∈ positions := by
      rcases List.mem_cons.mp hposition with rfl | hbehind
      · omega
      · exact hbehind
    cases positions with
    | nil => cases hbehind
    | cons second rest =>
      rcases List.mem_cons.mp hbehind with rfl | hlater
      · exact ⟨rest, rfl⟩
      · -- The second position is half a window behind the first one or more: no room is left.
        have hlt := (List.pairwise_cons.mp hrest).1 position hlater
        have hapart := (hfirst second (List.mem_cons_self ..)).2
        omega

/-! ## The law -/

/-- The excerpts of a text are cut from windows whose starts increase, but for one case, in which
the first two windows are one and the same and the starts of the others increase: there is room for
two excerpts, a hit stands at the start of the text, and another one exactly half a window behind
it. -/
theorem windows_increase_iff {window : Int} (hwindow : 1 ≤ window) (maxSnippets : Int)
    (text : Text) (needles : List Text) :
    let hits := findOccurrences text needles
    let ranges := windows window maxSnippets text needles
    let doubled := 2 ≤ maxSnippets ∧ (∃ hit ∈ hits, hit.position = 0) ∧
      ∃ hit ∈ hits, 2 * (hit.position : Int) = window
    (∀ snippets, extract? window maxSnippets text needles = .ok snippets →
      snippets = ranges.map (clip text)) ∧
    (ranges.Pairwise (fun first second => first.start < second.start) ↔ ¬ doubled) ∧
    (ranges.Nodup ↔ ¬ doubled) ∧
    (doubled → ∃ first rest, ranges = first :: first :: rest) ∧
    ranges.Pairwise (fun first second => first.start ≤ second.start) ∧
    ranges.tail.Pairwise fun first second => first.start < second.start := by
  intro hits ranges doubled
  have hselection : IsSelection window maxSnippets.toNat hits (centres window maxSnippets hits) :=
    isSelection_centres hwindow (pairwise_findOccurrences text needles) maxSnippets
  have hincrease : ¬ doubled →
      ranges.Pairwise fun first second => first.start < second.start := by
    intro hsingle
    refine pairwise_start_lt hselection.spaced fun hzero position hposition hhalf => hsingle ?_
    obtain ⟨hit, hhit, rfl⟩ := hselection.exists_hit hposition
    have hroom := hselection.two_le_room hzero hposition (by omega)
    exact ⟨by omega, hselection.exists_hit hzero, hit, hhit, hhalf⟩
  have hnodup : ranges.Pairwise (fun first second => first.start < second.start) →
      ranges.Nodup :=
    fun hincreases => hincreases.imp fun hlt heq => Nat.ne_of_lt hlt (congrArg Window.start heq)
  have hdouble : doubled → ∃ first rest, ranges = first :: first :: rest := by
    rintro ⟨hroom, hstart, hit, hhit, hhalf⟩
    have hzero := hselection.zero_mem (by omega) hstart
    have hposition := hselection.halfway_mem (by omega) hzero hhit hhalf
    obtain ⟨rest, hrest⟩ := hselection.spaced.eq_cons_cons hwindow hzero hposition hhalf
    have hsame : windowAround window text.length hit.position =
        windowAround window text.length 0 := by
      rw [windowAround_eq_iff, start_windowAround, start_windowAround]
      omega
    refine ⟨windowAround window text.length 0, rest.map (windowAround window text.length), ?_⟩
    simp only [ranges, windows, hits] at hrest ⊢
    rw [hrest, List.map_cons, List.map_cons, hsame]
  have hsingle : ranges.Nodup → ¬ doubled := by
    intro honce htwice
    obtain ⟨first, rest, hrest⟩ := hdouble htwice
    rw [hrest] at honce
    exact (List.nodup_cons.mp honce).1 (List.mem_cons_self ..)
  refine ⟨fun snippets hsnippets => ?_, ⟨hsingle ∘ hnodup, hincrease⟩,
    ⟨hsingle, hnodup ∘ hincrease⟩, hdouble, pairwise_start_le hselection.spaced, ?_⟩
  · rw [extract?_eq] at hsnippets
    split at hsnippets
    · cases hsnippets
      exact extract_eq_map_windows window maxSnippets text needles
    · cases hsnippets
  · have htail : ranges.tail =
        (centres window maxSnippets hits).tail.map (windowAround window text.length) :=
      List.map_tail.symm
    rw [htail]
    exact pairwise_start_lt (List.Pairwise.tail hselection.spaced) fun hzero =>
      absurd hzero hselection.spaced.zero_not_mem_tail

/-- Three hits, the second one half a window behind the start of the text and the third one a whole
window. The first two windows are the same. -/
theorem windows_increase_iff_law :
    let text : Text := "law and law and law"
    let ranges := windows 16 6 text ["law"]
    (1 : Int) ≤ 16 ∧ ranges = [⟨0, 16⟩, ⟨0, 16⟩, ⟨8, 19⟩] ∧ ¬ ranges.Nodup ∧
      ranges.tail.Pairwise fun first second => first.start < second.start := by
  intro text ranges
  have hwindow : (1 : Int) ≤ 16 := by decide
  obtain ⟨-, -, honce, -, -, htail⟩ := windows_increase_iff hwindow 6 text ["law"]
  exact ⟨hwindow, by decide, by rw [honce]; decide, htail⟩

/-- A text with a hit at its start and one half a window behind it has the same excerpt twice, cut
from the same range. -/
theorem windows_law_twice :
    windows 16 6 "law and law" ["law"] = [⟨0, 11⟩, ⟨0, 11⟩] ∧
      extract? 16 6 "law and law" ["law"] =
        .ok ["law and law".toList, "law and law".toList] := by
  refine ⟨by decide, ?_⟩
  rw [extract?_eq, if_pos (by decide +kernel)]
  decide

end CorpusSearch.Snippet
