-- Needles in excerpts. A needle with no blanks but single spaces between other characters, and no
-- longer than what a window has behind its centre, stands in the excerpt of each of its hits that
-- is taken, wherever the hit lies in the text. There is then a mark in the excerpt, with one
-- exception: needles that are never found, which are not in normal form.
import CorpusSearch.Proofs.Snippet.Ellipses
import CorpusSearch.Proofs.Snippet.Hits
import CorpusSearch.Proofs.Snippet.Marked
import CorpusSearch.Proofs.Text.Settled

namespace CorpusSearch.Snippet

variable {window : Int} {text part needle : Text} {needles : List Text} {position : Nat}

/-! ## Needles in windows -/

/-- What stands at a position of a text is part of a slice that reaches over it. -/
theorem infix_slice {start stop : Nat} (h : part <+: text.drop position) (hstart : start ≤ position)
    (hstop : position + part.length ≤ stop) : part <:+: Text.slice start stop text := by
  have hposition : part <+: (text.take stop).drop position := by
    rw [List.drop_take]
    exact List.prefix_take_iff.mpr ⟨h, by omega⟩
  have hslice : (text.take stop).drop position <:+ (text.take stop).drop start :=
    List.drop_suffix_drop_left _ hstart
  exact hposition.isInfix.trans hslice.isInfix

/-- The window around a position reaches over what stands there, up to the larger half of its
width. -/
theorem infix_inside (hwindow : 1 ≤ window) (h : needle <+: text.drop position) (hne : needle ≠ [])
    (hlength : (needle.length : Int) ≤ window - Int.fdiv window 2) :
    needle <:+: inside text (windowAround window text.length position) := by
  have hhalf : Int.fdiv window 2 = window / 2 := Int.fdiv_eq_ediv_of_nonneg _ (by decide)
  have hstart : (windowAround window text.length position).start =
      ((position : Int) - Int.fdiv window 2).toNat := rfl
  have hplace := place_windowAround hwindow text.length position
  have hpos : 0 < needle.length := List.length_pos_iff.mpr hne
  have hfits := h.length_le
  rw [List.length_drop] at hfits
  refine infix_slice h (by omega) ?_
  rw [hplace]
  omega

/-- A tidy needle is not changed where the window is brought on one line. -/
theorem infix_clip {range : Window} (htidy : needle.IsTidy) (h : needle <:+: inside text range) :
    needle <:+: clip text range := by
  rw [clip_eq]
  exact (htidy.infix_strip_collapse h).trans (List.infix_append ..)

/-! ## Needles that are never found -/

/-- A needle in normal form can be found, whatever the other needles are. -/
theorem not_isMissed_normalize (needles : List Text) (text : Text) :
    ¬ IsMissed needles text.normalize := by
  rintro ⟨-, hends⟩
  unfold endsWithFarCapital at hends
  split at hends
  · rename_i c hlast
    rw [Bool.and_eq_true, decide_eq_true_iff, decide_eq_true_iff] at hends
    exact hends.2 (Text.lowerChar_of_far (List.mem_of_getLast? hlast) hends.1)
  · cases hends

/-! ## The law -/

/-- A tidy needle that is no longer than the larger half of the window stands in the excerpt of each
of its hits that is taken. A match is marked there, unless the needle is one that is never found,
and then exactly when another needle stands in the excerpt that can be found. Needles in normal form
can be found. -/
theorem extract_shows_needles (hwindow : 1 ≤ window) (maxSnippets : Int) (text : Text)
    (needles : List Text) :
    let hits := findOccurrences text needles
    let taken := centres window maxSnippets hits
    let excerpt := fun position => clip text (windowAround window text.length position)
    extract? window maxSnippets text needles =
      (if window < 2 * Double.past then .ok (taken.map excerpt) else .error windowTooLarge) ∧
    (∀ hit ∈ hits, hit.position ∈ taken → hit.needle.IsTidy →
      (hit.needle.length : Int) ≤ window - Int.fdiv window 2 →
      hit.needle <:+: excerpt hit.position ∧
      (¬ IsMissed needles hit.needle →
        IsMarked openMark closeMark needles (excerpt hit.position)) ∧
      (IsMissed needles hit.needle →
        (IsMarked openMark closeMark needles (excerpt hit.position) ↔
          ∃ needle ∈ findable needles, OccursUpToCase needle (excerpt hit.position)))) ∧
    ∀ raw : Text, ¬ IsMissed needles raw.normalize := by
  intro hits taken excerpt
  have hmarks : openMark ++ closeMark ≠ [] := by decide
  refine ⟨?_, fun hit hhit _ htidy hlength => ?_, not_isMissed_normalize needles⟩
  · rw [extract?_eq_windows hwindow]
    simp only [windows, List.map_map]
    rfl
  · obtain ⟨hneedle, hne, hstands⟩ := of_mem_findOccurrences hhit
    have hshown : hit.needle <:+: excerpt hit.position :=
      infix_clip htidy (infix_inside hwindow hstands hne hlength)
    refine ⟨hshown, fun hfound => (isMarked_iff hmarks).mpr ?_, fun _ => isMarked_iff hmarks⟩
    exact ⟨hit.needle, mem_findable.mpr ⟨hneedle, hne, hfound⟩, .of_isInfix hshown⟩

/-- The second of two hits has a window that starts inside the first one. Its needle is as long as
half of the window. -/
theorem extract_shows_needles_law :
    let text : Text := "law\n\nof  the land and sea"
    let needles : List Text := ["law", "the land"]
    let hit : Hit := ⟨9, "the land"⟩
    let hits := findOccurrences text needles
    (1 : Int) ≤ 16 ∧ hit ∈ hits ∧ hit.position ∈ centres 16 6 hits ∧ hit.needle.IsTidy ∧
      (hit.needle.length : Int) ≤ 16 - Int.fdiv 16 2 ∧
      extract? 16 6 text needles =
        .ok ["law of the lan…".toList, "…aw of the land…".toList] ∧
      hit.needle <:+: "…aw of the land…".toList ∧
      IsMarked openMark closeMark needles "…aw of the land…".toList := by
  intro text needles hit hits
  have hwindow : (1 : Int) ≤ 16 := by decide
  have hhit : hit ∈ hits := by decide
  have htaken : hit.position ∈ centres 16 6 hits := by decide
  have htidy : hit.needle.IsTidy := by decide
  have hlength : (hit.needle.length : Int) ≤ 16 - Int.fdiv 16 2 := by decide
  have hexcerpt : clip text (windowAround 16 text.length hit.position) =
      "…aw of the land…".toList := by decide +kernel
  obtain ⟨hextract, hshows, -⟩ := extract_shows_needles hwindow 6 text needles
  obtain ⟨hshown, hmarked, -⟩ := hshows hit hhit htaken htidy hlength
  simp only [hexcerpt] at hshown hmarked
  refine ⟨hwindow, hhit, htaken, htidy, hlength, ?_, hshown, hmarked (by decide)⟩
  rw [hextract, if_pos (by decide +kernel)]
  decide +kernel

/-- The capital U+10400 beside another needle of one character: it has an excerpt, in which nothing
is marked. -/
theorem extract_leaves_far_capital :
    let text : Text := [Char.ofNat 0x10400]
    let needles : List Text := [text, "b"]
    let hit : Hit := ⟨0, text⟩
    let hits := findOccurrences text needles
    hit ∈ hits ∧ hit.position ∈ centres 2 6 hits ∧ hit.needle.IsTidy ∧
      (hit.needle.length : Int) ≤ 2 - Int.fdiv 2 2 ∧ extract? 2 6 text needles = .ok [text] ∧
      highlight openMark closeMark needles text = text ∧
      ¬ IsMarked openMark closeMark needles text := by
  intro text needles hit hits
  have hfindable : findable needles = ["b".toList] := by decide +kernel
  refine ⟨by decide, by decide, by decide, by decide, ?_, ?_, ?_⟩
  · rw [extract?_eq, if_pos (by decide +kernel)]
    decide +kernel
  · decide +kernel
  · rw [isMarked_iff (by decide), hfindable]
    decide +kernel

end CorpusSearch.Snippet
