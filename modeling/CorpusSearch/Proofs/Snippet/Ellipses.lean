-- An ellipsis in an excerpt says that text is cut off there, and it says nothing else: the normal
-- form of a document has no ellipsis of its own. Between the ellipses an excerpt is one line that
-- is not longer than the window.
import CorpusSearch.Proofs.Snippet.Windows
import CorpusSearch.Proofs.Text.Decomposition
import CorpusSearch.Proofs.Text.Tidy
import CorpusSearch.Text.Decomposition

namespace CorpusSearch.Snippet

/-! ## Parts of a text -/

/-- The part of a text that lies in a window. -/
def inside (text : Text) (range : Window) : Text :=
  Text.slice range.start (Text.place text.length range.stop) text

/-- The part of a text that lies in a window, on one line. -/
def body (text : Text) (range : Window) : Text := (Text.collapse (inside text range)).strip

theorem clip_eq (text : Text) (range : Window) :
    clip text range =
      (if 0 < range.start then [ellipsis] else []) ++ body text range ++
        (if range.stop < text.length then [ellipsis] else []) :=
  rfl

theorem mem_of_mem_inside {text : Text} {range : Window} {c : Char} (h : c ∈ inside text range) :
    c ∈ text :=
  List.mem_of_mem_take (List.mem_of_mem_drop h)

/-- A window with a width ends at the end of the text or as far behind its start as it is wide. -/
theorem place_windowAround {window : Int} (hwindow : 1 ≤ window) (length position : Nat) :
    let range := windowAround window length position
    Text.place length range.stop = min length (range.start + window.toNat) := by
  intro range
  have hstop : range.stop = min (length : Int) (range.start + window) := rfl
  unfold Text.place
  rw [if_neg (by omega)]
  omega

theorem length_inside_le {window : Int} (hwindow : 1 ≤ window) (text : Text) (position : Nat) :
    ((inside text (windowAround window text.length position)).length : Int) ≤ window := by
  have hplace := place_windowAround hwindow text.length position
  unfold inside Text.slice
  rw [hplace, List.length_drop, List.length_take]
  omega

/-! ## Ellipses -/

/-- A text in normal form has no ellipsis: it decomposes to three full stops. -/
theorem ellipsis_not_mem_normalize (text : Text) : ellipsis ∉ text.normalize := by
  intro hmem
  have hself : Text.decomposeChar ellipsis = [ellipsis] := Text.decomposeChar_of_mem_decompose hmem
  exact absurd hself (by decide +kernel)

theorem ellipsis_not_mem_body {text : Text} (h : ellipsis ∉ text) (range : Window) :
    ellipsis ∉ body text range := by
  intro hmem
  rcases Text.mem_of_mem_strip_collapse hmem with hspace | hinside
  · exact absurd hspace (by decide)
  · exact h (mem_of_mem_inside hinside)

/-- In the excerpts of a text without ellipses each one marks a side where text is cut off. -/
theorem count_ellipsis_clip {text : Text} (h : ellipsis ∉ text) (range : Window) :
    (clip text range).count ellipsis =
      (if 0 < range.start then 1 else 0) + if range.stop < text.length then 1 else 0 := by
  have hbody : (body text range).count ellipsis = 0 :=
    List.count_eq_zero.mpr (ellipsis_not_mem_body h range)
  rw [clip_eq, List.count_append, List.count_append, hbody, Nat.add_zero]
  congr 1
  · split <;> rfl
  · split <;> rfl

/-! ## The law -/

/-- Each excerpt of the normal form of a document is one line of no more characters than the window,
whose blanks are single spaces between other characters, with an ellipsis in front where the window
starts behind the start of the text, and one behind where it stops before the end. There are no
other ellipses in it. -/
theorem extract_marks_cuts {window : Int} (hwindow : 1 ≤ window) (maxSnippets : Int)
    (document : Text) (needles : List Text) :
    let text := document.normalize
    let ranges := windows window maxSnippets text needles
    extract? window maxSnippets text needles =
      (if window < 2 * Double.past then .ok (ranges.map (clip text))
        else .error windowTooLarge) ∧
    ∀ range ∈ ranges, ∃ line : Text,
      clip text range =
        (if 0 < range.start then [ellipsis] else []) ++ line ++
          (if range.stop < text.length then [ellipsis] else []) ∧
      (line.length : Int) ≤ window ∧ line.IsTidy ∧
      (clip text range).count ellipsis =
        (if 0 < range.start then 1 else 0) + if range.stop < text.length then 1 else 0 := by
  intro text ranges
  refine ⟨extract?_eq_windows hwindow maxSnippets text needles, fun range hrange => ?_⟩
  obtain ⟨position, -, rfl⟩ := List.mem_map.mp hrange
  refine ⟨body text (windowAround window text.length position), clip_eq _ _, ?_,
    Text.isTidy_strip_collapse _, count_ellipsis_clip (ellipsis_not_mem_normalize document) _⟩
  have hbody :=
    Text.length_strip_collapse_le (inside text (windowAround window text.length position))
  have hinside := length_inside_le hwindow text position
  exact (Int.ofNat_le.mpr hbody).trans hinside

/-- A document with an ellipsis, a line break and blanks in a row: the ellipsis of the document is
written out, and the one in the excerpt says that the text goes on. -/
theorem extract_marks_cuts_law :
    let text := Text.normalize "\tLAW … \n and  order"
    let ranges := windows 16 6 text ["law"]
    (1 : Int) ≤ 16 ∧ ranges = [⟨0, 16⟩] ∧
      extract? 16 6 text ["law"] = .ok ["law ... and…".toList] ∧
      ∀ range ∈ ranges, (clip text range).count ellipsis = 1 := by
  intro text ranges
  have hwindow : (1 : Int) ≤ 16 := by decide
  obtain ⟨hextract, hform⟩ := extract_marks_cuts hwindow 6 "\tLAW … \n and  order" ["law"]
  have hranges : ranges = [⟨0, 16⟩] := by decide +kernel
  refine ⟨hwindow, hranges, ?_, fun range hrange => ?_⟩
  · rw [hextract, if_pos (by decide +kernel)]
    decide +kernel
  · obtain ⟨line, -, -, -, hcount⟩ := hform range hrange
    rw [hcount]
    rw [hranges, List.mem_singleton] at hrange
    rw [hrange]
    decide +kernel

end CorpusSearch.Snippet
