-- The words of a text. A character that cuts divides the words before it from the words behind it,
-- and a text without such a character is at most one word; the rest follows from these two.
import CorpusSearch.Text.Blank

namespace CorpusSearch.Text

variable {cut : Char → Bool}

/-- No character of a text cuts it. -/
def Uncut (cut : Char → Bool) (text : Text) : Prop := ∀ c ∈ text, cut c = false

instance instDecidableUncut (text : Text) : Decidable (Uncut cut text) :=
  decidable_of_iff (text.all (fun c => !cut c) = true)
    (by simp only [List.all_eq_true, Bool.not_eq_true', Uncut])

theorem Uncut.nil : Uncut cut [] := fun _ hc => by cases hc

theorem Uncut.append_singleton {text : Text} {c : Char} (h : Uncut cut text)
    (hc : cut c = false) : Uncut cut (text ++ [c]) := by
  intro d hd
  rcases List.mem_append.mp hd with hin | hlast
  · exact h d hin
  · rw [List.mem_singleton.mp hlast]
    exact hc

/-- Every text is a word, or a word, a character that cuts, and a text again. -/
theorem words_induction (cut : Char → Bool) {motive : Text → Prop}
    (word : ∀ w, Uncut cut w → motive w)
    (more : ∀ w c rest, Uncut cut w → cut c = true → motive rest → motive (w ++ c :: rest))
    (text : Text) : motive text := by
  suffices ∀ w, Uncut cut w → motive (w ++ text) from this [] Uncut.nil
  induction text with
  | nil =>
    intro w hw
    rw [List.append_nil]
    exact word w hw
  | cons c rest ih =>
    intro w hw
    cases hc : cut c with
    | true => exact more w c rest hw hc (ih [] Uncut.nil)
    | false =>
      have := ih (w ++ [c]) (hw.append_singleton hc)
      rwa [List.append_assoc, List.singleton_append] at this

/-! ## Pieces -/

theorem splitAt_ne_nil (cut : Char → Bool) (text : Text) : splitAt cut text ≠ [] := by
  cases text with
  | nil => simp [splitAt]
  | cons c rest =>
    unfold splitAt
    split
    · simp
    · split <;> simp

theorem splitAt_append_cut {c : Char} (hc : cut c = true) (before behind : Text) :
    splitAt cut (before ++ c :: behind) = splitAt cut before ++ splitAt cut behind := by
  induction before with
  | nil => simp [splitAt, hc]
  | cons d before ih =>
    rw [List.cons_append, splitAt, splitAt, ih]
    split
    · rfl
    · obtain ⟨piece, pieces, hpieces⟩ := List.exists_cons_of_ne_nil (splitAt_ne_nil cut before)
      rw [hpieces]
      rfl

theorem splitAt_of_uncut {text : Text} (h : Uncut cut text) : splitAt cut text = [text] := by
  induction text with
  | nil => rfl
  | cons c rest ih =>
    have hc : cut c = false := h c (List.mem_cons_self ..)
    have hrest : splitAt cut rest = [rest] := ih fun d hd => h d (List.mem_cons_of_mem _ hd)
    simp [splitAt, hc, hrest]

/-! ## Words -/

theorem wordsBy_append_cut {c : Char} (hc : cut c = true) (before behind : Text) :
    wordsBy cut (before ++ c :: behind) = wordsBy cut before ++ wordsBy cut behind := by
  rw [wordsBy, splitAt_append_cut hc, List.filter_append]
  rfl

theorem wordsBy_of_uncut {text : Text} (h : Uncut cut text) (hne : text ≠ []) :
    wordsBy cut text = [text] := by
  rw [wordsBy, splitAt_of_uncut h]
  simp [hne]

/-- A word is nonempty, no character cuts it, and it stands in the text between two ends or
characters that cut. -/
theorem excerpt_of_mem_wordsBy {text word : Text} (h : word ∈ wordsBy cut text) :
    word ≠ [] ∧ Uncut cut word ∧ ∃ before behind, text = before ++ word ++ behind ∧
      (∀ c, before.getLast? = some c → cut c = true) ∧
      ∀ c, behind.head? = some c → cut c = true := by
  induction text using words_induction cut with
  | word w hw =>
    cases w with
    | nil => cases h
    | cons c rest =>
      rw [wordsBy_of_uncut hw (by simp), List.mem_singleton] at h
      subst h
      exact ⟨by simp, hw, [], [], by simp, by simp, by simp⟩
  | more w c rest hw hc ih =>
    rw [wordsBy_append_cut hc, List.mem_append] at h
    rcases h with hfirst | hrest
    · cases w with
      | nil => cases hfirst
      | cons d w =>
        rw [wordsBy_of_uncut hw (by simp), List.mem_singleton] at hfirst
        subst hfirst
        exact ⟨by simp, hw, [], c :: rest, by simp, by simp, by simpa using hc⟩
    · obtain ⟨hne, hword, before, behind, htext, hbefore, hbehind⟩ := ih hrest
      refine ⟨hne, hword, w ++ c :: before, behind, by simp [htext], ?_, hbehind⟩
      intro d hd
      cases before with
      | nil =>
        have : c = d := by simpa using hd
        exact this ▸ hc
      | cons e before => exact hbefore d (by simpa using hd)

theorem exists_mem_wordsBy {text : Text} {c : Char} (hc : c ∈ text) (hcut : cut c = false) :
    ∃ word ∈ wordsBy cut text, c ∈ word := by
  induction text using words_induction cut with
  | word w hw =>
    rw [wordsBy_of_uncut hw (List.ne_nil_of_mem hc)]
    exact ⟨w, List.mem_singleton.mpr rfl, hc⟩
  | more w d rest hw hd ih =>
    rw [wordsBy_append_cut hd]
    rcases List.mem_append.mp hc with hfirst | hrest
    · refine ⟨w, List.mem_append_left _ ?_, hfirst⟩
      rw [wordsBy_of_uncut hw (List.ne_nil_of_mem hfirst)]
      exact List.mem_singleton.mpr rfl
    · have hne : c ≠ d := by
        rintro rfl
        rw [hd] at hcut
        cases hcut
      obtain ⟨word, hword, hin⟩ := ih ((List.mem_cons.mp hrest).resolve_left hne)
      exact ⟨word, List.mem_append_right _ hword, hin⟩

theorem wordsBy_map_of_uncut {f : Char → Char} {cut' : Char → Bool} {text : Text}
    (h : Uncut cut text) (hf : ∀ c ∈ text, cut' (f c) = cut c) :
    wordsBy cut' (text.map f) = (wordsBy cut text).map (List.map f) := by
  cases text with
  | nil => rfl
  | cons c rest =>
    have hmap : Uncut cut' ((c :: rest).map f) := by
      intro d hd
      obtain ⟨e, he, rfl⟩ := List.mem_map.mp hd
      rw [hf e he, h e he]
    rw [wordsBy_of_uncut h (by simp), wordsBy_of_uncut hmap (by simp)]
    rfl

theorem wordsBy_map {f : Char → Char} {cut' : Char → Bool} {text : Text}
    (hf : ∀ c ∈ text, cut' (f c) = cut c) :
    wordsBy cut' (text.map f) = (wordsBy cut text).map (List.map f) := by
  induction text using words_induction cut with
  | word w hw => exact wordsBy_map_of_uncut hw hf
  | more w c rest hw hc ih =>
    have hc' : cut' (f c) = true := by rw [hf c (by simp), hc]
    have hfirst := wordsBy_map_of_uncut hw fun d hd => hf d (List.mem_append_left _ hd)
    have hrest := ih fun d hd => hf d (by simp [hd])
    rw [List.map_append, List.map_cons, wordsBy_append_cut hc', wordsBy_append_cut hc,
      List.map_append, hfirst, hrest]

end CorpusSearch.Text
