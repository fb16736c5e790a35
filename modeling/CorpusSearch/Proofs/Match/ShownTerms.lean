-- What the excerpts of the simple search show. Positions are found in the lower-case text, and at
-- these positions the text itself is cut. An excerpt shows the part that was tested where no letter
-- in front of it becomes longer in lower case; then it holds each term, but for sigmas that the cut
-- gives another form.
import CorpusSearch.Proofs.Match.Plain
import CorpusSearch.Proofs.Text.Between
import CorpusSearch.Proofs.Text.Occurrences

namespace CorpusSearch.Match

open Text

variable {text lowered part term excerpt : Text} {terms : List Text}

/-! ## Excerpts around positions -/

theorem exists_of_mem_excerptsFrom {offset count : Nat} {positions : List Nat}
    (hordered : positions.Pairwise (· ≤ ·))
    (hoffset : ∀ position ∈ positions, offset ≤ position - charactersBefore)
    (h : excerpt ∈ excerptsFrom terms offset (text.drop offset) (lowered.drop offset) count
      positions) :
    ∃ position ∈ positions,
      excerpt? terms (slice (position - charactersBefore) (position + charactersAfter) text)
        (slice (position - charactersBefore) (position + charactersAfter) lowered) =
          some excerpt := by
  induction positions generalizing offset count with
  | nil => cases count <;> cases h
  | cons position positions ih =>
    cases count with
    | zero => cases h
    | succ count =>
      obtain ⟨hbehind, hordered⟩ := List.pairwise_cons.mp hordered
      have hstart : offset + (position - charactersBefore - offset) =
          position - charactersBefore := by
        have := hoffset position (List.mem_cons_self ..)
        omega
      have hnext : ∀ other ∈ positions, position - charactersBefore ≤ other - charactersBefore :=
        fun other hother => Nat.sub_le_sub_right (hbehind other hother) _
      have hslice : ∀ text : Text,
          (text.drop (position - charactersBefore)).take
              (position + charactersAfter - (position - charactersBefore)) =
            slice (position - charactersBefore) (position + charactersAfter) text :=
        fun text => List.drop_take.symm
      rw [excerptsFrom] at h
      simp only [List.drop_drop, hstart, hslice] at h
      split at h
      · rename_i found hfound
        rcases List.mem_cons.mp h with rfl | hrest
        · exact ⟨position, List.mem_cons_self .., hfound⟩
        · obtain ⟨other, hother, hexcerpt⟩ := ih hordered hnext hrest
          exact ⟨other, List.mem_cons_of_mem _ hother, hexcerpt⟩
      · obtain ⟨other, hother, hexcerpt⟩ := ih hordered hnext h
        exact ⟨other, List.mem_cons_of_mem _ hother, hexcerpt⟩

theorem of_excerpt?_eq_some (h : excerpt? terms part lowered = some excerpt) :
    excerpt = '…' :: (collapse part).strip ++ ['…'] ∧ ∀ term ∈ terms, term <:+: lowered := by
  unfold excerpt? at h
  split at h
  · rename_i hall
    rw [List.all_eq_true] at hall
    exact ⟨(Option.some.inj h).symm, fun term hterm => (occursIn_iff ..).mp (hall term hterm)⟩
  · cases h

/-- An excerpt shows a slice of the text, and the same slice of the lower-case text holds every
term. -/
theorem exists_of_mem_simpleSnippets {maxSnippets : Int}
    (h : excerpt ∈ simpleSnippets maxSnippets text terms) :
    ∃ anchor ∈ terms.head?, ∃ position ∈ occurrences anchor text.lower,
      let start := position - charactersBefore
      let stop := min text.length (position + charactersAfter)
      excerpt = '…' :: (collapse (slice start stop text)).strip ++ ['…'] ∧
        ∀ term ∈ terms, term <:+: slice start stop text.lower := by
  unfold simpleSnippets at h
  split at h
  · cases h
  · cases h
  · rename_i anchor rest hanchor
    obtain ⟨position, hposition, hexcerpt⟩ := exists_of_mem_excerptsFrom
      (pairwise_occurrences ..) (fun _ _ => Nat.zero_le _) (by simpa using h)
    obtain ⟨hshown, htested⟩ := of_excerpt?_eq_some hexcerpt
    have hstop : ∀ start, slice start (position + charactersAfter) text =
        slice start (min text.length (position + charactersAfter)) text := by
      intro start
      unfold slice
      rw [Nat.min_comm, ← List.take_take, List.take_length]
    have hlowered : ∀ start, slice start (position + charactersAfter)
        (text.lower.take text.length) =
          slice start (min text.length (position + charactersAfter)) text.lower := by
      intro start
      unfold slice
      rw [List.take_take, Nat.min_comm]
    rw [hstop] at hshown
    rw [hlowered] at htested
    exact ⟨anchor, rfl, position, hposition, hshown, htested⟩

/-! ## Terms in excerpts -/

theorem isNeutral_ellipsis : IsNeutral '…' :=
  ⟨by decide +kernel, by decide +kernel, by decide +kernel⟩

theorem lower_excerpt (text : Text) :
    lower ('…' :: text ++ ['…']) = '…' :: text.lower ++ ['…'] := by
  calc lower ('…' :: text ++ ['…']) = lower ('…' :: text) ++ ['…'] :=
        lower_append_neutral ('…' :: text) [] isNeutral_ellipsis
    _ = '…' :: text.lower ++ ['…'] := by
        rw [lower, lowerFrom_neutral false isNeutral_ellipsis, lower]

/-- What stands without a blank in the lower-case form of a part stands in that of the excerpt which
shows the part. -/
theorem infix_lower_excerpt (hterm : Uncut isBlank term) (h : term <:+: part.lower) :
    term <:+: lower ('…' :: (collapse part).strip ++ ['…']) := by
  have hline := hterm.isTidy.infix_strip_collapse h
  rw [← lower_strip_collapse] at hline
  rw [lower_excerpt]
  exact hline.trans (List.infix_append' ['…'] _ ['…'])

theorem infix_map_oneSigma_excerpt (hterm : Uncut isBlank term)
    (h : term.map oneSigma <:+: part.lower.map oneSigma) :
    ∃ other, other.map oneSigma = term.map oneSigma ∧
      other <:+: lower ('…' :: (collapse part).strip ++ ['…']) := by
  obtain ⟨other, hother, hsame⟩ := List.infix_map_iff.mp h
  refine ⟨other, hsame.symm, infix_lower_excerpt (fun c hc => ?_) hother⟩
  have hmem : oneSigma c ∈ term.map oneSigma := hsame ▸ List.mem_map_of_mem hc
  obtain ⟨d, hd, heq⟩ := List.mem_map.mp hmem
  rw [← isBlank_oneSigma, ← heq, isBlank_oneSigma]
  exact hterm d hd

theorem of_mem_splitTerms {query : Text} (h : term ∈ splitTerms query) :
    term ≠ [] ∧ Uncut isBlank term := by
  obtain ⟨hne, huncut, -⟩ := excerpt_of_mem_wordsBy (splitTerms_eq query ▸ h)
  exact ⟨hne, fun c hc => (Bool.or_eq_false_iff.mp (huncut c hc)).2⟩

/-! ## The law -/

/-- An excerpt shows a slice of the text, and what is tested is the same slice of the lower-case
text: each term stands there. If no capital I with a dot stands in front of the slice, then each
term stands in the lower-case form of the excerpt too, up to the form of its small sigmas; and in
its own form, if it has none or if the capital sigmas of the slice have the same forms in the slice
as in the text. -/
theorem simpleSnippets_show_terms {maxSnippets : Int} {text query excerpt : Text}
    (h : excerpt ∈ simpleSnippets maxSnippets text (splitTerms query)) :
    ∃ anchor ∈ (splitTerms query).head?, ∃ position ∈ occurrences anchor text.lower,
      let start := position - charactersBefore
      let stop := min text.length (position + charactersAfter)
      let part := slice start stop text
      excerpt = '…' :: (collapse part).strip ++ ['…'] ∧
      (∀ term ∈ splitTerms query, term <:+: slice start stop text.lower) ∧
      ('İ' ∉ text.take start → ∀ term ∈ splitTerms query,
        term.map oneSigma <:+: excerpt.lower.map oneSigma ∧
        ('σ' ∉ term ∧ 'ς' ∉ term ∨ KeepsSigmas (text.take start) part (text.drop stop) →
          term <:+: excerpt.lower)) := by
  obtain ⟨anchor, hanchor, position, hposition, hshown, htested⟩ := exists_of_mem_simpleSnippets h
  refine ⟨anchor, hanchor, position, hposition, hshown, htested, fun hdot term hterm => ?_⟩
  have hstop : min text.length (position + charactersAfter) ≤ text.length := Nat.min_le_left ..
  generalize position - charactersBefore = start at hdot hshown htested ⊢
  generalize min text.length (position + charactersAfter) = stop at hstop hshown htested ⊢
  obtain ⟨hne, hblank⟩ := of_mem_splitTerms hterm
  have hin := htested term hterm
  have hstart : start ≤ stop := by
    have hpos := List.length_pos_iff.mpr hne
    have hle := hin.length_le
    rw [slice, List.length_drop, List.length_take] at hle
    omega
  have hbetween := hin.trans (slice_lower_isPrefix hstart hstop hdot).isInfix
  have hsigmas := hbetween.map oneSigma
  rw [map_oneSigma_lowerBetween _ false] at hsigmas
  obtain ⟨other, hother, hexcerpt⟩ := infix_map_oneSigma_excerpt hblank hsigmas
  rw [← hshown] at hexcerpt
  refine ⟨hother ▸ hexcerpt.map oneSigma, ?_⟩
  rintro (⟨hmedial, hfinal⟩ | hkeeps)
  · rwa [eq_of_map_oneSigma hother hmedial hfinal] at hexcerpt
  · rw [hkeeps.lowerBetween_eq] at hbetween
    rw [hshown]
    exact infix_lower_excerpt hblank hbetween

/-- The window starts with the text. A letter in it becomes two in lower case, so the last letter of
the text is shown and not tested. -/
theorem simpleSnippets_show_terms_nomos :
    let text : Text := "Νόμος  İ LAW of the land"
    let query : Text := "law+νόμος"
    let excerpt : Text := "…Νόμος İ LAW of the land…"
    splitTerms query = ["law".toList, "νόμος".toList] ∧
      excerpt ∈ simpleSnippets 3 text (splitTerms query) ∧ 'İ' ∈ text ∧
      ∀ term ∈ splitTerms query, term <:+: excerpt.lower := by
  intro text query excerpt
  have hmem : excerpt ∈ simpleSnippets 3 text (splitTerms query) := by decide +kernel
  refine ⟨by decide +kernel, hmem, by decide, fun term hterm => ?_⟩
  obtain ⟨anchor, hanchor, position, hposition, -, -, hshows⟩ := simpleSnippets_show_terms hmem
  have hfirst : (splitTerms query).head? = some "law".toList := by decide +kernel
  have honly : occurrences "law" text.lower = [10] := by decide +kernel
  rw [hfirst] at hanchor
  cases hanchor
  rw [honly, List.mem_singleton] at hposition
  subst hposition
  have hkeeps := KeepsSigmas.of_not_mem
    (show 'Σ' ∉ slice 0 (min text.length 310) text by decide +kernel)
    [] (text.drop (min text.length 310))
  exact (hshows (by decide +kernel) term hterm).2 (Or.inr hkeeps)

/-- A capital I with a dot in front of the window becomes two letters in lower case. The excerpt
then starts one letter late and has lost the second term. A window may end between a capital sigma
and the letter behind it. The excerpt then ends with a final sigma in lower case, which the second
term has not. -/
theorem simpleSnippets_show_other_part :
    let shifted : Text := "İdeed" ++ (List.replicate 136 ' ' ++ "law.")
    let divided : Text := "law" ++ (List.replicate 295 ' ' ++ "ΑΣΑ")
    splitTerms "law deed" = ["law".toList, "deed".toList] ∧
      simpleSnippets 3 shifted (splitTerms "law deed") = ["…eed law.…".toList] ∧
      ¬ "deed".toList <:+: Text.lower "…eed law.…" ∧
      splitTerms "law ασ" = ["law".toList, "ασ".toList] ∧
      simpleSnippets 3 divided (splitTerms "law ασ") = ["…law ΑΣ…".toList] ∧
      ¬ "ασ".toList <:+: Text.lower "…law ΑΣ…" := by
  decide +kernel

end CorpusSearch.Match
