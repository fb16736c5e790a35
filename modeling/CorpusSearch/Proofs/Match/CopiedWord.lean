-- Which words of a text the simple search finds in it. The terms of a query are lowered and no
-- more, while the text is also decomposed and loses its punctuation; so a word that is copied out
-- of a text is found exactly when decomposition and blanking leave its lower-case form as it is.
import CorpusSearch.Proofs.Match.Outcomes
import CorpusSearch.Proofs.Match.Plain

namespace CorpusSearch.Match

open Corpus

/-- The simple search has a record of a document exactly when every term occurs in its plain
text. -/
theorem exists_record_simpleMatch_iff {cap : Int} {fetch : Fetcher} {query : Text}
    {documents : List Document} {document : Document} {text : Text}
    (hterms : splitTerms query ≠ []) (hdocument : document ∈ withinCap cap documents)
    (hfetch : fetch document.url = .ok text) :
    (∃ record ∈ (simpleMatch cap fetch query documents).value.1, documentOf record = document) ↔
      ∀ term ∈ splitTerms query, term.occursIn (plainText text) = true := by
  rw [value_simpleMatch hterms, collect]
  have hall : (splitTerms query).all (fun term => term.occursIn (plainText text)) = true ↔
      ∀ term ∈ splitTerms query, term.occursIn (plainText text) = true := List.all_eq_true
  rw [← hall]
  constructor
  · rintro ⟨record, hrecord, rfl⟩
    obtain ⟨outcome, houtcome, hsome⟩ := List.mem_filterMap.mp hrecord
    obtain ⟨other, _, rfl⟩ := List.mem_map.mp houtcome
    rw [value_simpleProcess] at hsome
    split at hsome
    · cases hsome
    · rename_i otherText hother
      -- The record names its document, so it was made of the text of that document.
      have hsame : documentOf record = other := documentOf_simpleRecord? hsome
      rw [hsame, hother] at hfetch
      cases hfetch
      unfold Outcome.record? simpleRecord? at hsome
      dsimp only at hsome
      split at hsome
      · assumption
      · cases hsome
  · intro hoccurs
    let record : Record := { document with
      hash := contentHash text, size := (text.byteSize : Int),
      snippets := simpleSnippets maxSimpleSnippets text (splitTerms query) }
    have hprocess : (simpleProcess fetch (splitTerms query) document).value =
        .scanned text.byteSize (some record) := by
      rw [value_simpleProcess, hfetch]
      simp only [simpleRecord?, hoccurs, if_true, record]
    refine ⟨record, List.mem_filterMap.mpr ⟨_, List.mem_map_of_mem hdocument, ?_⟩, rfl⟩
    rw [hprocess]
    rfl

/-- A word without plus signs that stands between blanks or ends of a text finds the text exactly
when its plain form is its lower-case form, and that is when each letter of the lower-case form
is a word character or a hyphen and decomposes to itself. -/
theorem simpleMatch_finds_word_iff {cap : Int} {fetch : Fetcher} {documents : List Document}
    {document : Document} {text word : Text} (hdocument : document ∈ withinCap cap documents)
    (hfetch : fetch document.url = .ok text)
    (hword : word ∈ Text.wordsBy Text.isBlank text) (hplus : '+' ∉ word) :
    ((∃ record ∈ (simpleMatch cap fetch word documents).value.1,
        documentOf record = document) ↔ plainText word = word.lower) ∧
      (plainText word = word.lower ↔
        ∀ c ∈ word.lower, (Text.isWord c = true ∨ c = '-') ∧ Text.decomposeChar c = [c]) := by
  obtain ⟨hne, huncut, _⟩ := Text.excerpt_of_mem_wordsBy hword
  have hseparator := uncut_separator huncut hplus
  have hterms := splitTerms_word hne hseparator
  constructor
  · rw [exists_record_simpleMatch_iff (by simp [hterms]) hdocument hfetch, hterms,
      List.forall_mem_singleton]
    exact lower_occursIn_plainText_iff hword hplus
  · exact plainText_eq_lower_iff (Text.uncut_lower hseparator)

/-- A ligature, a hyphen and a digit are found; the text around them has accents and quotes. -/
theorem simpleMatch_finds_oeuvre :
    (⟨.law, "Œuvres", "u"⟩ : Document) ∈ withinCap 1 [⟨.law, "Œuvres", "u"⟩] ∧
      "Œuvre-1".toList ∈ Text.wordsBy Text.isBlank "L’été Œuvre-1 À" ∧
      '+' ∉ "Œuvre-1".toList ∧
      ∃ record ∈ (simpleMatch 1 (fun _ => .ok "L’été Œuvre-1 À") "Œuvre-1"
          [⟨.law, "Œuvres", "u"⟩]).value.1,
        documentOf record = ⟨.law, "Œuvres", "u"⟩ := by
  have hdocument : (⟨.law, "Œuvres", "u"⟩ : Document) ∈ withinCap 1 [⟨.law, "Œuvres", "u"⟩] := by
    decide
  have hword : "Œuvre-1".toList ∈ Text.wordsBy Text.isBlank "L’été Œuvre-1 À" := by
    decide +kernel
  have hplus : '+' ∉ "Œuvre-1".toList := by decide
  have hplain : plainText "Œuvre-1" = Text.lower "Œuvre-1" := by decide +kernel
  have hfinds := @simpleMatch_finds_word_iff 1 (fun _ => .ok "L’été Œuvre-1 À") _ _ _ _
    hdocument rfl hword hplus
  exact ⟨hdocument, hword, hplus, hfinds.1.mpr hplain⟩

/-- An accent is enough for a word not to find the text that it stands in. -/
theorem simpleMatch_misses_cafe :
    (⟨.law, "Menu", "u"⟩ : Document) ∈ withinCap 1 [⟨.law, "Menu", "u"⟩] ∧
      "café".toList ∈ Text.wordsBy Text.isBlank "Le café" ∧ '+' ∉ "café".toList ∧
      (simpleMatch 1 (fun _ => .ok "Le café") "café" [⟨.law, "Menu", "u"⟩]).value.1 = [] := by
  refine ⟨by decide, by decide +kernel, by decide, ?_⟩
  rfl

end CorpusSearch.Match
