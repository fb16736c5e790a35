-- Which results a file can hold. Results without halves of surrogate pairs are those of plain
-- texts, and their file has the text of their data; a half in any text of any result refuses all of
-- them.
import CorpusSearch.Proofs.Text.Raw
import CorpusSearch.Report.Json

namespace CorpusSearch

open Corpus

/-! ## Other texts -/

namespace Corpus.Result

variable {τ σ ρ : Type} {result : Result τ}

theorem map_map (g : σ → ρ) (f : τ → σ) (result : Result τ) :
    (result.map f).map g = result.map (g ∘ f) := by
  have hrecords : ∀ records : List (Record τ),
      (records.map (Record.map f)).map (Record.map g) = records.map (Record.map (g ∘ f)) := by
    intro records
    rw [List.map_map]
    refine List.map_congr_left fun record _ => ?_
    simp only [Function.comp_apply, Record.map, List.map_map]
  simp only [Result.map, hrecords, List.map_map, Function.comp_apply]

/-- What leaves each text of a result as it is leaves the result as it is. -/
theorem map_eq_self {f : τ → τ} (h : ∀ text ∈ Report.resultTexts result, f text = text) :
    result.map f = result := by
  have hlist : ∀ {texts : List τ}, (∀ text ∈ texts, f text = text) → texts.map f = texts :=
    fun hsame => (List.map_congr_left hsame).trans (List.map_id _)
  have hgroup : ∀ kind, (result.group kind).map (Record.map f) = result.group kind := by
    intro kind
    refine (List.map_congr_left fun record hrecord => ?_).trans (List.map_id _)
    have hrecord : ∀ text ∈ Report.recordTexts record, f text = text := by
      intro text htext
      refine h text (List.mem_append_right _ (List.mem_flatMap.mpr ⟨kind, ?_, ?_⟩))
      · cases kind <;> decide
      · exact List.mem_flatMap.mpr ⟨record, hrecord, htext⟩
    obtain ⟨htitle, hurl, hsnippets⟩ : f record.title = record.title ∧ f record.url = record.url ∧
        ∀ text ∈ record.snippets, f text = text := by
      simpa only [Report.recordTexts, List.forall_mem_cons] using hrecord
    simp only [Record.map, htitle, hurl, hlist hsnippets, id]
  have htextbooks := hgroup .textbook
  have hlaws := hgroup .law
  have hrules := hgroup .rule
  simp only [Result.group] at htextbooks hlaws hrules
  have hquery : f result.query = result.query := h _ (List.mem_cons_self ..)
  have hneedles : result.needles.map f = result.needles :=
    hlist fun text htext => h text (List.mem_cons_of_mem _ (List.mem_append_left _ htext))
  simp only [Result.map, htextbooks, hlaws, hrules, hquery, hneedles]

theorem map_raw {f : RawText → Text} (hf : ∀ text : Text, f text.raw = text) (result : Result) :
    result.raw.map f = result := by
  rw [Result.raw, map_map]
  exact map_eq_self fun text _ => hf text

theorem raw_injective : Function.Injective Result.raw := by
  intro result other hsame
  have hfilled := congrArg (Result.map (RawText.filled ' ')) hsame
  rwa [map_raw (RawText.filled_raw ' '), map_raw (RawText.filled_raw ' ')] at hfilled

end Corpus.Result

namespace Report

variable {results : List (Result RawText)}

/-! ## Halves -/

/-- Some text of the result has a half. -/
def HasHalf (result : Result RawText) : Prop := ∃ text ∈ resultTexts result, text.HasHalf

/-- Results without halves are those of plain texts. -/
theorem exists_raw_of_not_hasHalf (h : ∀ result ∈ results, ¬ HasHalf result) :
    ∃ wholes : List Result, results = wholes.map Result.raw := by
  refine ⟨results.map (Result.map (RawText.filled ' ')), ?_⟩
  rw [List.map_map]
  refine ((List.map_congr_left fun result hresult => ?_).trans (List.map_id _)).symm
  rw [Function.comp_apply, Result.raw, Result.map_map]
  refine Result.map_eq_self fun text htext => ?_
  rcases text.encode_cases with ⟨plain, rfl⟩ | ⟨hhalf, -⟩
  · rw [Function.comp_apply, RawText.filled_raw]
  · exact absurd ⟨text, htext, hhalf⟩ (h result hresult)

theorem resultTexts_map {τ σ : Type} (f : τ → σ) (result : Result τ) :
    resultTexts (result.map f) = (resultTexts result).map f := by
  have hgroup : ∀ kind, ((result.map f).group kind).flatMap recordTexts =
      ((result.group kind).flatMap recordTexts).map f := by
    intro kind
    have hmap : (result.map f).group kind = (result.group kind).map (Record.map f) := by
      cases kind <;> rfl
    rw [hmap, List.flatMap_map, List.map_flatMap]
    rfl
  simp only [resultTexts, hgroup, List.map_append, List.map_cons, List.map_flatMap]
  rfl

theorem not_hasHalf_raw (result : Result) : ¬ HasHalf result.raw := by
  rintro ⟨text, htext, hhalf⟩
  rw [Result.raw, resultTexts_map] at htext
  obtain ⟨plain, -, rfl⟩ := List.mem_map.mp htext
  exact RawText.not_hasHalf_raw plain hhalf

/-- A file can be encoded when no text of its results has a half. -/
theorem fileFault?_eq_none_iff :
    fileFault? results = none ↔ ∀ result ∈ results, ¬ HasHalf result := by
  unfold fileFault?
  rw [List.findSome?_eq_none_iff]
  refine ⟨fun h result hresult hhalf => ?_, fun h text htext => ?_⟩
  · obtain ⟨text, htext, hhalf⟩ := hhalf
    have hnone := h text (List.mem_flatMap.mpr ⟨result, hresult, htext⟩)
    rcases text.encode_cases with ⟨plain, rfl⟩ | ⟨-, fault, hfault⟩
    · exact RawText.not_hasHalf_raw plain hhalf
    · rw [hfault] at hnone
      cases hnone
  · obtain ⟨result, hresult, htext⟩ := List.mem_flatMap.mp htext
    rcases text.encode_cases with ⟨plain, rfl⟩ | ⟨hhalf, -⟩
    · rw [RawText.encode_raw]
    · exact absurd ⟨text, htext, hhalf⟩ (h result hresult)

/-! ## The text of a file -/

theorem fileContent_of_hasHalf (h : ∃ result ∈ results, HasHalf result) :
    ∃ fault, fileContent results = .error fault := by
  unfold fileContent
  cases hfault : fileFault? results with
  | some fault => exact ⟨fault, rfl⟩
  | none =>
    obtain ⟨result, hresult, hhalf⟩ := h
    exact absurd hhalf (fileFault?_eq_none_iff.mp hfault result hresult)

theorem fileContent_raw (wholes : List Result) :
    fileContent (wholes.map Result.raw) = .ok (Json.indented (payload (wholes.map data))) := by
  have hnone : fileFault? (wholes.map Result.raw) = none := by
    rw [fileFault?_eq_none_iff]
    intro result hresult
    obtain ⟨whole, -, rfl⟩ := List.mem_map.mp hresult
    exact not_hasHalf_raw whole
  unfold fileContent fileText
  rw [hnone, List.map_map]
  dsimp only
  congr 3
  refine List.map_congr_left fun result _ => ?_
  rw [Function.comp_apply, Result.map_raw (RawText.filled_raw ' ')]

end Report

end CorpusSearch
