-- The results of the two searches: both collect one outcome for each candidate within the cap, in
-- the order of the candidates. For the full-text search this holds in whatever order the workers
-- finish.
import CorpusSearch.Match.Simple
import CorpusSearch.Proofs.Corpus.Document
import CorpusSearch.Proofs.Log.Traced
import CorpusSearch.Proofs.Match.Workers
import CorpusSearch.Proofs.Text.Raw
import Mathlib.Data.List.Basic

namespace CorpusSearch.Match

open Corpus

/-! ## Collecting -/

/-- The document that a record is about. -/
def documentOf (record : Record) : Document := ⟨record.kind, record.title, record.url⟩

theorem total_append (sizes others : List Nat) :
    total (sizes ++ others) = total sizes + total others := by
  unfold total
  induction sizes with
  | nil => simp
  | cons size sizes ih => simp [ih, Nat.add_assoc]

/-- The outcomes of two parts have the records of both and their work together. -/
theorem collect_append (outcomes others : List Outcome) :
    collect (outcomes ++ others) =
      ((collect outcomes).1 ++ (collect others).1, (collect outcomes).2 + (collect others).2) := by
  unfold collect
  rw [List.filterMap_append, List.filterMap_append, Prod.mk.injEq]
  refine ⟨rfl, Stats.eq_of ?_ ?_ ?_⟩
  · simp
  · simp [total_append]
  · simp

theorem records_collect (outcome : Document → Outcome) (documents : List Document) :
    (collect (documents.map outcome)).1 =
      documents.filterMap fun document => (outcome document).record? :=
  List.filterMap_map

/-- The outcome of a document: it could not be fetched, or its text was read and evaluated. -/
theorem value_process (plan : Plan) (fetch : Fetcher) (query : Query.Compiled)
    (document : Document) : (plan.process fetch query document).value =
      match fetch document.url with
      | .error _ => .unavailable
      | .ok text => match (plan.evaluate query document text).value with
        | .error _ => .scanned text.byteSize none
        | .ok record => .scanned text.byteSize record := by
  unfold Plan.process
  cases hfetch : fetch document.url with
  | error failure => rfl
  | ok text =>
    simp only [Traced.value_bind]
    cases (plan.evaluate query document text).value <;> rfl

theorem value_evaluate (plan : Plan) (query : Query.Compiled) (document : Document)
    (text : Text) : (plan.evaluate query document text).value =
      if query.strict text.normalize || (plan.relaxedFallback && query.relaxed text.normalize) then
        (plan.excerpts text.normalize query.needles).map fun snippets =>
          some { document with
            hash := contentHash text, size := (text.byteSize : Int), snippets,
            strict := query.strict text.normalize }
      else .ok none := by
  unfold Plan.evaluate
  dsimp only
  generalize query.strict text.normalize = strict
  generalize (plan.relaxedFallback && query.relaxed text.normalize) = relaxed
  cases strict <;> cases relaxed <;> rfl

/-- The outcomes stand in the order of the candidates, whatever order they arrive in. -/
theorem value_scan (plan : Plan) (fetch : Fetcher) (query : Query.Compiled)
    (candidates : List Document) {schedule : List Nat}
    (h : schedule.Perm (List.range candidates.length)) :
    (plan.scan fetch query candidates schedule).value =
      candidates.map fun document => (plan.process fetch query document).value := by
  unfold Plan.scan
  rw [Traced.value_bind, Traced.value_filterMapM, Traced.value_pure, ← inSlots_map _ h]
  congr 2
  funext number
  cases candidates[number]? <;> rfl

/-- The full-text search collects the outcomes of the candidates within the cap. -/
theorem value_matchInOrder (plan : Plan) (fetch : Fetcher) (query : Query.Compiled)
    {order : Nat → List Nat} (h : ∀ count, (order count).Perm (List.range count))
    (documents : List Document) :
    (plan.matchInOrder fetch query order documents).value =
      collect ((withinCap plan.maxDocuments documents).map fun document =>
        (plan.process fetch query document).value) := by
  rw [← value_scan plan fetch query _ (h _)]
  unfold Plan.matchInOrder
  dsimp only
  split <;> rfl

/-! ## The simple search -/

theorem value_simpleProcess (fetch : Fetcher) (terms : List Text) (document : Document) :
    (simpleProcess fetch terms document).value =
      match fetch document.url with
      | .error _ => .unavailable
      | .ok text => .scanned text.byteSize (simpleRecord? terms document text) := by
  unfold simpleProcess
  cases fetch document.url <;> rfl

theorem documentOf_simpleRecord? {terms : List Text} {document : Document} {text : Text}
    {record : Record} (h : simpleRecord? terms document text = some record) :
    documentOf record = document := by
  unfold simpleRecord? at h
  dsimp only at h
  split at h
  · cases h
    rfl
  · cases h

/-- The simple search collects the outcomes of the candidates within the cap, when the query has
any term. -/
theorem value_simpleMatch {cap : Int} {query : Text} (h : splitTerms query ≠ [])
    (fetch : Fetcher) (documents : List Document) :
    (simpleMatch cap fetch query documents).value =
      collect ((withinCap cap documents).map fun document =>
        (simpleProcess fetch (splitTerms query) document).value) := by
  unfold simpleMatch
  simp only [List.isEmpty_iff, h, if_false, Traced.value_bind, Traced.value_mapM,
    Traced.value_pure]

/-! ## The simple search of raw texts -/

theorem RawFetcher.fault?_ne_none_iff {fetch : RawFetcher} {url : Text} :
    fetch.fault? url ≠ none ↔ ∃ text, fetch url = .ok text ∧ text.HasHalf := by
  unfold fault?
  cases fetch url with
  | error failure => exact ⟨fun h => absurd rfl h, nofun⟩
  | ok text =>
    dsimp only
    rcases RawText.encode_cases text with ⟨plain, rfl⟩ | ⟨hhalf, fault, hfault⟩
    · rw [RawText.encode_raw]
      refine ⟨fun h => absurd rfl h, ?_⟩
      rintro ⟨_, heq, h⟩
      cases heq
      exact absurd h (RawText.not_hasHalf_raw plain)
    · rw [hfault]
      exact ⟨fun _ => ⟨text, rfl, hhalf⟩, fun _ => nofun⟩

theorem value_simpleScan (fetch : RawFetcher) (terms : List Text) (documents : List Document) :
    (simpleScan fetch terms documents).value =
      match documents.findSome? fun document => fetch.fault? document.url with
      | some fault => .error fault
      | none => .ok (documents.map fun document =>
          (simpleProcess fetch.encoded terms document).value) := by
  induction documents with
  | nil => rfl
  | cons document documents ih =>
    rw [simpleScan, List.findSome?_cons]
    cases fetch.fault? document.url with
    | some fault => rfl
    | none =>
      simp only [Traced.value_bind, Traced.value_pure, ih]
      cases documents.findSome? fun document => fetch.fault? document.url <;> rfl

/-- The simple search ends at the first text within the cap that cannot be encoded. Without such a
text it is the search of the texts that can be encoded, which are all. -/
theorem value_simpleMatchRaw {cap : Int} {query : Text} (h : splitTerms query ≠ [])
    (fetch : RawFetcher) (documents : List Document) :
    (simpleMatchRaw cap fetch query documents).value =
      match (withinCap cap documents).findSome? fun document => fetch.fault? document.url with
      | some fault => .error fault
      | none => .ok (simpleMatch cap fetch.encoded query documents).value := by
  rw [value_simpleMatch h]
  unfold simpleMatchRaw
  simp only [List.isEmpty_iff, h, if_false, Traced.value_bind, Traced.value_pure, value_simpleScan]
  cases (withinCap cap documents).findSome? fun document => fetch.fault? document.url <;> rfl

end CorpusSearch.Match
