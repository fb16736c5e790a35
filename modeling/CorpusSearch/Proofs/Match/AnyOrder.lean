-- What the full-text search gives does not depend on its workers. Whatever their count, and in
-- whatever order they finish, the records and the sums are those that the candidates within the cap
-- have by themselves, and each of these is fetched once; so two lists of documents can be searched
-- one after the other.
import CorpusSearch.Proofs.Match.Outcomes
import Mathlib.Algebra.GroupWithZero.Nat

namespace CorpusSearch.Match

open Corpus
open scoped List

/-! ## One document -/

/-- The text of a document, if it can be fetched. -/
def text? (fetch : Fetcher) (document : Document) : Option Text := (fetch document.url).toOption

/-- Whether a plan shows a document with this text: the query holds of its normal form, or where the
plan falls back the relaxed form of the query does. -/
def Plan.Admits (plan : Plan) (query : Query.Compiled) (text : Text) : Prop :=
  query.strict text.normalize = true ∨
    (plan.relaxedFallback = true ∧ query.relaxed text.normalize = true)

instance instDecidableAdmits (plan : Plan) (query : Query.Compiled) (text : Text) :
    Decidable (plan.Admits query text) :=
  inferInstanceAs (Decidable (_ ∨ _))

/-- The record that a document has by itself: its text can be fetched, the plan admits the text, and
excerpts can be taken. -/
def Plan.recordOf? (plan : Plan) (fetch : Fetcher) (query : Query.Compiled) (document : Document) :
    Option Record := do
  let text ← text? fetch document
  if plan.Admits query text then
    let snippets ← (plan.excerpts text.normalize query.needles).toOption
    some { document with
      hash := contentHash text, size := (text.utf8.length : Int), snippets,
      strict := query.strict text.normalize }
  else none

variable {plan : Plan} {fetch : Fetcher} {query : Query.Compiled}

theorem admits_iff {text : Text} :
    (query.strict text.normalize || (plan.relaxedFallback && query.relaxed text.normalize)) = true ↔
      plan.Admits query text := by
  simp [Plan.Admits]

theorem record?_process (document : Document) :
    (plan.process fetch query document).value.record? = plan.recordOf? fetch query document := by
  rw [value_process]
  unfold Plan.recordOf? text?
  cases fetch document.url with
  | error failure => rfl
  | ok text =>
    simp only [Except.toOption, Option.bind_eq_bind, Option.bind_some]
    rw [value_evaluate, Text.length_utf8]
    by_cases h : plan.Admits query text
    · rw [if_pos (admits_iff.mpr h), if_pos h]
      cases plan.excerpts text.normalize query.needles <;> rfl
    · rw [if_neg fun hadmits => h (admits_iff.mp hadmits), if_neg h]
      rfl

theorem size?_process (document : Document) :
    (plan.process fetch query document).value.size? =
      (text? fetch document).map fun text => text.utf8.length := by
  rw [value_process]
  unfold text?
  cases fetch document.url with
  | error failure => rfl
  | ok text =>
    dsimp only [Except.toOption]
    rw [Option.map_some, Text.length_utf8]
    cases (plan.evaluate query document text).value <;> rfl

theorem requests_evaluate (document : Document) (text : Text) :
    (plan.evaluate query document text).requests = [] := by
  unfold Plan.evaluate
  dsimp only
  split
  · rfl
  · split <;> rfl

theorem requests_process (document : Document) :
    (plan.process fetch query document).requests = [document.url] := by
  unfold Plan.process
  rw [Traced.requests_bind, Traced.requests_request]
  cases fetch document.url with
  | error failure => rfl
  | ok text =>
    simp only [Traced.requests_bind, requests_evaluate]
    cases (plan.evaluate query document text).value <;> rfl

/-! ## All documents -/

theorem requests_scan (plan : Plan) (fetch : Fetcher) (query : Query.Compiled)
    (candidates : List Document) {schedule : List Nat}
    (h : schedule.Perm (List.range candidates.length)) :
    (plan.scan fetch query candidates schedule).requests.Perm (candidates.map Document.url) := by
  unfold Plan.scan
  rw [Traced.requests_bind, Traced.requests_filterMapM, Traced.requests_pure, List.append_nil]
  calc _ = schedule.flatMap fun number => (candidates[number]?.map Document.url).toList :=
        List.flatMap_congr fun number _ => by
          cases candidates[number]? with
          | none => rfl
          | some document => simp [requests_process]
    _ = (schedule.filterMap fun number => candidates[number]?).map Document.url := by
        rw [← List.filterMap_eq_flatMap_toList, List.map_filterMap]
    _ ~ candidates.map Document.url := (scheduled_perm h).map Document.url

theorem requests_matchInOrder (plan : Plan) (fetch : Fetcher) (query : Query.Compiled)
    {order : Nat → List Nat} (h : ∀ count, (order count).Perm (List.range count))
    (documents : List Document) :
    (plan.matchInOrder fetch query order documents).requests.Perm
      ((withinCap plan.maxDocuments documents).map Document.url) := by
  have hscan := requests_scan plan fetch query (withinCap plan.maxDocuments documents) (h _)
  unfold Plan.matchInOrder
  dsimp only
  split <;> simpa using hscan

theorem collect_process (plan : Plan) (fetch : Fetcher) (query : Query.Compiled)
    (candidates : List Document) :
    let found := collect (candidates.map fun document => (plan.process fetch query document).value)
    let texts := candidates.filterMap (text? fetch)
    found.1 = candidates.filterMap (plan.recordOf? fetch query) ∧
      found.2.documents = texts.length ∧
      found.2.bytes = (texts.map fun text => text.utf8.length).sum ∧
      found.2.hits = found.1.length := by
  intro found texts
  have hsizes : (candidates.map fun document =>
      (plan.process fetch query document).value).filterMap Outcome.size? =
        texts.map fun text => text.utf8.length := by
    rw [List.filterMap_map, List.map_filterMap]
    exact List.filterMap_congr fun document _ => size?_process document
  refine ⟨?_, ?_, ?_, rfl⟩
  · rw [records_collect]
    exact List.filterMap_congr fun document _ => record?_process document
  · simp only [found, collect, hsizes, List.length_map]
  · simp only [found, collect, hsizes]
    rfl

/-- Whatever the count of workers, and in whatever order they finish, the full-text search has the
records of the candidates within the cap in the order of the candidates; it counts those whose text
could be fetched, and their bytes, and it asks for each candidate once and for nothing else. Where
the cap leaves out no document, the search of two lists is the two searches together. -/
theorem matchInOrder_of_finishes (plan : Plan) (fetch : Fetcher) (query : Query.Compiled)
    {order : Nat → List Nat} (horder : ∀ count, Finishes plan.maxWorkers count (order count))
    (documents : List Document) :
    let candidates := withinCap plan.maxDocuments documents
    let texts := candidates.filterMap (text? fetch)
    let search := fun documents => plan.matchInOrder fetch query order documents
    let records := fun documents => (search documents).value.1
    let stats := fun documents => (search documents).value.2
    (records documents = candidates.filterMap (plan.recordOf? fetch query) ∧
      (stats documents).documents = texts.length ∧
      (stats documents).bytes = (texts.map fun text => text.utf8.length).sum ∧
      (stats documents).hits = (records documents).length) ∧
      (search documents).requests.Perm (candidates.map Document.url) ∧
      (∀ workers order', (∀ count, Finishes workers count (order' count)) →
        ({ plan with maxWorkers := workers }.matchInOrder fetch query order' documents).value =
          (records documents, stats documents)) ∧
      ∀ before behind, documents = before ++ behind → candidates = documents →
        records documents = records before ++ records behind ∧
          stats documents = stats before + stats behind := by
  intro candidates texts search records stats
  have hperm : ∀ count, (order count).Perm (List.range count) := fun count => (horder count).perm
  have hvalue : ∀ documents, (search documents).value =
      collect ((withinCap plan.maxDocuments documents).map fun document =>
        (plan.process fetch query document).value) :=
    value_matchInOrder plan fetch query hperm
  refine ⟨?_, requests_matchInOrder plan fetch query hperm documents, ?_, ?_⟩
  · simp only [records, stats, hvalue]
    exact collect_process plan fetch query candidates
  · intro workers order' hfinishes
    calc _ = collect ((withinCap plan.maxDocuments documents).map fun document =>
          (plan.process fetch query document).value) :=
          value_matchInOrder { plan with maxWorkers := workers } fetch query
            (fun count => (hfinishes count).perm) documents
      _ = (search documents).value := (hvalue documents).symm
  · rintro before behind rfl hcap
    obtain ⟨hbefore, hbehind⟩ := withinCap_of_append hcap
    have hsum : (search (before ++ behind)).value =
        (records before ++ records behind, stats before + stats behind) := by
      simp only [records, stats, hvalue, hbefore, hbehind]
      rw [← collect_append, ← List.map_append]
      exact congrArg (fun candidates : List Document => collect (candidates.map _)) hcap
    exact Prod.mk.inj hsum

/-- Two workers finish the second of two documents first. It is out of reach; the first one meets
the relaxed form of the query alone. -/
theorem matchInOrder_overtaking :
    let order := fun count => if count = 2 then [1, 0] else List.range count
    let plan : Plan := { maxDocuments := 2, maxWorkers := 2 }
    let fetch : Fetcher := fun url => if url = ['u'] then .ok "TRUSTEES É" else .error "gone"
    let query := Query.Compiled.build [] "trustees court"
    let documents : List Document := [⟨.law, "Trusts", "u"⟩, ⟨.rule, "Courts", "v"⟩]
    let search := fun documents => plan.matchInOrder fetch query order documents
    (∀ count, Finishes plan.maxWorkers count (order count)) ∧
      (search documents).value.1 = documents.filterMap (plan.recordOf? fetch query) ∧
      (search documents).value.1.map Record.strict = [false] ∧
      (search documents).value.2 = { documents := 1, bytes := 11, hits := 1 } ∧
      (search documents).requests.Perm [['u'], ['v']] ∧
      (plan.matchInOrder fetch query List.range documents).value = (search documents).value ∧
      (search documents).value.2 =
        (search [⟨.law, "Trusts", "u"⟩]).value.2 + (search [⟨.rule, "Courts", "v"⟩]).value.2 := by
  intro order plan fetch query documents search
  have horder : ∀ count, Finishes plan.maxWorkers count (order count) := finishes_overtaking
  obtain ⟨⟨hrecords, _⟩, hrequests, hsame, hsum⟩ :=
    matchInOrder_of_finishes plan fetch query horder documents
  exact ⟨horder, hrecords, by decide, by decide, hrequests,
    hsame 2 List.range (finishes_range 2), (hsum [_] [_] rfl rfl).2⟩

end CorpusSearch.Match
