-- What the fallback to the relaxed form of a query adds to a search. Without it the search has the
-- strict records of the search with it, in the same order and with the same content, and reads the
-- same texts.
import CorpusSearch.Proofs.Match.AnyOrder

namespace CorpusSearch.Match

open Corpus

variable {plan : Plan} {query : Query.Compiled}

def Plan.withFallback (plan : Plan) (relaxedFallback : Bool) : Plan := { plan with relaxedFallback }

theorem admits_withFallback {text : Text} (hstrict : query.strict text.normalize = true)
    (relaxedFallback : Bool) : (plan.withFallback relaxedFallback).Admits query text :=
  Or.inl hstrict

theorem not_admits_without_fallback {text : Text} (hstrict : query.strict text.normalize = false) :
    ¬ (plan.withFallback false).Admits query text := by
  rintro (h | ⟨h, -⟩)
  · rw [hstrict] at h
    cases h
  · cases h

/-- Without the fallback a document keeps its record if that is strict, and has none otherwise. -/
theorem recordOf?_without_fallback (plan : Plan) (fetch : Fetcher) (query : Query.Compiled)
    (document : Document) :
    (plan.withFallback false).recordOf? fetch query document =
      ((plan.withFallback true).recordOf? fetch query document).filter Record.strict := by
  unfold Plan.recordOf?
  cases text? fetch document with
  | none => rfl
  | some text =>
    have hexcerpts : (plan.withFallback false).excerpts = (plan.withFallback true).excerpts := rfl
    simp only [Option.bind_eq_bind, Option.bind_some, hexcerpts]
    cases hstrict : query.strict text.normalize with
    | true =>
      rw [if_pos (admits_withFallback hstrict false), if_pos (admits_withFallback hstrict true)]
      cases ((plan.withFallback true).excerpts text.normalize query.needles).toOption <;> rfl
    | false =>
      rw [if_neg (not_admits_without_fallback hstrict)]
      split
      · cases ((plan.withFallback true).excerpts text.normalize query.needles).toOption <;> rfl
      · rfl

/-- In whatever orders the workers of the two searches finish, the search without the fallback has
the strict records of the search with it, and it counts the same documents and bytes. -/
theorem matchInOrder_without_fallback (plan : Plan) (fetch : Fetcher) (query : Query.Compiled)
    {order order' : Nat → List Nat}
    (horder : ∀ count, Finishes plan.maxWorkers count (order count))
    (horder' : ∀ count, Finishes plan.maxWorkers count (order' count))
    (documents : List Document) :
    let narrow := ((plan.withFallback false).matchInOrder fetch query order documents).value
    let wide := ((plan.withFallback true).matchInOrder fetch query order' documents).value
    narrow.1 = wide.1.filter Record.strict ∧
      narrow.2.documents = wide.2.documents ∧ narrow.2.bytes = wide.2.bytes := by
  intro narrow wide
  have hnarrow : narrow = _ :=
    value_matchInOrder (plan.withFallback false) fetch query (fun count => (horder count).perm)
      documents
  have hwide : wide = _ :=
    value_matchInOrder (plan.withFallback true) fetch query (fun count => (horder' count).perm)
      documents
  have hcap : (plan.withFallback false).maxDocuments = (plan.withFallback true).maxDocuments := rfl
  rw [hnarrow, hwide, hcap]
  generalize withinCap (plan.withFallback true).maxDocuments documents = candidates
  obtain ⟨hnarrowRecords, hnarrowDocuments, hnarrowBytes, -⟩ :=
    collect_process (plan.withFallback false) fetch query candidates
  obtain ⟨hwideRecords, hwideDocuments, hwideBytes, -⟩ :=
    collect_process (plan.withFallback true) fetch query candidates
  refine ⟨?_, hnarrowDocuments.trans hwideDocuments.symm, hnarrowBytes.trans hwideBytes.symm⟩
  rw [hnarrowRecords, hwideRecords, List.filter_filterMap]
  exact List.filterMap_congr fun document _ => recordOf?_without_fallback plan fetch query document

/-- Two workers finish the second of two documents first when the search falls back. The first one
meets the relaxed form of the query alone. -/
theorem matchInOrder_without_fallback_trusts :
    let order := fun count => if count = 2 then [1, 0] else List.range count
    let plan : Plan := { maxWorkers := 2 }
    let fetch : Fetcher := fun url =>
      .ok (if url = ['u'] then "TRUSTEES É" else "Trustees in court")
    let query := Query.Compiled.build [] "trustees court"
    let documents : List Document := [⟨.law, "Trusts", "u"⟩, ⟨.rule, "Courts", "v"⟩]
    let narrow := ((plan.withFallback false).matchInOrder fetch query List.range documents).value
    let wide := ((plan.withFallback true).matchInOrder fetch query order documents).value
    (∀ count, Finishes plan.maxWorkers count (order count)) ∧
      wide.1.map Record.strict = [false, true] ∧ narrow.1 = wide.1.filter Record.strict ∧
      narrow.1.map Record.title = ["Courts".toList] ∧ narrow.2.documents = wide.2.documents ∧
      narrow.2.bytes = wide.2.bytes := by
  intro order plan fetch query documents narrow wide
  have horder : ∀ count, Finishes plan.maxWorkers count (order count) := finishes_overtaking
  obtain ⟨hrecords, hdocuments, hbytes⟩ :=
    matchInOrder_without_fallback plan fetch query (finishes_range 2) horder documents
  exact ⟨horder, by decide, hrecords, by decide, hdocuments, hbytes⟩

end CorpusSearch.Match
