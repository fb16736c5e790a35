-- Which records of a search have excerpts: those in whose text a nonempty needle occurs. A record
-- that only the relaxed form of its query admits is one of them, unless the query has no needle or
-- an empty one.
import CorpusSearch.Proofs.Match.AnyOrder
import CorpusSearch.Proofs.Query.Fallback
import CorpusSearch.Proofs.Snippet.Hits

namespace CorpusSearch.Match

open Corpus

variable {plan : Plan} {fetch : Fetcher} {query : Query.Compiled} {document : Document}
  {record : Record}

theorem of_recordOf?_eq_some (h : plan.recordOf? fetch query document = some record) :
    record.url = document.url ∧ ∃ text, fetch document.url = .ok text ∧
      plan.excerpts text.normalize query.needles = .ok record.snippets ∧
      record.strict = query.strict text.normalize ∧ plan.Admits query text := by
  unfold Plan.recordOf? text? at h
  cases hfetch : fetch document.url with
  | error failure => simp [hfetch, Except.toOption] at h
  | ok text =>
    simp only [hfetch, Except.toOption, Option.bind_eq_bind, Option.bind_some] at h
    split at h
    · rename_i hadmits
      cases hexcerpts : plan.excerpts text.normalize query.needles with
      | error failure => simp [hexcerpts] at h
      | ok snippets =>
        simp only [hexcerpts, Option.bind_some, Option.some.injEq] at h
        subst h
        exact ⟨rfl, text, rfl, hexcerpts, rfl, hadmits⟩
    · cases h

/-- A text that only the relaxed form of a query admits holds a needle, if the query has any. -/
theorem exists_needle_of_not_strict {table : Query.Synonyms} {raw text : Text}
    (hadmits : plan.Admits (.build table raw) text)
    (hstrict : (Query.Compiled.build table raw).strict text.normalize = false)
    (hneedles : (Query.Compiled.build table raw).needles ≠ []) :
    ∃ needle ∈ (Query.Compiled.build table raw).needles, needle <:+: text.normalize := by
  rcases hadmits with htrue | ⟨-, hrelaxed⟩
  · rw [hstrict] at htrue
    cases htrue
  · have hholds := (Query.holds_anyOf_iff_needles
      fun _ => Query.isSome_text_of_mem_expand).mp hrelaxed
    exact hholds.resolve_left hneedles

/-- The plan with excerpts of a window and a count. -/
def Plan.withExcerpts (plan : Plan) (window maxSnippets : Int) : Plan :=
  { plan with excerpts := Snippet.extract? window maxSnippets }

/-- The excerpts of a record, where there is room for one: it has some exactly when a nonempty
needle occurs in the normal form of the text, whatever the window. -/
theorem snippets_ne_nil_iff {window maxSnippets : Int} (hmax : 1 ≤ maxSnippets) {text : Text}
    (h : (plan.withExcerpts window maxSnippets).excerpts text.normalize query.needles =
      .ok record.snippets) :
    record.snippets ≠ [] ↔ ∃ needle ∈ query.needles, needle ≠ [] ∧ needle <:+: text.normalize := by
  have hextract : Snippet.extract? window maxSnippets text.normalize query.needles =
      .ok record.snippets := h
  rw [Snippet.extract?_eq] at hextract
  split at hextract
  · rw [← Except.ok.inj hextract]
    exact Snippet.extract_ne_nil_iff hmax
  · cases hextract

/-- In whatever order the workers finish, each record of a search with room for an excerpt is about
a text that was fetched for it. It has excerpts exactly when a nonempty needle of the query occurs
in the normal form of this text; so if the query has needles and none of them is empty, every record
that is not strict has one, whatever the window. -/
theorem matchInOrder_excerpts (plan : Plan) (window : Int) {maxSnippets : Int}
    (hmax : 1 ≤ maxSnippets) (fetch : Fetcher) {order : Nat → List Nat}
    (horder : ∀ count, Finishes plan.maxWorkers count (order count)) (documents : List Document) :
    let search := fun query =>
      ((plan.withExcerpts window maxSnippets).matchInOrder fetch query order documents).value
    (∀ query, ∀ record ∈ (search query).1, ∃ text, fetch record.url = .ok text ∧
      (record.snippets ≠ [] ↔
        ∃ needle ∈ query.needles, needle ≠ [] ∧ needle <:+: text.normalize)) ∧
    ∀ table raw, let query := Query.Compiled.build table raw
      query.needles ≠ [] → (∀ needle ∈ query.needles, needle ≠ []) →
        ∀ record ∈ (search query).1, record.strict = false → record.snippets ≠ [] := by
  intro search
  have hrecord : ∀ query, ∀ record ∈ (search query).1, ∃ document,
      (plan.withExcerpts window maxSnippets).recordOf? fetch query document = some record := by
    intro query record hmem
    have hvalue : search query = _ :=
      value_matchInOrder (plan.withExcerpts window maxSnippets) fetch
      query (fun count => (horder count).perm) documents
    rw [hvalue, (collect_process _ fetch query _).1] at hmem
    obtain ⟨document, -, hdocument⟩ := List.mem_filterMap.mp hmem
    exact ⟨document, hdocument⟩
  constructor
  · intro query record hmem
    obtain ⟨document, hdocument⟩ := hrecord query record hmem
    obtain ⟨hurl, text, hfetch, hexcerpts, -, -⟩ := of_recordOf?_eq_some hdocument
    exact ⟨text, by rw [hurl, hfetch], snippets_ne_nil_iff hmax hexcerpts⟩
  · intro table raw query hneedles hnonempty record hmem hstrict
    obtain ⟨document, hdocument⟩ := hrecord query record hmem
    obtain ⟨-, text, -, hexcerpts, hverdict, hadmits⟩ := of_recordOf?_eq_some hdocument
    obtain ⟨needle, hneedle, hin⟩ :=
      exists_needle_of_not_strict hadmits (hverdict.symm.trans hstrict) hneedles
    exact (snippets_ne_nil_iff hmax hexcerpts).mpr ⟨needle, hneedle, hnonempty needle hneedle, hin⟩

/-- Two workers finish the second of two documents first. A query without a needle has two records
without excerpts, one of them not strict. A query with two needles has one record, which is not
strict, and it has an excerpt, although the window has no width. -/
theorem matchInOrder_excerpts_trusts :
    let order := fun count => if count = 2 then [1, 0] else List.range count
    let plan : Plan := { maxWorkers := 2 }
    let fetch : Fetcher := fun url => .ok (if url = ['u'] then "TRUSTEES" else "Court")
    let documents : List Document := [⟨.law, "Trusts", "u"⟩, ⟨.rule, "Courts", "v"⟩]
    let search := fun query =>
      ((plan.withExcerpts 0 1).matchInOrder fetch query order documents).value
    let bare := Query.Compiled.build [] "-trustees"
    let query := Query.Compiled.build [] "trustees equity"
    (1 : Int) ≤ 1 ∧ (∀ count, Finishes plan.maxWorkers count (order count)) ∧
      (search bare).1.map Record.strict = [false, true] ∧
      (∀ record ∈ (search bare).1, record.snippets = []) ∧
      query.needles = ["trustees".toList, "equity".toList] ∧
      (search query).1.map Record.strict = [false] ∧
      ∀ record ∈ (search query).1, record.strict = false → record.snippets ≠ [] := by
  intro order plan fetch documents search bare query
  have hmax : (1 : Int) ≤ 1 := Int.le_refl 1
  have horder : ∀ count, Finishes plan.maxWorkers count (order count) := finishes_overtaking
  obtain ⟨hexcerpts, hrelaxed⟩ := matchInOrder_excerpts plan 0 hmax fetch horder documents
  have hneedles : bare.needles = [] := by decide
  refine ⟨hmax, horder, by decide, ?_, by decide, by decide, ?_⟩
  · intro record hmem
    obtain ⟨text, -, hiff⟩ := hexcerpts bare record hmem
    rw [hneedles] at hiff
    by_contra hsome
    obtain ⟨needle, hneedle, -⟩ := hiff.mp hsome
    cases hneedle
  · exact hrelaxed [] "trustees equity" (by decide) (by decide)

end CorpusSearch.Match
