-- The two searches agree on queries of simple words. The one reads tokens into an expression and
-- tests normal forms, the other cuts the query into terms and tests plain texts; they find the same
-- documents, with the same work, and only their excerpts differ. They fall apart where one of them
-- fails: the full-text search loses all records when half its window is too large, and the simple
-- search ends at a text that cannot be encoded.
import CorpusSearch.Proofs.Match.Outcomes
import CorpusSearch.Proofs.Match.Plain
import CorpusSearch.Proofs.Query.Conjunction
import CorpusSearch.Proofs.Snippet.Centres

namespace CorpusSearch.Match

open Corpus Query

/-! ## Terms of simple words -/

theorem isSimpleChar_toLower {c : Char} (h : isSimpleChar c = true) :
    isSimpleChar c.toLower = true :=
  Text.of_lt_128 (p := fun c => isSimpleChar c = true → isSimpleChar c.toLower = true) (by decide)
    (lt_128_of_isSimpleChar h) h

theorem word_of_isSimpleChar {c : Char} (h : isSimpleChar c = true) :
    Text.isWord c = true ∨ c = '-' := by
  have hascii : c.toNat < 128 := lt_128_of_isSimpleChar h
  unfold Text.isWord
  rw [if_pos hascii]
  simpa [isSimpleChar] using h

/-- The simple search looks for the lower-case forms of simple words. -/
theorem splitTerms_simple {query : Text}
    (h : ∀ word ∈ Text.wordsBy Text.isBlank query, IsSimple word) :
    splitTerms query = (Text.wordsBy Text.isBlank query).map Text.lower := by
  have hchars : ∀ c ∈ query, c.toNat < 128 ∨ Text.isBlank c = true := by
    intro c hc
    rcases isSimpleChar_of_mem hc h with hblank | hsimple
    · exact Or.inr hblank
    · exact Or.inl (lt_128_of_isSimpleChar hsimple)
  have hcuts : ∀ c ∈ query, Text.isSeparator c.toLower = Text.isBlank c := by
    intro c hc
    rcases isSimpleChar_of_mem hc h with hblank | hsimple
    · rw [Text.toLower_of_isBlank hblank, Text.isSeparator, hblank, Bool.or_true]
    · exact Text.of_lt_128
        (p := fun c => isSimpleChar c = true → Text.isSeparator c.toLower = Text.isBlank c)
        (by decide) (lt_128_of_isSimpleChar hsimple) hsimple
  rw [splitTerms_eq, Text.lower_eq_map hchars, Text.wordsBy_map hcuts]
  exact List.map_congr_left fun word hword => (Text.lower_of_ascii (h word hword).ascii).symm

theorem all_terms_eq_strict {query : Text}
    (h : ∀ word ∈ Text.wordsBy Text.isBlank query, IsSimple word) (text : Text) :
    ((splitTerms query).all fun term => term.occursIn (plainText text)) =
      (Compiled.build [] query).strict text.normalize := by
  rw [strict_build_simple h, splitTerms_simple h, List.all_map, Bool.eq_iff_iff, List.all_eq_true,
    List.all_eq_true]
  refine forall₂_congr fun word hword => ?_
  have hchars : ∀ c ∈ word.lower, Text.isWord c = true ∨ c = '-' := by
    rw [Text.lower_of_ascii (h word hword).ascii]
    intro d hd
    obtain ⟨c, hc, rfl⟩ := List.mem_map.mp hd
    exact word_of_isSimpleChar (isSimpleChar_toLower ((h word hword).simple c hc))
  rw [Function.comp_apply, occursIn_plainText hchars]

/-! ## Results without excerpts -/

/-- A record without its excerpts. -/
def bare (record : Record) : Record := { record with snippets := [] }

/-- An outcome without the excerpts of its record. -/
def Outcome.bare : Outcome → Outcome
  | .unavailable => .unavailable
  | .scanned size record => .scanned size (record.map Match.bare)

theorem sizes_map {change : Outcome → Outcome}
    (h : ∀ outcome, (change outcome).size? = outcome.size?) (outcomes : List Outcome) :
    (outcomes.map change).filterMap Outcome.size? = outcomes.filterMap Outcome.size? := by
  rw [List.filterMap_map]
  exact List.filterMap_congr fun outcome _ => h outcome

/-- The excerpts of the outcomes count for nothing but the excerpts of the records. -/
theorem collect_bare (outcomes : List Outcome) :
    collect (outcomes.map Outcome.bare) =
      ((collect outcomes).1.map bare, (collect outcomes).2) := by
  have hrecords : (outcomes.map Outcome.bare).filterMap Outcome.record? =
      (outcomes.filterMap Outcome.record?).map bare := by
    rw [List.filterMap_map, List.map_filterMap]
    apply List.filterMap_congr
    intro outcome _
    cases outcome <;> rfl
  have hsize : ∀ outcome : Outcome, outcome.bare.size? = outcome.size? := by
    intro outcome
    cases outcome <;> rfl
  simp only [collect, hrecords, sizes_map hsize, List.length_map]

def Outcome.blank : Outcome → Outcome
  | .unavailable => .unavailable
  | .scanned size _ => .scanned size none

/-- Without records there are no hits, and the other work is the same. -/
theorem collect_blank (outcomes : List Outcome) :
    collect (outcomes.map Outcome.blank) = ([], { (collect outcomes).2 with hits := 0 }) := by
  have hrecords : (outcomes.map Outcome.blank).filterMap Outcome.record? = [] := by
    rw [List.filterMap_map, List.filterMap_eq_nil_iff]
    intro outcome _
    cases outcome <;> rfl
  have hsize : ∀ outcome : Outcome, outcome.blank.size? = outcome.size? := by
    intro outcome
    cases outcome <;> rfl
  simp only [collect, hrecords, sizes_map hsize]
  rfl

/-! ## The two searches -/

/-- Both searches make the same of a document, when no excerpts fail and there is no fallback. -/
theorem process_bare {plan : Plan} (hrelaxed : plan.relaxedFallback = false)
    (hexcerpts : ∀ text needles, ∃ snippets, plan.excerpts text needles = .ok snippets)
    {query : Text} (h : ∀ word ∈ Text.wordsBy Text.isBlank query, IsSimple word)
    (fetch : Fetcher) (document : Document) :
    (plan.process fetch (Compiled.build [] query) document).value.bare =
      (simpleProcess fetch (splitTerms query) document).value.bare := by
  rw [value_process, value_simpleProcess]
  cases fetch document.url with
  | error failure => rfl
  | ok text =>
    dsimp only
    rw [value_evaluate, hrelaxed, Bool.false_and, Bool.or_false]
    unfold simpleRecord?
    dsimp only
    rw [all_terms_eq_strict h text]
    cases (Compiled.build [] query).strict text.normalize with
    | true =>
      obtain ⟨snippets, hsnippets⟩ := hexcerpts text.normalize (Compiled.build [] query).needles
      rw [if_pos rfl, if_pos rfl, hsnippets]
      rfl
    | false => rfl

theorem process_blank {plan : Plan}
    (hexcerpts : ∀ text needles, ∃ failure, plan.excerpts text needles = .error failure)
    (query : Compiled) (terms : List Text) (fetch : Fetcher) (document : Document) :
    (plan.process fetch query document).value =
      (simpleProcess fetch terms document).value.blank := by
  rw [value_process, value_simpleProcess]
  cases fetch document.url with
  | error failure => rfl
  | ok text =>
    dsimp only
    rw [value_evaluate]
    obtain ⟨failure, hfailure⟩ := hexcerpts text.normalize query.needles
    rw [hfailure]
    split
    · rfl
    · rename_i heq
      split at heq
      · cases heq
      · cases heq
        rfl

/-- On a query of simple words, the full-text search without fallback and synonyms and the simple
search have the same records but for the excerpts, in the same order, and did the same work. There
are two exceptions. The simple search comes to nothing when some text within the cap cannot be
encoded; the full-text search passes over that text. And if half the window is past every
floating-point number, the full-text search has done the same work, but all its records are lost. -/
theorem matchInOrder_simple_query (cap workers window maxSnippets : Int) {query : Text}
    {order : Nat → List Nat} (hne : Text.wordsBy Text.isBlank query ≠ [])
    (hsimple : ∀ word ∈ Text.wordsBy Text.isBlank query, IsSimple word)
    (horder : ∀ count, (order count).Perm (List.range count)) (fetch : RawFetcher)
    (documents : List Document) :
    let plan : Plan :=
      { maxDocuments := cap, maxWorkers := workers, relaxedFallback := false
        excerpts := Snippet.extract? window maxSnippets }
    let full := (plan.matchInOrder fetch.encoded (Compiled.build [] query) order documents).value
    let simple := (simpleMatchRaw cap fetch query documents).value
    ((∃ fault, simple = .error fault) ↔
      ∃ document ∈ withinCap cap documents, ∃ text,
        fetch document.url = .ok text ∧ text.HasHalf) ∧
    ∀ found, simple = .ok found →
      (window.natAbs < 2 * Double.past →
        full.1.map bare = found.1.map bare ∧ full.2 = found.2) ∧
      (2 * Double.past ≤ window.natAbs → full = ([], { found.2 with hits := 0 })) := by
  intro plan full simple
  have hterms : splitTerms query ≠ [] := by
    rw [splitTerms_simple hsimple]
    simpa using hne
  have hsimpleMatch : simple = _ := value_simpleMatchRaw hterms fetch documents
  have hfull : full = collect ((withinCap cap documents).map fun document =>
      (plan.process fetch.encoded (Compiled.build [] query) document).value) :=
    value_matchInOrder plan fetch.encoded _ horder documents
  refine ⟨?_, fun found hfound => ?_⟩
  · rw [hsimpleMatch]
    simp only [← RawFetcher.fault?_ne_none_iff]
    cases hfault : (withinCap cap documents).findSome? fun document =>
        fetch.fault? document.url with
    | some fault =>
      obtain ⟨document, hdocument, hsome⟩ := List.exists_of_findSome?_eq_some hfault
      have hhalf : fetch.fault? document.url ≠ none := by
        rw [hsome]
        exact Option.some_ne_none fault
      exact ⟨fun _ => ⟨document, hdocument, hhalf⟩, fun _ => ⟨fault, rfl⟩⟩
    | none =>
      have hnone := List.findSome?_eq_none_iff.mp hfault
      constructor
      · rintro ⟨fault, hfault⟩
        cases hfault
      · rintro ⟨document, hdocument, hsome⟩
        exact absurd (hnone document hdocument) hsome
  · obtain rfl : (simpleMatch cap fetch.encoded query documents).value = found := by
      rw [hsimpleMatch] at hfound
      split at hfound
      · cases hfound
      · exact Except.ok.inj hfound
    rw [value_simpleMatch hterms, hfull]
    refine ⟨fun hwindow => ?_, fun hwindow => ?_⟩
    · have hexcerpts : ∀ text needles, ∃ snippets, plan.excerpts text needles = .ok snippets :=
        fun text needles => ⟨_, (Snippet.extract?_eq ..).trans (if_pos hwindow)⟩
      refine Prod.mk.inj ?_
      rw [← collect_bare, ← collect_bare, List.map_map, List.map_map]
      exact congrArg collect (List.map_congr_left fun document _ =>
        process_bare rfl hexcerpts hsimple fetch.encoded document)
    · have hexcerpts : ∀ text needles, ∃ failure, plan.excerpts text needles = .error failure :=
        fun text needles =>
          ⟨_, (Snippet.extract?_eq ..).trans (if_neg (Nat.not_lt.mpr hwindow))⟩
      rw [← collect_blank, List.map_map]
      exact congrArg collect (List.map_congr_left fun document _ =>
        process_blank hexcerpts _ _ fetch.encoded document)

/-- Of two documents one is out of reach; in the other one the words stand in quotes. -/
theorem matchInOrder_trust_law :
    Text.wordsBy Text.isBlank "Trust  trust-law trust" ≠ [] ∧
      (∀ word ∈ Text.wordsBy Text.isBlank "Trust  trust-law trust", IsSimple word) ∧
      (∀ count, (List.range count).reverse.Perm (List.range count)) ∧
      let fetch : RawFetcher := fun url =>
        if url = ['u'] then .ok (Text.raw "“TRUST” and ‘Trust-Law’: É") else .error "gone"
      let documents : List Document := [⟨.law, "Trusts", "u"⟩, ⟨.rule, "Courts", "v"⟩]
      let plan : Plan :=
        { maxDocuments := 9, maxWorkers := 4, relaxedFallback := false
          excerpts := Snippet.extract? Snippet.defaultWindow Snippet.defaultMaxSnippets }
      let full := (plan.matchInOrder fetch.encoded (Compiled.build [] "Trust  trust-law trust")
        (fun count => (List.range count).reverse) documents).value
      ∃ found, (simpleMatchRaw 9 fetch "Trust  trust-law trust" documents).value = .ok found ∧
        full.1.map bare = found.1.map bare ∧ full.2 = found.2 ∧ found.2.hits = 1 := by
  have hne : Text.wordsBy Text.isBlank "Trust  trust-law trust" ≠ [] := by decide
  have hsimple : ∀ word ∈ Text.wordsBy Text.isBlank "Trust  trust-law trust", IsSimple word := by
    decide +kernel
  have horder : ∀ count, (List.range count).reverse.Perm (List.range count) :=
    fun count => List.reverse_perm _
  refine ⟨hne, hsimple, horder, ?_⟩
  intro fetch documents plan full
  obtain ⟨-, hsame⟩ := matchInOrder_simple_query 9 4 Snippet.defaultWindow
    Snippet.defaultMaxSnippets hne hsimple horder fetch documents
  have hhits : (simpleMatchRaw 9 fetch "Trust  trust-law trust" documents).value.map
      (fun found => found.2.hits) = .ok 1 := by decide +kernel
  cases hfound : (simpleMatchRaw 9 fetch "Trust  trust-law trust" documents).value with
  | error fault =>
    rw [hfound] at hhits
    cases hhits
  | ok found =>
    have hwindow : Snippet.defaultWindow.natAbs < 2 * Double.past := by decide +kernel
    obtain ⟨hrecords, hstats⟩ := (hsame found hfound).1 hwindow
    rw [hfound] at hhits
    exact ⟨found, rfl, hrecords, hstats, Except.ok.inj hhits⟩

/-- The two searches fall apart. With a window of `10 ^ 309` characters the full-text search loses
its record, and half of a surrogate pair in a text ends the simple search. -/
theorem matchInOrder_ne_simpleMatchRaw :
    let documents : List Document := [⟨.law, "Title", "u"⟩]
    let stats (window : Int) (text : RawText) : Stats × Except RawText.Fault Stats :=
      let plan : Plan := { relaxedFallback := false, excerpts := Snippet.extract? window 6 }
      let fetch : RawFetcher := fun _ => .ok text
      ((plan.matchInOrder fetch.encoded (Compiled.build [] "law") List.range documents).value.2,
        (simpleMatchRaw 9999 fetch "law" documents).value.map Prod.snd)
    stats (Number.tenTo 309) (Text.raw "law") =
        ({ documents := 1, bytes := 3, hits := 0 },
          .ok { documents := 1, bytes := 3, hits := 1 }) ∧
      stats 120 (Text.raw "law " ++ [.half ⟨0xd800, rfl⟩]) =
        ({}, .error { position := 4, first := ⟨0xd800, rfl⟩, more := [] }) := by
  decide +kernel

end CorpusSearch.Match
