-- The tokens of a query with their synonyms. They are the first occurrences in the list where every
-- term has its synonyms behind it; so expanding once more changes nothing, and a query can be
-- expanded in parts. What makes this so is that synonyms are phrases, and a phrase has no synonyms.
import CorpusSearch.Proofs.Query.Repetitions
import CorpusSearch.Query.Synonyms

namespace CorpusSearch.Query

variable (table : Synonyms)

/-! ## One token -/

theorem withSynonyms_of_ne_term {token : Token} (h : token.kind ≠ .term) :
    withSynonyms table token = [token] := if_neg h

/-- In the place of a token stand the token and, if it is a term, its synonyms. -/
theorem mem_withSynonyms {token other : Token} :
    other ∈ withSynonyms table token ↔ other = token ∨
      token.kind = .term ∧
        ∃ synonym ∈ table.phrases token.word, other = .phrase (unquote synonym) := by
  by_cases hk : token.kind = .term
  · rw [withSynonyms, if_pos hk, List.mem_cons, List.mem_map]
    simp only [hk, true_and, eq_comm]
  · rw [withSynonyms_of_ne_term table hk, List.mem_singleton]
    simp only [hk, false_and, or_false]

/-- What holds of a token and of its synonyms holds of all that stands in its place. -/
theorem forall_mem_withSynonyms {p : Token → Prop} {token : Token} :
    (∀ other ∈ withSynonyms table token, p other) ↔
      p token ∧ (token.kind = .term →
        ∀ synonym ∈ table.phrases token.word, p (.phrase (unquote synonym))) := by
  constructor
  · intro hall
    refine ⟨hall token ((mem_withSynonyms table).mpr (Or.inl rfl)), fun hk synonym hsynonym => ?_⟩
    exact hall _ ((mem_withSynonyms table).mpr (Or.inr ⟨hk, synonym, hsynonym, rfl⟩))
  · rintro ⟨htoken, hphrases⟩ other hother
    rcases (mem_withSynonyms table).mp hother with rfl | ⟨hk, synonym, hsynonym, rfl⟩
    · exact htoken
    · exact hphrases hk synonym hsynonym

theorem exists_withSynonyms (token : Token) : ∃ phrases,
    withSynonyms table token = token :: phrases ∧ ∀ phrase ∈ phrases, phrase.kind = .phrase := by
  by_cases hk : token.kind = .term
  · refine ⟨_, if_pos hk, fun phrase hphrase => ?_⟩
    obtain ⟨synonym, -, rfl⟩ := List.mem_map.mp hphrase
    rfl
  · exact ⟨[], withSynonyms_of_ne_term table hk, by simp⟩

theorem flatMap_withSynonyms_of_phrases {phrases : List Token}
    (h : ∀ phrase ∈ phrases, phrase.kind = .phrase) :
    phrases.flatMap (withSynonyms table) = phrases := by
  induction phrases with
  | nil => rfl
  | cons phrase phrases ih =>
    have hfirst : phrase.kind ≠ .term := by simp [h phrase List.mem_cons_self]
    rw [List.flatMap_cons, withSynonyms_of_ne_term table hfirst,
      ih fun other hother => h other (List.mem_cons_of_mem _ hother), List.singleton_append]

/-- Expanding a token and its synonyms only puts the synonyms there once more. -/
theorem eraseDups_flatMap_withSynonyms (token : Token) :
    ((withSynonyms table token).flatMap (withSynonyms table)).eraseDups =
      (withSynonyms table token).eraseDups := by
  obtain ⟨phrases, htoken, hphrases⟩ := exists_withSynonyms table token
  rw [htoken, List.flatMap_cons, htoken, flatMap_withSynonyms_of_phrases table hphrases]
  exact eraseDups_append_of_subset (List.subset_cons_self ..)

/-! ## All tokens -/

/-- The tokens with synonyms are the tokens and the phrases of the terms among them. -/
theorem mem_expand {tokens : List Token} {token : Token} :
    token ∈ expand table tokens ↔ token ∈ tokens ∨
      ∃ other ∈ tokens, other.kind = .term ∧
        ∃ synonym ∈ table.phrases other.word, token = .phrase (unquote synonym) := by
  rw [expand, List.mem_eraseDups, List.mem_flatMap]
  simp only [mem_withSynonyms, and_or_left, exists_or, exists_eq_right']

theorem expand_expand (tokens : List Token) :
    expand table (expand table tokens) = expand table tokens := by
  unfold expand
  calc ((tokens.flatMap (withSynonyms table)).eraseDups.flatMap (withSynonyms table)).eraseDups
      = ((tokens.flatMap (withSynonyms table)).flatMap (withSynonyms table)).eraseDups :=
        eraseDups_flatMap_eraseDups _ _
    _ = (tokens.flatMap fun token =>
          (withSynonyms table token).flatMap (withSynonyms table)).eraseDups := by
        rw [List.flatMap_assoc]
    _ = (tokens.flatMap (withSynonyms table)).eraseDups :=
        eraseDups_flatMap_congr fun token _ => eraseDups_flatMap_withSynonyms table token

theorem expand_append (tokens others : List Token) :
    expand table (tokens ++ others) = (expand table tokens ++ expand table others).eraseDups := by
  unfold expand
  rw [List.flatMap_append, eraseDups_append_eraseDups]

/-! ## The law -/

/-- No token stands twice among the tokens with synonyms. They are the tokens and the phrases of the
terms among them, in the order of their first occurrences where every term has its synonyms behind
it. Expanding once more changes nothing, and the expansion of two lists is that of their expansions
without repetitions. -/
theorem expand_first_occurrences (tokens others : List Token) :
    let listed := tokens.flatMap (withSynonyms table)
    (expand table tokens).Nodup ∧
    (∀ token, token ∈ expand table tokens ↔ token ∈ tokens ∨
      ∃ other ∈ tokens, other.kind = .term ∧
        ∃ synonym ∈ table.phrases other.word, token = .phrase (unquote synonym)) ∧
    (expand table tokens).Pairwise
      (fun first second => listed.idxOf first < listed.idxOf second) ∧
    expand table (expand table tokens) = expand table tokens ∧
    expand table (tokens ++ others) =
      (expand table tokens ++ expand table others).eraseDups :=
  ⟨nodup_eraseDups _, fun _ => mem_expand table, pairwise_idxOf_eraseDups _,
    expand_expand table tokens, expand_append table tokens others⟩

-- A synonym that the query has in front of its term keeps its place.
example : expand [("trust", ["\"re beddoe\"", "trusts"])]
    [.phrase "trusts", .term "trust", .term "tax", .term "trust"] =
      [.phrase "trusts", .term "trust", .phrase "re beddoe", .term "tax"] := by decide

end CorpusSearch.Query
