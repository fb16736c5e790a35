-- Queries of operands alone: terms, phrases and excluded terms without operators or parentheses.
-- Such a query asks for all of its terms and phrases and for all synonyms of its terms, and for
-- none of its excluded terms; the order of the tokens and their repetitions make no difference.
import CorpusSearch.Proofs.Query.Conjunction
import CorpusSearch.Proofs.Query.Expansion

namespace CorpusSearch.Query

variable {table : Synonyms} {tokens others : List Token} {token : Token} {text : Text}

/-! ## Operands -/

theorem Token.isSome_operand?_iff : token.operand?.isSome = true ↔
    token.kind = .term ∨ token.kind = .phrase ∨ token.kind = .notTerm := by
  cases hk : token.kind <;> simp [Token.operand?, hk]

theorem Token.holds_of_positive (h : token.kind = .term ∨ token.kind = .phrase) :
    token.holds text = true ↔ token.word <:+: text := by
  rw [← Text.occursIn_iff]
  rcases h with hk | hk <;> simp [Token.holds, Token.operand?, hk, Expr.holds]

theorem Token.holds_of_excluded (h : token.kind = .notTerm) :
    token.holds text = true ↔ ¬ token.word <:+: text := by
  rw [← Text.occursIn_iff]
  simp [Token.holds, Token.operand?, h, Expr.holds]

theorem isSome_of_mem_flatMap (h : ∀ token ∈ tokens, token.operand?.isSome = true) :
    ∀ other ∈ tokens.flatMap (withSynonyms table), other.operand?.isSome = true := by
  rw [List.forall_mem_flatMap]
  intro token htoken
  exact (forall_mem_withSynonyms table).mpr ⟨h token htoken, fun _ _ _ => rfl⟩

/-! ## What operands ask for -/

/-- A text has what operands and the synonyms of their terms ask for. -/
structure Meets (table : Synonyms) (tokens : List Token) (text : Text) : Prop where
  words : ∀ token ∈ tokens, token.kind = .term ∨ token.kind = .phrase → token.word <:+: text
  synonyms : ∀ token ∈ tokens, token.kind = .term →
    ∀ synonym ∈ table.phrases token.word, (unquote synonym).normalize <:+: text
  excluded : ∀ token ∈ tokens, token.kind = .notTerm → ¬ token.word <:+: text

theorem Meets.of_subset (h : Meets table tokens text) (hsubset : others ⊆ tokens) :
    Meets table others text where
  words := fun token hmem => h.words token (hsubset hmem)
  synonyms := fun token hmem => h.synonyms token (hsubset hmem)
  excluded := fun token hmem => h.excluded token (hsubset hmem)

theorem meets_congr (h : ∀ token, token ∈ others ↔ token ∈ tokens) :
    Meets table others text ↔ Meets table tokens text :=
  ⟨fun hmeets => hmeets.of_subset fun token => (h token).mpr,
    fun hmeets => hmeets.of_subset fun token => (h token).mp⟩

/-- Operands ask for what each of them and each of their synonyms asks for by itself. -/
theorem meets_iff (h : ∀ token ∈ tokens, token.operand?.isSome = true) :
    Meets table tokens text ↔
      ∀ other ∈ tokens.flatMap (withSynonyms table), other.holds text = true := by
  simp only [List.forall_mem_flatMap, forall_mem_withSynonyms]
  constructor
  · intro hmeets token htoken
    refine ⟨?_, fun hk synonym hsynonym => ?_⟩
    · rcases Token.isSome_operand?_iff.mp (h token htoken) with hk | hk | hk
      · exact (Token.holds_of_positive (Or.inl hk)).mpr (hmeets.words token htoken (Or.inl hk))
      · exact (Token.holds_of_positive (Or.inr hk)).mpr (hmeets.words token htoken (Or.inr hk))
      · exact (Token.holds_of_excluded hk).mpr (hmeets.excluded token htoken hk)
    · exact (Token.holds_of_positive (Or.inr rfl)).mpr
        (hmeets.synonyms token htoken hk synonym hsynonym)
  · intro hall
    refine ⟨fun token htoken hk => ?_, fun token htoken hk synonym hsynonym => ?_,
      fun token htoken hk => ?_⟩
    · exact (Token.holds_of_positive hk).mp (hall token htoken).1
    · exact (Token.holds_of_positive (Or.inr rfl)).mp ((hall token htoken).2 hk synonym hsynonym)
    · exact (Token.holds_of_excluded hk).mp (hall token htoken).1

/-! ## Expressions of operands -/

/-- Operands with their synonyms are read into an expression that asks for what they ask for. -/
theorem holds_parse_expand (h : ∀ token ∈ tokens, token.operand?.isSome = true) :
    (parse (expand table tokens)).holds text = true ↔ Meets table tokens text := by
  have hoperands : ∀ other ∈ tokens.flatMap (withSynonyms table), other.operand?.isSome = true :=
    isSome_of_mem_flatMap h
  rw [expand, holds_parse_eraseDups hoperands, holds_parse_operands hoperands, List.all_eq_true,
    meets_iff h]

theorem holds_parse_expand_congr (h : ∀ token ∈ tokens, token.operand?.isSome = true)
    (hsame : ∀ token, token ∈ others ↔ token ∈ tokens) :
    (parse (expand table others)).holds text = (parse (expand table tokens)).holds text := by
  have hothers : ∀ token ∈ others, token.operand?.isSome = true :=
    fun token hmem => h token ((hsame token).mp hmem)
  rw [Bool.eq_iff_iff, holds_parse_expand h, holds_parse_expand hothers, meets_congr hsame]

/-! ## The law -/

/-- The expression of terms, phrases and excluded terms with their synonyms holds of a text exactly
when each term, each phrase and each synonym of a term occurs in it and no excluded term does. It
holds of the same texts as the expression of all tokens and synonyms with their repetitions, as that
of any other list of the same tokens, and as any query text with these tokens. -/
theorem holds_operands (table : Synonyms) {tokens : List Token}
    (h : ∀ token ∈ tokens,
      token.kind = .term ∨ token.kind = .phrase ∨ token.kind = .notTerm) (text : Text) :
    ((parse (expand table tokens)).holds text = true ↔ Meets table tokens text) ∧
    (parse (expand table tokens)).holds text =
      (parse (tokens.flatMap (withSynonyms table))).holds text ∧
    (∀ others, (∀ token, token ∈ others ↔ token ∈ tokens) →
      (parse (expand table others)).holds text = (parse (expand table tokens)).holds text) ∧
    ∀ query, (∀ token, token ∈ tokenize query ↔ token ∈ tokens) →
      (Compiled.build table query).strict text = (parse (expand table tokens)).holds text := by
  have hoperands : ∀ token ∈ tokens, token.operand?.isSome = true :=
    fun token htoken => Token.isSome_operand?_iff.mpr (h token htoken)
  exact ⟨holds_parse_expand hoperands, holds_parse_eraseDups (isSome_of_mem_flatMap hoperands) text,
    fun others => holds_parse_expand_congr hoperands,
    fun query => holds_parse_expand_congr hoperands⟩

/-- A query with one word less than a list of tokens has the same tokens in another order. -/
theorem holds_operands_beddoe :
    let table : Synonyms := [("trust", ["\"Re Beddoe\""])]
    let tokens : List Token :=
      [.phrase "costs of", .term "Trust", ⟨.notTerm, some "tax"⟩, .term "trust"]
    (∀ token ∈ tokens, token.kind = .term ∨ token.kind = .phrase ∨ token.kind = .notTerm) ∧
      (parse (expand table tokens)).holds "re beddoe: costs of a trust" = true ∧
      (Compiled.build table "-tax trust \"costs of\"").strict "re beddoe: costs of a trust" =
        true := by
  intro table tokens
  have hkinds : ∀ token ∈ tokens,
      token.kind = .term ∨ token.kind = .phrase ∨ token.kind = .notTerm := by decide
  obtain ⟨hmeets, -, -, hquery⟩ := holds_operands table hkinds "re beddoe: costs of a trust"
  have hholds := hmeets.mpr ⟨by decide, by decide, by decide⟩
  have hin : tokenize "-tax trust \"costs of\"" ⊆ tokens := by decide
  have hall : tokens ⊆ tokenize "-tax trust \"costs of\"" := by decide
  exact ⟨hkinds, hholds, (hquery _ fun token => ⟨@hin token, @hall token⟩).trans hholds⟩

end CorpusSearch.Query
