-- Queries without NOT. A text that meets such a query goes on meeting it when more is written
-- around it; and where no operand is missing, it has one of the terms and phrases, so that the
-- relaxed form of the query admits it as well.
import CorpusSearch.Proofs.Query.Fallback
import CorpusSearch.Proofs.Query.Leaves
import CorpusSearch.Proofs.Query.Operators

namespace CorpusSearch.Query

/-! ## Expressions without NOT -/

namespace Expr

variable {e : Expr} {text longer : Text}

@[simp] theorem nots_not (child : Expr) : (Expr.not child).nots = 1 + child.nots := rfl

@[simp] theorem nots_and (left right : Expr) :
    (Expr.and left right).nots = left.nots + right.nots := rfl

@[simp] theorem nots_or (left right : Expr) :
    (Expr.or left right).nots = left.nots + right.nots := by
  simp [nots, weight]

theorem holds_mono (hnots : e.nots = 0) (hpart : text <:+: longer)
    (h : e.holds text = true) : e.holds longer = true := by
  induction e with
  | always => rfl
  | term word =>
    rw [holds, Text.occursIn_iff] at h ⊢
    exact h.trans hpart
  | phrase word =>
    rw [holds, Text.occursIn_iff] at h ⊢
    exact h.trans hpart
  | not child =>
    rw [nots_not] at hnots
    omega
  | and left right ihl ihr =>
    rw [nots_and, Nat.add_eq_zero_iff] at hnots
    rw [holds, Bool.and_eq_true] at h ⊢
    exact ⟨ihl hnots.1 h.1, ihr hnots.2 h.2⟩
  | or left right ihl ihr =>
    rw [nots_or, Nat.add_eq_zero_iff] at hnots
    rw [holds, Bool.or_eq_true] at h ⊢
    rcases h with hl | hr
    · exact Or.inl (ihl hnots.1 hl)
    · exact Or.inr (ihr hnots.2 hr)

/-- An expression that misses no operand holds only of texts in which one of its leaves occurs. -/
theorem exists_leaf_of_holds (hnots : e.nots = 0) (hcomplete : e.isComplete = true)
    (h : e.holds text = true) : ∃ leaf ∈ e.leaves, leaf.text <:+: text := by
  induction e with
  | always => cases hcomplete
  | term word => exact ⟨_, List.mem_singleton_self _, (Text.occursIn_iff _ _).mp h⟩
  | phrase word => exact ⟨_, List.mem_singleton_self _, (Text.occursIn_iff _ _).mp h⟩
  | not child =>
    rw [nots_not] at hnots
    omega
  | and left right ihl ihr =>
    -- Both operands hold, and the leaf of the left one will do.
    rw [nots_and, Nat.add_eq_zero_iff] at hnots
    rw [isComplete, Bool.and_eq_true] at hcomplete
    rw [holds, Bool.and_eq_true] at h
    obtain ⟨leaf, hleaf, hoccurs⟩ := ihl hnots.1 hcomplete.1 h.1
    exact ⟨leaf, List.mem_append_left _ hleaf, hoccurs⟩
  | or left right ihl ihr =>
    rw [nots_or, Nat.add_eq_zero_iff] at hnots
    rw [isComplete, Bool.and_eq_true] at hcomplete
    rw [holds, Bool.or_eq_true] at h
    rcases h with hl | hr
    · obtain ⟨leaf, hleaf, hoccurs⟩ := ihl hnots.1 hcomplete.1 hl
      exact ⟨leaf, List.mem_append_left _ hleaf, hoccurs⟩
    · obtain ⟨leaf, hleaf, hoccurs⟩ := ihr hnots.2 hcomplete.2 hr
      exact ⟨leaf, List.mem_append_right _ hleaf, hoccurs⟩

end Expr

/-! ## Tokens without NOT -/

theorem exists_standsAs {words : List Token} {leaves : List Leaf}
    (h : List.Forall₂ Token.StandsAs words leaves) {leaf : Leaf} (hleaf : leaf ∈ leaves) :
    ∃ token ∈ words, token.StandsAs leaf := by
  induction h with
  | nil => cases hleaf
  | @cons token first words leaves hfirst _ ih =>
    rcases List.mem_cons.mp hleaf with rfl | hrest
    · exact ⟨token, List.mem_cons_self .., hfirst⟩
    · obtain ⟨other, hother, hstands⟩ := ih hrest
      exact ⟨other, List.mem_cons_of_mem _ hother, hstands⟩

/-- Whether no NOT and no excluded term stands among the tokens. -/
def AreAffirmative (tokens : List Token) : Prop :=
  ∀ token ∈ tokens, token.kind ≠ .notOp ∧ token.kind ≠ .notTerm

instance instDecidableAreAffirmative (tokens : List Token) : Decidable (AreAffirmative tokens) :=
  inferInstanceAs (Decidable (∀ token ∈ tokens, _))

namespace AreAffirmative

variable {tokens : List Token} {text : Text}

theorem nots_parse (h : AreAffirmative tokens) : (parse tokens).nots = 0 := by
  have hnot : ofKind .notOp tokens = [] :=
    List.filter_eq_nil_iff.mpr fun token htoken => by simpa using (h token htoken).1
  have hexcluded : ofKind .notTerm tokens = [] :=
    List.filter_eq_nil_iff.mpr fun token htoken => by simpa using (h token htoken).2
  have hle := weight_parse_le 1 0 tokens
  rw [sum_weight, hnot, hexcluded] at hle
  simpa [Expr.nots] using hle

theorem exists_token_of_mem_leaves (h : AreAffirmative tokens) {leaf : Leaf}
    (hleaf : leaf ∈ (parse tokens).leaves) :
    ∃ token ∈ tokens.filter Token.isPositive, token.word = leaf.text := by
  obtain ⟨token, hword, hstands⟩ := exists_standsAs (spells_parse tokens false) hleaf
  have htoken : token ∈ tokens := List.mem_of_mem_take (List.mem_of_mem_filter hword)
  cases hstands with
  | term hk => exact ⟨token, List.mem_filter.mpr ⟨htoken, by simp [Token.isPositive, hk]⟩, rfl⟩
  | phrase hk => exact ⟨token, List.mem_filter.mpr ⟨htoken, by simp [Token.isPositive, hk]⟩, rfl⟩
  | excluded hk => exact absurd hk (h token htoken).2

/-- Where no operand is missing, what the expression holds of has one of the terms and phrases. -/
theorem holds_anyOf (h : AreAffirmative tokens) (hcomplete : (parse tokens).isComplete = true)
    (hholds : (parse tokens).holds text = true) : (anyOf tokens).holds text = true := by
  obtain ⟨leaf, hleaf, hoccurs⟩ := Expr.exists_leaf_of_holds h.nots_parse hcomplete hholds
  obtain ⟨token, htoken, hword⟩ := h.exists_token_of_mem_leaves hleaf
  exact Query.holds_anyOf.mpr (Or.inr ⟨token, htoken, hword ▸ hoccurs⟩)

end AreAffirmative

/-! ## The law -/

/-- Where neither a NOT nor an excluded term stands among the tokens of a query, a text that meets
it meets it inside of every longer text too. If besides no operand is missing, or the query has no
token at all, the relaxed form of the query admits all texts that meet it strictly. -/
theorem strict_build_of_affirmative {table : Synonyms} {query : Text}
    (h : AreAffirmative (Compiled.build table query).tokens) :
    let compiled := Compiled.build table query
    (∀ text before behind, compiled.strict text = true →
      compiled.strict (before ++ text ++ behind) = true) ∧
    (compiled.tree.isComplete = true ∨ compiled.tree = .always ∧ compiled.tokens = [] →
      ∀ text, compiled.strict text = true → compiled.relaxed text = true) := by
  intro compiled
  constructor
  · intro text before behind hstrict
    exact Expr.holds_mono h.nots_parse ⟨before, behind, rfl⟩ hstrict
  · rintro (hcomplete | ⟨-, hnone⟩) text hstrict
    · exact h.holds_anyOf hcomplete hstrict
    · have hrelaxed : compiled.relaxedTree = anyOf compiled.tokens := rfl
      rw [Compiled.relaxed, hrelaxed, hnone]
      rfl

/-- A query of a group and a word with a synonym. It is met by its two words apart, and then also
with a title in front of them. -/
theorem strict_build_of_affirmative_beddoe :
    let compiled := Compiled.build [("beddoe", ["\"Re Beddoe\""])] "(trustee OR \"trust\") beddoe"
    let text : Text := "re beddoe and the trust, beddoe trustee"
    AreAffirmative compiled.tokens ∧ compiled.tree.isComplete = true ∧
      compiled.strict text = true ∧ compiled.strict ("title: " ++ text ++ ".") = true ∧
      compiled.relaxed text = true := by
  intro compiled text
  have haffirmative : AreAffirmative compiled.tokens := by decide
  have hcomplete : compiled.tree.isComplete = true := by decide
  have hstrict : compiled.strict text = true := by decide
  obtain ⟨hlonger, hrelaxed⟩ := strict_build_of_affirmative haffirmative
  exact ⟨haffirmative, hcomplete, hstrict, hlonger _ "title: " "." hstrict,
    hrelaxed (Or.inl hcomplete) _ hstrict⟩

-- The missing operand makes the OR hold of every text, and the relaxed form does not.
example : let compiled := Compiled.build [] "tax OR"
    AreAffirmative compiled.tokens ∧ compiled.strict "law" = true ∧
      compiled.relaxed "law" = false := by decide

end CorpusSearch.Query
