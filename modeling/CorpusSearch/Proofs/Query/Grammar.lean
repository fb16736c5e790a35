-- The grammar of queries: the token lists that are well formed, and the expression that each of
-- them says. A repetition groups to the left, and parentheses leave no trace in the expression.
import CorpusSearch.Query.Parser

namespace CorpusSearch.Query

/-! ## Derivations -/

/-- The three sorts of phrases of the grammar, from the loosest to the closest. -/
inductive Level where
  | disjunction
  | conjunction
  | unary
  deriving DecidableEq, Repr

/-- The derivations of the grammar

    disjunction := conjunction (OR conjunction)*
    conjunction := unary unary*
    unary       := NOT unary | excluded term | ( disjunction ) | term | phrase

with the tokens that are derived and their expression. -/
inductive Derives : Level → List Token → Expr → Prop
  | term {token : Token} :
      token.kind = .term → Derives .unary [token] (.term token.word)
  | phrase {token : Token} :
      token.kind = .phrase → Derives .unary [token] (.phrase token.word)
  | excluded {token : Token} :
      token.kind = .notTerm → Derives .unary [token] (.not (.term token.word))
  | negation {operator : Token} {tokens : List Token} {e : Expr} :
      operator.kind = .notOp → Derives .unary tokens e →
      Derives .unary (operator :: tokens) (.not e)
  | group {opening closing : Token} {tokens : List Token} {e : Expr} :
      opening.kind = .openParen → closing.kind = .closeParen → Derives .disjunction tokens e →
      Derives .unary (opening :: (tokens ++ [closing])) e
  /-- The operands behind the first one stand in `more`, each with its tokens. -/
  | conjunction {tokens : List Token} {e : Expr} {more : List (List Token × Expr)} :
      Derives .unary tokens e →
      (∀ part ∈ more, Derives .unary part.1 part.2) →
      Derives .conjunction (tokens ++ more.flatMap fun part => part.1)
        (more.foldl (fun left part => .and left part.2) e)
  /-- The operands behind the first one stand in `more`, each with its operator and its tokens. -/
  | disjunction {tokens : List Token} {e : Expr} {more : List (Token × List Token × Expr)} :
      Derives .conjunction tokens e →
      (∀ part ∈ more, part.1.kind = .orOp) →
      (∀ part ∈ more, Derives .conjunction part.2.1 part.2.2) →
      Derives .disjunction (tokens ++ more.flatMap fun part => part.1 :: part.2.1)
        (more.foldl (fun left part => .or left part.2.2) e)

namespace Derives

/-! ## Longer repetitions -/

theorem conjunction_of_unary {tokens : List Token} {e : Expr} (h : Derives .unary tokens e) :
    Derives .conjunction tokens e := by
  have := @Derives.conjunction tokens e [] h (by simp)
  simpa using this

theorem conjunction_and {before tokens : List Token} {left e : Expr}
    (hl : Derives .conjunction before left) (h : Derives .unary tokens e) :
    Derives .conjunction (before ++ tokens) (.and left e) := by
  cases hl with
  | @conjunction first e₀ more hfirst hmore =>
    have hall : ∀ part ∈ more ++ [(tokens, e)], Derives .unary part.1 part.2 := by
      intro part hpart
      rcases List.mem_append.mp hpart with hin | hlast
      · exact hmore part hin
      · rw [List.mem_singleton.mp hlast]
        exact h
    have := Derives.conjunction hfirst hall
    simpa [List.flatMap_append, List.foldl_append] using this

theorem disjunction_of_conjunction {tokens : List Token} {e : Expr}
    (h : Derives .conjunction tokens e) : Derives .disjunction tokens e := by
  have := @Derives.disjunction tokens e [] h (by simp) (by simp)
  simpa using this

theorem disjunction_or {before tokens : List Token} {operator : Token} {left e : Expr}
    (hl : Derives .disjunction before left) (ho : operator.kind = .orOp)
    (h : Derives .conjunction tokens e) :
    Derives .disjunction (before ++ operator :: tokens) (.or left e) := by
  cases hl with
  | @disjunction first e₀ more hfirst hops hmore =>
    have hkinds : ∀ part ∈ more ++ [(operator, tokens, e)], part.1.kind = .orOp := by
      intro part hpart
      rcases List.mem_append.mp hpart with hin | hlast
      · exact hops part hin
      · rw [List.mem_singleton.mp hlast]
        exact ho
    have hall : ∀ part ∈ more ++ [(operator, tokens, e)],
        Derives .conjunction part.2.1 part.2.2 := by
      intro part hpart
      rcases List.mem_append.mp hpart with hin | hlast
      · exact hmore part hin
      · rw [List.mem_singleton.mp hlast]
        exact h
    have := Derives.disjunction hfirst hkinds hall
    simpa [List.flatMap_append, List.foldl_append] using this

theorem negations {nots tokens : List Token} {e : Expr}
    (hnots : ∀ token ∈ nots, token.kind = .notOp) (h : Derives .unary tokens e) :
    Derives .unary (nots ++ tokens) (Group.negate nots.length e) := by
  induction nots with
  | nil => exact h
  | cons token nots ih =>
    have hrest := ih fun t ht => hnots t (List.mem_cons_of_mem _ ht)
    exact Derives.negation (hnots token (List.mem_cons_self ..)) hrest

end Derives

/-! ## Complete expressions -/

/-- Whether no operand is missing in an expression. -/
def Expr.isComplete : Expr → Bool
  | .always => false
  | .term _ => true
  | .phrase _ => true
  | .not child => child.isComplete
  | .and left right => left.isComplete && right.isComplete
  | .or left right => left.isComplete && right.isComplete

theorem Derives.isComplete {level : Level} {tokens : List Token} {e : Expr}
    (h : Derives level tokens e) : e.isComplete = true := by
  induction h with
  | term => rfl
  | phrase => rfl
  | excluded => rfl
  | negation _ _ ih => exact ih
  | group _ _ _ ih => exact ih
  | conjunction _ _ ih ihmore =>
    refine List.foldlRecOn (motive := fun e : Expr => e.isComplete = true) _ _ ih ?_
    intro left hleft part hpart
    simp [Expr.isComplete, hleft, ihmore part hpart]
  | disjunction _ _ _ ih ihmore =>
    refine List.foldlRecOn (motive := fun e : Expr => e.isComplete = true) _ _ ih ?_
    intro left hleft part hpart
    simp [Expr.isComplete, hleft, ihmore part hpart]

end CorpusSearch.Query
