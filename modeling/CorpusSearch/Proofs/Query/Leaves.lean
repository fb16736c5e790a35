-- The leaves of a parsed expression. From left to right they are the words of the tokens that were
-- read: none is lost, repeated or moved, whatever else stands in the token list.
import Mathlib.Data.List.Forall2
import CorpusSearch.Proofs.Query.Stray

namespace CorpusSearch.Query

/-! ## Words and leaves -/

/-- Whether a token brings a word along: a term, a phrase or an excluded term. -/
def Token.isWord (token : Token) : Bool := token.isPositive || token.kind == .notTerm

/-- The tokens of a list that are words. -/
def wordsOf (tokens : List Token) : List Token := tokens.filter Token.isWord

@[simp] theorem wordsOf_nil : wordsOf [] = [] := rfl

theorem wordsOf_cons (token : Token) (tokens : List Token) :
    wordsOf (token :: tokens) = wordsOf [token] ++ wordsOf tokens :=
  List.filter_append [token] tokens

theorem wordsOf_word {token : Token}
    (h : token.kind = .term ∨ token.kind = .phrase ∨ token.kind = .notTerm) :
    wordsOf [token] = [token] := by
  rcases h with hk | hk | hk <;> simp [wordsOf, Token.isWord, Token.isPositive, hk]

theorem wordsOf_other {token : Token}
    (h : token.kind ≠ .term ∧ token.kind ≠ .phrase ∧ token.kind ≠ .notTerm) :
    wordsOf [token] = [] := by
  simp [wordsOf, Token.isWord, Token.isPositive, h]

/-- A term or phrase in an expression. -/
structure Leaf where
  isPhrase : Bool
  text : Text
  /-- Whether the leaf itself is the operand of a NOT. -/
  isNegated : Bool
  deriving DecidableEq, Repr

/-- The leaves of an expression from left to right, `isNegated` saying whether the expression is the
operand of a NOT. -/
def Expr.leavesUnder : (isNegated : Bool) → Expr → List Leaf
  | _, .always => []
  | isNegated, .term text => [{ isPhrase := false, text, isNegated }]
  | isNegated, .phrase text => [{ isPhrase := true, text, isNegated }]
  | _, .not child => child.leavesUnder true
  | _, .and left right => left.leavesUnder false ++ right.leavesUnder false
  | _, .or left right => left.leavesUnder false ++ right.leavesUnder false

/-- The leaves of an expression from left to right. -/
def Expr.leaves (e : Expr) : List Leaf := e.leavesUnder false

/-- How a word stands in an expression: a term as a term and a phrase as a phrase, with or without a
NOT, and an excluded term as a term that is negated itself. -/
inductive Token.StandsAs (token : Token) : Leaf → Prop
  | term {isNegated : Bool} :
      token.kind = .term → StandsAs token ⟨false, token.word, isNegated⟩
  | phrase {isNegated : Bool} :
      token.kind = .phrase → StandsAs token ⟨true, token.word, isNegated⟩
  | excluded : token.kind = .notTerm → StandsAs token ⟨false, token.word, true⟩

/-! ## Expressions that spell words -/

/-- An expression spells words: they stand as its leaves, whether it is negated or not. -/
def Expr.Spells (words : List Token) (e : Expr) : Prop :=
  ∀ isNegated, List.Forall₂ Token.StandsAs words (e.leavesUnder isNegated)

namespace Expr.Spells

variable {words more : List Token} {e right : Expr}

theorem always : Expr.always.Spells [] := fun _ => .nil

theorem not (h : e.Spells words) : (Expr.not e).Spells words := fun _ => h true

theorem and (hl : e.Spells words) (hr : right.Spells more) :
    (Expr.and e right).Spells (words ++ more) := fun _ => List.rel_append (hl false) (hr false)

theorem or (hl : e.Spells words) (hr : right.Spells more) :
    (Expr.or e right).Spells (words ++ more) := fun _ => List.rel_append (hl false) (hr false)

theorem negate (h : e.Spells words) (count : Nat) : (Group.negate count e).Spells words := by
  induction count with
  | zero => exact h
  | succ count ih => exact ih.not

theorem operand {token : Token} (h : token.operand? = some e) : e.Spells (wordsOf [token]) := by
  intro isNegated
  rcases Token.operand?_cases h with ⟨hk, rfl⟩ | ⟨hk, rfl⟩ | ⟨hk, rfl⟩
  · rw [wordsOf_word (Or.inl hk)]
    exact .cons (.term hk) .nil
  · rw [wordsOf_word (Or.inr (Or.inl hk))]
    exact .cons (.phrase hk) .nil
  · rw [wordsOf_word (Or.inr (Or.inr hk))]
    exact .cons (.excluded hk) .nil

end Expr.Spells

/-! ## Groups that spell words -/

/-- A part of a group spells words, none when it is empty. -/
inductive SpellsPart : List Token → Option Expr → Prop
  | none : SpellsPart [] none
  | some {words : List Token} {e : Expr} : e.Spells words → SpellsPart words (some e)

/-- A group spells words: those in front of its last OR, and those behind it. -/
def Group.Spells (words : List Token) (group : Group) : Prop :=
  ∃ before inside, words = before ++ inside ∧
    SpellsPart before group.disjunct ∧ SpellsPart inside group.conjunct

namespace Group.Spells

variable {words : List Token} {group : Group}

theorem start : Group.Spells [] {} := ⟨[], [], rfl, .none, .none⟩

theorem operand {more : List Token} {e : Expr} (h : group.Spells words) (he : e.Spells more) :
    (group.operand e).Spells (words ++ more) := by
  obtain ⟨before, inside, rfl, hd, hi⟩ := h
  refine ⟨before, inside ++ more, List.append_assoc .., hd, ?_⟩
  unfold Group.operand
  generalize group.conjunct = conjunct at hi
  cases hi with
  | none => exact .some (he.negate _)
  | some hleft => exact .some (hleft.and (he.negate _))

/-- The expression of a group spells what the group does: a missing operand adds no word. -/
theorem result (h : group.Spells words) : group.result.Spells words := by
  unfold Group.result
  have hclosed : (if group.isOpen then group.operand .always else group).Spells words := by
    split
    · simpa using h.operand Expr.Spells.always
    · exact h
  obtain ⟨before, inside, rfl, hd, hi⟩ := hclosed
  generalize (if group.isOpen then group.operand .always else group) = closed at hd hi
  obtain ⟨disjunct, conjunct, negations⟩ := closed
  cases hd with
  | none => cases hi with
    | none => exact .always
    | some hinside => exact hinside
  | some hbefore => cases hi with
    | none => simpa using hbefore
    | some hinside => exact hbefore.or hinside

theorem disjoin (h : group.Spells words) : group.disjoin.Spells words :=
  ⟨words, [], (List.append_nil _).symm, .some h.result, .none⟩

end Group.Spells

/-- Groups, the innermost one first, spell words: each of them its own ones, the outer groups
first. -/
inductive AllSpell : List Token → List Group → Prop
  | nil : AllSpell [] []
  | cons {before inside : List Token} {group : Group} {outer : List Group} :
      AllSpell before outer → group.Spells inside → AllSpell (before ++ inside) (group :: outer)

/-! ## Readings -/

theorem Step.allSpell {token : Token} {outer outer' : List Group} {group group' : Group}
    {words : List Token} (hstep : Step token outer group outer' group')
    (h : AllSpell words (group :: outer)) :
    AllSpell (words ++ wordsOf [token]) (group' :: outer') := by
  obtain _ | @⟨before, inside, _, _, houter, hgroup⟩ := h
  cases hstep with
  | operand he =>
    rw [List.append_assoc]
    exact .cons houter (hgroup.operand (.operand he))
  | missing hm =>
    have hother : wordsOf [token] = [] := by
      rcases hm with hk | ⟨-, hk | hk⟩ <;> exact wordsOf_other (by simp [hk])
    rw [hother, List.append_assoc]
    exact .cons houter (hgroup.operand .always)
  | negate hk =>
    rw [wordsOf_other (by simp [hk]), List.append_nil]
    exact .cons houter hgroup
  | disjoin hk =>
    rw [wordsOf_other (by simp [hk]), List.append_nil]
    exact .cons houter hgroup.disjoin
  | enter hk =>
    rw [wordsOf_other (by simp [hk])]
    exact .cons (.cons houter hgroup) .start
  | leave hk =>
    cases houter with
    | cons hrest hnext =>
      rw [wordsOf_other (by simp [hk]), List.append_nil, List.append_assoc]
      exact .cons hrest (hnext.operand hgroup.result)

theorem AllSpell.closeAll {words : List Token} {group : Group} {outer : List Group}
    (h : AllSpell words (group :: outer)) : (closeAll group outer).Spells words := by
  induction outer generalizing group words with
  | nil =>
    obtain _ | ⟨hnone, hgroup⟩ := h
    cases hnone
    exact hgroup.result
  | cons next outer ih =>
    obtain _ | ⟨_ | ⟨houter, hnext⟩, hgroup⟩ := h
    rw [List.append_assoc]
    exact ih (.cons houter (hnext.operand hgroup.result))

/-- The expression of a reading spells the words in front of it and those that it reads. -/
theorem spells_parseFrom {outer : List Group} {group : Group} {words : List Token}
    (h : AllSpell words (group :: outer)) (tokens : List Token) :
    ∃ read, tokens = read ++ (parseFrom outer group tokens).2 ∧
      (parseFrom outer group tokens).1.Spells (words ++ wordsOf read) := by
  induction outer, group, tokens using reading_induction generalizing words with
  | finish outer group =>
    refine ⟨[], rfl, ?_⟩
    rw [wordsOf_nil, List.append_nil]
    exact h.closeAll
  | stop group token rest hk hc =>
    rw [parseFrom_stop hk hc]
    refine ⟨[], rfl, ?_⟩
    rw [wordsOf_nil, List.append_nil]
    exact h.closeAll
  | @step token outer group outer' group' rest hstep ih =>
    rw [parseFrom_step hstep]
    obtain ⟨read, hsplit, hspells⟩ := ih (hstep.allSpell h)
    refine ⟨token :: read, by rw [List.cons_append, ← hsplit], ?_⟩
    rw [wordsOf_cons, ← List.append_assoc]
    exact hspells

/-! ## The law -/

theorem spells_parse (tokens : List Token) :
    (parse tokens).Spells (wordsOf (tokens.take (tokensRead tokens))) := by
  obtain ⟨read, hsplit, hspells⟩ :=
    spells_parseFrom (AllSpell.cons .nil Group.Spells.start) tokens
  have htake : tokens.take (tokensRead tokens) = read := by
    have := (take_tokensRead tokens).symm.trans hsplit
    exact List.append_cancel_right this
  rw [htake]
  exact hspells

/-- The leaves of the expression are the words that were read, in their order, and an excluded term
is negated by itself. Words are left over only behind a closing parenthesis in front of which all
parentheses are closed; without closing parentheses every word is a leaf. -/
theorem parse_leaves (tokens : List Token) :
    tokensRead tokens ≤ tokens.length ∧
    List.Forall₂ Token.StandsAs (wordsOf (tokens.take (tokensRead tokens))) (parse tokens).leaves ∧
    (tokensRead tokens = tokens.length ∨
      ∃ stray rest, tokens.drop (tokensRead tokens) = stray :: rest ∧ stray.kind = .closeParen ∧
        countKind .openParen (tokens.take (tokensRead tokens)) ≤
          countKind .closeParen (tokens.take (tokensRead tokens))) ∧
    ((∀ token ∈ tokens, token.kind ≠ .closeParen) →
      List.Forall₂ Token.StandsAs (wordsOf tokens) (parse tokens).leaves) := by
  have hleaves := spells_parse tokens false
  refine ⟨Nat.sub_le .., hleaves, ?_, fun hnone => ?_⟩
  · rcases tokensRead_eq_length_or tokens with hend | ⟨stray, rest, hrest, hk⟩
    · exact Or.inl hend
    · have hdrop := (drop_tokensRead tokens).trans hrest
      exact Or.inr ⟨stray, rest, hdrop, hk, (parseAll_stopped hrest).1⟩
  · rcases tokensRead_eq_length_or tokens with hend | ⟨stray, rest, hrest, hk⟩
    · rwa [hend, List.take_length] at hleaves
    · have hmem : stray ∈ tokens.drop (tokensRead tokens) := by
        rw [drop_tokensRead, hrest]
        exact List.mem_cons_self ..
      exact absurd hk (hnone stray (List.mem_of_mem_drop hmem))

end CorpusSearch.Query
