-- How many operators an expression has. Each NOT and each OR of an expression comes from a token of
-- its own, and a query has no token twice; so of many ORs in a query one is left.
import CorpusSearch.Proofs.Query.Expansion
import CorpusSearch.Proofs.Query.Reading
import CorpusSearch.Proofs.Query.Segmentation
import CorpusSearch.Query.Compiled
import Mathlib.Algebra.GroupWithZero.Nat

namespace CorpusSearch.Query

/-! ## Operators of expressions -/

/-- The operators of an expression, where a NOT and an OR count as much as they are given. -/
def Expr.weight (not or : Nat) : Expr → Nat
  | .always => 0
  | .term _ => 0
  | .phrase _ => 0
  | .not child => not + child.weight not or
  | .and left right => left.weight not or + right.weight not or
  | .or left right => or + left.weight not or + right.weight not or

/-- The number of NOTs in an expression. -/
def Expr.nots (e : Expr) : Nat := e.weight 1 0

/-- The number of ORs in an expression. -/
def Expr.ors (e : Expr) : Nat := e.weight 0 1

/-- The operators that a token may bring into an expression. -/
def Token.weight (not or : Nat) (token : Token) : Nat :=
  match token.kind with
  | .notOp => not
  | .notTerm => not
  | .orOp => or
  | _ => 0

variable (not or : Nat)

/-! ## Operators of a reading -/

namespace Group

/-- The operators that a group holds: its disjunct is going to be an operand of an OR, and its NOTs
wait for their operand. -/
def weight (not or : Nat) (group : Group) : Nat :=
  (group.disjunct.elim 0 fun left => or + left.weight not or) +
    (group.conjunct.elim 0 fun left => left.weight not or) + group.negations * not

theorem weight_negate (count : Nat) (e : Expr) :
    (negate count e).weight not or = count * not + e.weight not or := by
  induction count with
  | zero => simp [negate]
  | succ count ih =>
    rw [negate, Expr.weight, ih, Nat.succ_mul]
    omega

theorem weight_operand (group : Group) (e : Expr) :
    (group.operand e).weight not or = group.weight not or + e.weight not or := by
  obtain ⟨disjunct, conjunct, negations⟩ := group
  cases conjunct with
  | none => simp only [operand, weight, weight_negate, Option.elim]; omega
  | some left => simp only [operand, weight, Expr.weight, weight_negate, Option.elim]; omega

theorem weight_result_of_closed {group : Group} (h : group.isOpen = false) :
    group.result.weight not or = group.weight not or := by
  obtain ⟨disjunct, conjunct, negations⟩ := group
  simp only [isOpen, Bool.or_eq_false_iff, decide_eq_false_iff_not] at h
  obtain ⟨hconjunct, hnegations⟩ := h
  have hzero : negations = 0 := by omega
  subst hzero
  cases conjunct with
  | none => cases hconjunct
  | some left => cases disjunct <;> simp [result, isOpen, weight, Expr.weight]

theorem weight_result (group : Group) : group.result.weight not or = group.weight not or := by
  cases hopen : group.isOpen with
  | false => exact weight_result_of_closed not or hopen
  | true =>
    rw [← result_operand_always hopen, weight_result_of_closed not or (isOpen_operand ..),
      weight_operand, Expr.weight, Nat.add_zero]

theorem weight_disjoin (group : Group) :
    group.disjoin.weight not or = or + group.weight not or := by
  simp [disjoin, weight, weight_result]

end Group

def openWeight (not or : Nat) (outer : List Group) (group : Group) : Nat :=
  group.weight not or + (outer.map (Group.weight not or)).sum

theorem weight_closeAll (outer : List Group) (group : Group) :
    (closeAll group outer).weight not or = openWeight not or outer group := by
  induction outer generalizing group with
  | nil => simp [closeAll, openWeight, Group.weight_result]
  | cons next outer ih =>
    rw [closeAll, ih, openWeight, Group.weight_operand, Group.weight_result, openWeight,
      List.map_cons, List.sum_cons]
    omega

theorem weight_of_operand? {token : Token} {e : Expr} (h : token.operand? = some e) :
    e.weight not or = token.weight not or := by
  rcases Token.operand?_cases h with ⟨hk, rfl⟩ | ⟨hk, rfl⟩ | ⟨hk, rfl⟩ <;>
    simp [Token.weight, Expr.weight, hk]

theorem Step.openWeight_le {token : Token} {outer outer' : List Group} {group group' : Group}
    (h : Step token outer group outer' group') :
    openWeight not or outer' group' ≤ openWeight not or outer group + token.weight not or := by
  unfold openWeight
  cases h with
  | operand he =>
    rw [Group.weight_operand, weight_of_operand? not or he]
    omega
  | missing =>
    rw [Group.weight_operand, Expr.weight]
    omega
  | negate hk =>
    simp only [Group.weight, Token.weight, hk, Nat.succ_mul]
    omega
  | disjoin hk =>
    simp only [Group.weight_disjoin, Token.weight, hk]
    omega
  | enter =>
    have hempty : ({} : Group).weight not or = 0 := by simp [Group.weight]
    rw [hempty, List.map_cons, List.sum_cons]
    omega
  | leave =>
    rw [Group.weight_operand, Group.weight_result, List.map_cons, List.sum_cons]
    omega

/-- The expression of a reading has no more operators than the groups and the tokens bring. -/
theorem weight_parseFrom_le (outer : List Group) (group : Group) (tokens : List Token) :
    (parseFrom outer group tokens).1.weight not or ≤
      openWeight not or outer group + (tokens.map (Token.weight not or)).sum := by
  induction outer, group, tokens using reading_induction with
  | finish outer group => simp [parseFrom, weight_closeAll]
  | stop group token rest hk hc =>
    rw [parseFrom_stop hk hc, Group.weight_result]
    simp only [openWeight, List.map_nil, List.sum_nil]
    omega
  | step rest hstep ih =>
    have hle := hstep.openWeight_le not or
    rw [parseFrom_step hstep, List.map_cons, List.sum_cons]
    omega

theorem weight_parse_le (tokens : List Token) :
    (parse tokens).weight not or ≤ (tokens.map (Token.weight not or)).sum := by
  have hempty : openWeight not or [] {} = 0 := by simp [openWeight, Group.weight]
  have := weight_parseFrom_le not or [] {} tokens
  rwa [hempty, Nat.zero_add] at this

/-! ## Tokens of a kind -/

def ofKind (kind : Kind) (tokens : List Token) : List Token :=
  tokens.filter fun token => token.kind = kind

theorem sum_weight (tokens : List Token) :
    (tokens.map (Token.weight not or)).sum =
      not * ((ofKind .notOp tokens).length + (ofKind .notTerm tokens).length) +
        or * (ofKind .orOp tokens).length := by
  induction tokens with
  | nil => rfl
  | cons token tokens ih =>
    unfold ofKind at ih ⊢
    rw [List.map_cons, List.sum_cons, ih]
    cases hk : token.kind <;> simp [Token.weight, hk, Nat.mul_add] <;> omega

theorem text_of_mem_tokenize {query : Text} {token : Token} (h : token ∈ tokenize query)
    (hk : token.kind = .notOp ∨ token.kind = .orOp) : token.text = none := by
  obtain ⟨part, -, hmeans⟩ := exists_means_of_mem_tokenize h
  cases hmeans with
  | openParen | closeParen | or | not => rfl
  | quoted | unclosed | excluded | term => simp at hk

theorem mem_of_mem_expand {table : Synonyms} {tokens : List Token} {token : Token}
    (h : token ∈ expand table tokens) (hk : token.kind ≠ .phrase) : token ∈ tokens := by
  rcases (mem_expand table).mp h with htoken | ⟨other, -, -, synonym, -, rfl⟩
  · exact htoken
  · exact absurd rfl hk

/-- Of the tokens of a kind each one stands once among the tokens with synonyms. -/
theorem length_ofKind_expand_le (table : Synonyms) {tokens others : List Token} {kind : Kind}
    (hk : kind ≠ .phrase) (h : ofKind kind tokens ⊆ others) :
    (ofKind kind (expand table tokens)).length ≤ others.length := by
  apply List.Nodup.length_le_of_subset
  · exact (nodup_eraseDups _).filter _
  · intro token htoken
    obtain ⟨hmem, hkind⟩ := List.mem_filter.mp htoken
    have hkind : token.kind = kind := of_decide_eq_true hkind
    have hin := mem_of_mem_expand hmem (hkind ▸ hk)
    exact h (List.mem_filter.mpr ⟨hin, decide_eq_true hkind⟩)

theorem length_operators_le (table : Synonyms) (query : Text) {kind : Kind}
    (hk : kind = .notOp ∨ kind = .orOp) :
    (ofKind kind (expand table (tokenize query))).length ≤ 1 := by
  have hphrase : kind ≠ .phrase := by
    rintro rfl
    simp at hk
  have honly : ofKind kind (tokenize query) ⊆ [⟨kind, none⟩] := by
    intro token htoken
    obtain ⟨hmem, hkind⟩ := List.mem_filter.mp htoken
    have hkind : token.kind = kind := of_decide_eq_true hkind
    have htext := text_of_mem_tokenize hmem (hkind ▸ hk)
    obtain ⟨_, _⟩ := token
    simp_all
  exact length_ofKind_expand_le table hphrase honly

/-! ## The law -/

/-- However many operators a query has, its expression has at most one OR, and at most one NOT more
than the query has different excluded terms. -/
theorem operators_build_le (table : Synonyms) (query : Text) :
    (Compiled.build table query).tree.ors ≤ 1 ∧
      (Compiled.build table query).tree.nots ≤
        (ofKind .notTerm (tokenize query)).eraseDups.length + 1 := by
  have htree : (Compiled.build table query).tree = parse (expand table (tokenize query)) := rfl
  have hexcluded : ofKind .notTerm (tokenize query) ⊆
      (ofKind .notTerm (tokenize query)).eraseDups :=
    fun token htoken => List.mem_eraseDups.mpr htoken
  have hors := weight_parse_le 0 1 (expand table (tokenize query))
  have hnots := weight_parse_le 1 0 (expand table (tokenize query))
  rw [sum_weight] at hors hnots
  have hor := length_operators_le table query (Or.inr rfl)
  have hnot := length_operators_le table query (Or.inl rfl)
  have hterms := length_ofKind_expand_le table (by simp) hexcluded
  rw [htree, Expr.ors, Expr.nots]
  omega

-- The second OR is gone, and its operands stand side by side.
example : (Compiled.build [] "a OR b OR c").tree =
    .or (.term "a") (.and (.term "b") (.term "c")) := by decide

end CorpusSearch.Query
