-- The reading of tokens as a run of steps: each token leads from the groups that are open to the
-- next ones, until the tokens end or a closing parenthesis stands where no group is left to close.
-- What a run keeps follows from what each step keeps.
import CorpusSearch.Proofs.Query.Grammar

namespace CorpusSearch.Query

/-! ## Groups -/

theorem Group.negate_not (n : Nat) (e : Expr) : negate n (.not e) = negate (n + 1) e := by
  induction n with
  | zero => rfl
  | succ n ih => simp only [negate, ih]

/-- A NOT that waits is the same as a NOT around the operand that follows. -/
theorem Group.operand_negated (group : Group) (e : Expr) :
    Group.operand e { group with negations := group.negations + 1 } = group.operand (.not e) := by
  unfold Group.operand
  rw [negate_not]

@[simp] theorem Group.isOpen_operand (group : Group) (e : Expr) :
    (group.operand e).isOpen = false := by
  simp [Group.isOpen, Group.operand]

theorem Group.result_operand_always {group : Group} (h : group.isOpen = true) :
    (group.operand .always).result = group.result := by
  unfold Group.result
  simp [h]

theorem closeAll_congr {group other : Group} (h : group.result = other.result)
    (outer : List Group) : closeAll group outer = closeAll other outer := by
  cases outer with
  | nil => exact h
  | cons next outer => simp only [closeAll, h]

/-! ## Steps -/

def Token.operand? (token : Token) : Option Expr :=
  match token.kind with
  | .term => some (.term token.word)
  | .phrase => some (.phrase token.word)
  | .notTerm => some (.not (.term token.word))
  | _ => none

theorem Token.operand?_cases {token : Token} {e : Expr} (h : token.operand? = some e) :
    token.kind = .term ∧ e = .term token.word ∨ token.kind = .phrase ∧ e = .phrase token.word ∨
      token.kind = .notTerm ∧ e = .not (.term token.word) := by
  unfold Token.operand? at h
  split at h
  · cases h; exact Or.inl ⟨‹_›, rfl⟩
  · cases h; exact Or.inr (Or.inl ⟨‹_›, rfl⟩)
  · cases h; exact Or.inr (Or.inr ⟨‹_›, rfl⟩)
  · cases h

theorem derives_of_operand? {token : Token} {e : Expr} (h : token.operand? = some e) :
    Derives .unary [token] e := by
  rcases Token.operand?_cases h with ⟨hk, rfl⟩ | ⟨hk, rfl⟩ | ⟨hk, rfl⟩
  · exact .term hk
  · exact .phrase hk
  · exact .excluded hk

/-- What one token makes of a group and the groups around it. -/
inductive Step (token : Token) : List Group → Group → List Group → Group → Prop
  | operand {outer : List Group} {group : Group} {e : Expr} :
      token.operand? = some e → Step token outer group outer (group.operand e)
  /-- The token stands where an operand is due, and is read as a missing one. -/
  | missing {outer : List Group} {group : Group} :
      token.kind = .andOp ∨
        group.isOpen = true ∧ (token.kind = .orOp ∨ token.kind = .closeParen) →
      Step token outer group outer (group.operand .always)
  | negate {outer : List Group} {group : Group} :
      token.kind = .notOp →
      Step token outer group outer { group with negations := group.negations + 1 }
  | disjoin {outer : List Group} {group : Group} :
      token.kind = .orOp → group.isOpen = false → Step token outer group outer group.disjoin
  | enter {outer : List Group} {group : Group} :
      token.kind = .openParen → Step token outer group (group :: outer) {}
  | leave {next : Group} {outer : List Group} {group : Group} :
      token.kind = .closeParen → group.isOpen = false →
      Step token (next :: outer) group outer (next.operand group.result)

/-- The reading of a token list goes on with the groups that the first token leads to. -/
theorem parseFrom_step {token : Token} {outer outer' : List Group} {group group' : Group}
    (h : Step token outer group outer' group') (rest : List Token) :
    parseFrom outer group (token :: rest) = parseFrom outer' group' rest := by
  cases h with
  | operand he =>
    rcases Token.operand?_cases he with ⟨hk, rfl⟩ | ⟨hk, rfl⟩ | ⟨hk, rfl⟩ <;>
      simp [parseFrom, hk]
  | missing hm =>
    rcases hm with hand | ⟨hopen, hor | hclose⟩
    · simp [parseFrom, hand]
    · simp [parseFrom, hor, hopen]
    · simp [parseFrom, hclose, hopen]
  | negate hk => simp [parseFrom, hk]
  | disjoin hk hc => simp [parseFrom, hk, hc]
  | enter hk => simp [parseFrom, hk]
  | leave hk hc => simp [parseFrom, hk, hc]

/-- A closing parenthesis ends the reading where the outermost group misses no operand. -/
theorem parseFrom_stop {token : Token} {group : Group} (hk : token.kind = .closeParen)
    (hc : group.isOpen = false) (rest : List Token) :
    parseFrom [] group (token :: rest) = (group.result, token :: rest) := by
  simp [parseFrom, hk, hc]

/-- Every token leads to a next state, or ends the reading. -/
theorem step_or_stop (token : Token) (outer : List Group) (group : Group) :
    (∃ outer' group', Step token outer group outer' group') ∨
      outer = [] ∧ token.kind = .closeParen ∧ group.isOpen = false := by
  cases hk : token.kind with
  | term => exact Or.inl ⟨_, _, .operand (by simp [Token.operand?, hk]; rfl)⟩
  | phrase => exact Or.inl ⟨_, _, .operand (by simp [Token.operand?, hk]; rfl)⟩
  | notTerm => exact Or.inl ⟨_, _, .operand (by simp [Token.operand?, hk]; rfl)⟩
  | andOp => exact Or.inl ⟨_, _, .missing (Or.inl hk)⟩
  | notOp => exact Or.inl ⟨_, _, .negate hk⟩
  | openParen => exact Or.inl ⟨_, _, .enter hk⟩
  | orOp =>
    cases hc : group.isOpen with
    | true => exact Or.inl ⟨_, _, .missing (Or.inr ⟨hc, Or.inl hk⟩)⟩
    | false => exact Or.inl ⟨_, _, .disjoin hk hc⟩
  | closeParen =>
    cases hc : group.isOpen with
    | true => exact Or.inl ⟨_, _, .missing (Or.inr ⟨hc, Or.inr hk⟩)⟩
    | false =>
      cases outer with
      | nil => exact Or.inr ⟨rfl, rfl, rfl⟩
      | cons next outer => exact Or.inl ⟨_, _, .leave hk hc⟩

/-- What holds at the two ends of a reading and goes back over every step holds of every
reading. -/
theorem reading_induction {motive : List Group → Group → List Token → Prop}
    (finish : ∀ outer group, motive outer group [])
    (stop : ∀ group token rest, token.kind = .closeParen → group.isOpen = false →
      motive [] group (token :: rest))
    (step : ∀ {token outer group outer' group'} rest, Step token outer group outer' group' →
      motive outer' group' rest → motive outer group (token :: rest))
    (outer : List Group) (group : Group) (tokens : List Token) : motive outer group tokens := by
  induction tokens generalizing outer group with
  | nil => exact finish outer group
  | cons token rest ih =>
    rcases step_or_stop token outer group with ⟨outer', group', hstep⟩ | ⟨rfl, hk, hc⟩
    · exact step rest hstep (ih outer' group')
    · exact stop group token rest hk hc

/-! ## Where a reading ends -/

theorem parseFrom_suffix (outer : List Group) (group : Group) (tokens : List Token) :
    (parseFrom outer group tokens).2 <:+ tokens := by
  induction outer, group, tokens using reading_induction with
  | finish => simp [parseFrom]
  | stop group token rest hk hc =>
    have hrest : (parseFrom [] group (token :: rest)).2 = token :: rest := by
      rw [parseFrom_stop hk hc]
    exact ⟨[], hrest⟩
  | step rest hstep ih =>
    rw [parseFrom_step hstep]
    exact ih.trans (List.suffix_cons _ _)

/-- A reading that leaves tokens over ends at a closing parenthesis. -/
theorem parseFrom_rest (outer : List Group) (group : Group) (tokens : List Token) :
    (parseFrom outer group tokens).2 = [] ∨
      ∃ token rest, (parseFrom outer group tokens).2 = token :: rest ∧
        token.kind = .closeParen := by
  induction outer, group, tokens using reading_induction with
  | finish => exact Or.inl rfl
  | stop group token rest hk hc =>
    rw [parseFrom_stop hk hc]
    exact Or.inr ⟨token, rest, rfl, hk⟩
  | step rest hstep ih =>
    rw [parseFrom_step hstep]
    exact ih

/-! ## Closing parentheses at the end -/

/-- Closing parentheses close the groups that the end of the tokens would close. -/
theorem parseFrom_closings {closings : List Token}
    (hclosings : ∀ token ∈ closings, token.kind = .closeParen) (outer : List Group)
    (group : Group) : (parseFrom outer group closings).1 = closeAll group outer := by
  induction outer, group, closings using reading_induction with
  | finish => rfl
  | stop group token rest hk hc => rw [parseFrom_stop hk hc]; rfl
  | @step token outer group outer' group' rest hstep ih =>
    have hk : token.kind = .closeParen := hclosings token (List.mem_cons_self ..)
    rw [parseFrom_step hstep, ih fun t ht => hclosings t (List.mem_cons_of_mem _ ht)]
    cases hstep with
    | operand he => simp [Token.operand?, hk] at he
    | missing hm =>
      have hopen : group.isOpen = true := by simpa [hk] using hm
      exact closeAll_congr (Group.result_operand_always hopen) _
    | negate hn => rw [hk] at hn; cases hn
    | disjoin ho => rw [hk] at ho; cases ho
    | enter ho => rw [hk] at ho; cases ho
    | leave => rfl

/-- Closing parentheses behind a token list never change its expression. -/
theorem parseFrom_append_closings {closings : List Token}
    (hclosings : ∀ token ∈ closings, token.kind = .closeParen) (outer : List Group)
    (group : Group) (tokens : List Token) :
    (parseFrom outer group (tokens ++ closings)).1 = (parseFrom outer group tokens).1 := by
  induction outer, group, tokens using reading_induction with
  | finish outer group => exact parseFrom_closings hclosings outer group
  | stop group token rest hk hc =>
    rw [List.cons_append, parseFrom_stop hk hc, parseFrom_stop hk hc]
  | step rest hstep ih =>
    rw [List.cons_append, parseFrom_step hstep, parseFrom_step hstep]
    exact ih

end CorpusSearch.Query
