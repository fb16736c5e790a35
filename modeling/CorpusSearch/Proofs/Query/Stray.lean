-- Closing parentheses without a partner. Behind a token list they never change its expression, and
-- the one at which a reading stops cuts off all that follows it.
import CorpusSearch.Proofs.Query.WellFormed

namespace CorpusSearch.Query

/-! ## Where a reading stops -/

/-- How many tokens of a list are of a kind. -/
def countKind (kind : Kind) (tokens : List Token) : Nat :=
  tokens.countP fun token => token.kind == kind

@[simp] theorem countKind_nil (kind : Kind) : countKind kind [] = 0 := rfl

theorem countKind_cons (kind : Kind) (token : Token) (tokens : List Token) :
    countKind kind (token :: tokens) =
      countKind kind tokens + if token.kind = kind then 1 else 0 := by
  simp [countKind, List.countP_cons]

/-- A step opens at most one group, by an opening parenthesis, and closes at most one, by a closing
one. -/
theorem Step.depth {token : Token} {outer outer' : List Group} {group group' : Group}
    (h : Step token outer group outer' group') :
    outer.length + countKind .openParen [token] ≤
      outer'.length + countKind .closeParen [token] := by
  cases h with
  | operand he =>
    rcases Token.operand?_cases he with ⟨hk, -⟩ | ⟨hk, -⟩ | ⟨hk, -⟩ <;> simp [countKind_cons, hk]
  | missing hm => rcases hm with hk | ⟨-, hk | hk⟩ <;> simp [countKind_cons, hk]
  | negate hk => simp [countKind_cons, hk]
  | disjoin hk => simp [countKind_cons, hk]
  | enter hk => simp [countKind_cons, hk]
  | leave hk => simp [countKind_cons, hk]

/-- A reading that stops at a closing parenthesis has closed every group, and reads the tokens in
front of it in the same way whatever is put behind another closing parenthesis in its place. -/
theorem parseFrom_stopped {outer : List Group} {group : Group} {tokens rest : List Token}
    {stray : Token} (h : (parseFrom outer group tokens).2 = stray :: rest) :
    ∃ read, tokens = read ++ stray :: rest ∧
      outer.length + countKind .openParen read ≤ countKind .closeParen read ∧
      ∀ (closing : Token) (others : List Token), closing.kind = .closeParen →
        parseFrom outer group (read ++ closing :: others) =
          ((parseFrom outer group tokens).1, closing :: others) := by
  induction outer, group, tokens using reading_induction with
  | finish => simp [parseFrom] at h
  | stop group token after hk hc =>
    rw [parseFrom_stop hk hc] at h ⊢
    exact ⟨[], h, by simp, fun closing others hclosing => parseFrom_stop hclosing hc others⟩
  | @step token outer group outer' group' after hstep ih =>
    rw [parseFrom_step hstep] at h ⊢
    obtain ⟨read, rfl, hdepth, hread⟩ := ih h
    refine ⟨token :: read, rfl, ?_, fun closing others hclosing => ?_⟩
    · have := hstep.depth
      simp only [countKind_cons, countKind_nil] at this ⊢
      omega
    · rw [List.cons_append, parseFrom_step hstep]
      exact hread closing others hclosing

/-- What stands behind the tokens that were read is what is left over. -/
theorem drop_tokensRead (tokens : List Token) :
    tokens.drop (tokensRead tokens) = (parseAll tokens).2 := by
  have h := (List.take_append_drop (tokensRead tokens) tokens).trans (take_tokensRead tokens)
  exact List.append_cancel_left h

/-- A token list is read to its end, or the reading stops at a closing parenthesis. -/
theorem tokensRead_eq_length_or (tokens : List Token) :
    tokensRead tokens = tokens.length ∨
      ∃ stray rest, (parseAll tokens).2 = stray :: rest ∧ stray.kind = .closeParen := by
  rcases parseFrom_rest [] {} tokens with hnil | hstray
  · exact Or.inl (by rw [tokensRead, parseAll, hnil, List.length_nil, Nat.sub_zero])
  · exact Or.inr hstray

/-- The parentheses in front of the stray one at which a reading stops are closed, and it alone
decides where the reading stops. -/
theorem parseAll_stopped {tokens rest : List Token} {stray : Token}
    (h : (parseAll tokens).2 = stray :: rest) :
    countKind .openParen (tokens.take (tokensRead tokens)) ≤
        countKind .closeParen (tokens.take (tokensRead tokens)) ∧
      ∀ (closing : Token) (others : List Token), closing.kind = .closeParen →
        parseAll (tokens.take (tokensRead tokens) ++ closing :: others) =
          (parse tokens, closing :: others) := by
  obtain ⟨read, hsplit, hdepth, hread⟩ := parseFrom_stopped h
  have htake : tokens.take (tokensRead tokens) = read := by
    have := (take_tokensRead tokens).symm.trans (h ▸ hsplit)
    exact List.append_cancel_right this
  rw [htake]
  exact ⟨by simpa using hdepth, hread⟩

/-! ## The law -/

/-- Closing parentheses at the end never change the expression. Where the reading stops, the tokens
are at their end or a closing parenthesis stands there; then one such parenthesis, whatever follows
it, behind the tokens in front of it gives the same expression. -/
theorem parse_stray_closings (tokens : List Token) :
    (∀ closings : List Token, (∀ token ∈ closings, token.kind = .closeParen) →
      parse (tokens ++ closings) = parse tokens) ∧
    (tokensRead tokens = tokens.length ∨
      ∃ stray rest, tokens.drop (tokensRead tokens) = stray :: rest ∧ stray.kind = .closeParen ∧
        ∀ (closing : Token) (others : List Token), closing.kind = .closeParen →
          parse (tokens.take (tokensRead tokens) ++ closing :: others) = parse tokens) := by
  refine ⟨fun closings hk => parseFrom_append_closings hk [] {} tokens, ?_⟩
  rcases tokensRead_eq_length_or tokens with hend | ⟨stray, rest, hrest, hk⟩
  · exact Or.inl hend
  · have hstopped := (parseAll_stopped hrest).2
    refine Or.inr ⟨stray, rest, (drop_tokensRead tokens).trans hrest, hk, ?_⟩
    intro closing others hclosing
    rw [parse, hstopped closing others hclosing]

end CorpusSearch.Query
