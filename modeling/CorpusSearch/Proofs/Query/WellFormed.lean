-- The reader of queries and the grammar agree. A derivable token list is read to its end, and the
-- result is the expression of its derivation. The other way round, when no operand is missing in
-- the result, the tokens that were read are derivable once the open groups are closed.
import CorpusSearch.Proofs.Query.Reading

namespace CorpusSearch.Query

/-! ## Derivable tokens are read as derived -/

/-- What the reading of tokens does that a level derives: it adds one operand, it fills an empty
conjunct, or it fills an empty group. -/
def Advances : Level → List Token → Expr → Prop
  | .unary, tokens, e => ∀ outer group rest,
      parseFrom outer group (tokens ++ rest) = parseFrom outer (group.operand e) rest
  | .conjunction, tokens, e => ∀ outer disjunct rest,
      parseFrom outer { disjunct } (tokens ++ rest) =
        parseFrom outer { disjunct, conjunct := some e } rest
  | .disjunction, tokens, e => ∃ group : Group, group.isOpen = false ∧ group.result = e ∧
      ∀ outer rest, parseFrom outer {} (tokens ++ rest) = parseFrom outer group rest

theorem parseFrom_more_operands {more : List (List Token × Expr)}
    (h : ∀ part ∈ more, Advances .unary part.1 part.2) (outer : List Group)
    (disjunct : Option Expr) (left : Expr) (rest : List Token) :
    parseFrom outer { disjunct, conjunct := some left }
        (more.flatMap (fun part => part.1) ++ rest) =
      parseFrom outer
        { disjunct, conjunct := some (more.foldl (fun left part => .and left part.2) left) }
        rest := by
  induction more generalizing left with
  | nil => rfl
  | cons part more ih =>
    have hpart := h part (List.mem_cons_self ..)
    rw [List.flatMap_cons, List.append_assoc, hpart]
    exact ih (fun p hp => h p (List.mem_cons_of_mem _ hp)) _

/-- Further conjunctions, each behind an OR, join the disjunct one after another. -/
theorem parseFrom_more_conjunctions {more : List (Token × List Token × Expr)}
    (hops : ∀ part ∈ more, part.1.kind = .orOp)
    (h : ∀ part ∈ more, Advances .conjunction part.2.1 part.2.2) {group : Group}
    (hc : group.isOpen = false) :
    ∃ group' : Group, group'.isOpen = false ∧
      group'.result = more.foldl (fun left part => .or left part.2.2) group.result ∧
      ∀ outer rest, parseFrom outer group
        (more.flatMap (fun part => part.1 :: part.2.1) ++ rest) = parseFrom outer group' rest := by
  induction more generalizing group with
  | nil => exact ⟨group, hc, rfl, fun _ _ => rfl⟩
  | cons part more ih =>
    have hop := hops part (List.mem_cons_self ..)
    have hpart := h part (List.mem_cons_self ..)
    let joined : Group := { disjunct := some group.result, conjunct := some part.2.2 }
    obtain ⟨group', hc', hresult, hread⟩ :=
      @ih (fun p hp => hops p (List.mem_cons_of_mem _ hp))
        (fun p hp => h p (List.mem_cons_of_mem _ hp)) joined rfl
    refine ⟨group', hc', hresult, fun outer rest => ?_⟩
    rw [List.flatMap_cons, List.append_assoc, List.cons_append,
      parseFrom_step (.disjoin hop hc)]
    exact (hpart outer _ _).trans (hread outer rest)

/-- The reading of derivable tokens does what their level says. -/
theorem Derives.advances {level : Level} {tokens : List Token} {e : Expr}
    (h : Derives level tokens e) : Advances level tokens e := by
  induction h with
  | term hk =>
    intro outer group rest
    exact parseFrom_step (.operand (by simp [Token.operand?, hk])) rest
  | phrase hk =>
    intro outer group rest
    exact parseFrom_step (.operand (by simp [Token.operand?, hk])) rest
  | excluded hk =>
    intro outer group rest
    exact parseFrom_step (.operand (by simp [Token.operand?, hk])) rest
  | negation hk _ ih =>
    intro outer group rest
    rw [List.cons_append, parseFrom_step (.negate hk), ih, Group.operand_negated]
  | group ho hclose _ ih =>
    intro outer group rest
    obtain ⟨inner, hc, hresult, hread⟩ := ih
    rw [List.cons_append, parseFrom_step (.enter ho), List.append_assoc, hread,
      List.singleton_append, parseFrom_step (.leave hclose hc), hresult]
  | conjunction _ _ ih ihmore =>
    intro outer disjunct rest
    rw [List.append_assoc, ih]
    exact parseFrom_more_operands ihmore outer disjunct _ rest
  | @disjunction tokens e more _ hops _ ih ihmore =>
    let first : Group := { conjunct := some e }
    obtain ⟨group, hc, hresult, hread⟩ :=
      @parseFrom_more_conjunctions more hops ihmore first rfl
    refine ⟨group, hc, hresult, fun outer rest => ?_⟩
    rw [List.append_assoc]
    exact (ih outer none _).trans (hread outer rest)

theorem parseAll_of_derives {tokens : List Token} {e : Expr} (h : Derives .disjunction tokens e) :
    parseAll tokens = (e, []) := by
  obtain ⟨group, _, hresult, hread⟩ := h.advances
  have := hread [] []
  rw [List.append_nil] at this
  rw [parseAll, this, ← hresult]
  rfl

/-- Behind a derivable token list a closing parenthesis ends the reading. -/
theorem parseAll_append_closing {tokens : List Token} {e : Expr}
    (h : Derives .disjunction tokens e) {token : Token} (hk : token.kind = .closeParen)
    (rest : List Token) : parseAll (tokens ++ token :: rest) = (e, token :: rest) := by
  obtain ⟨group, hc, hresult, hread⟩ := h.advances
  rw [parseAll, hread, parseFrom_stop hk hc, hresult]

/-! ## Complete groups -/

/-- Whether no operand is missing in what a group holds. -/
def Group.isComplete (group : Group) : Bool :=
  group.disjunct.all Expr.isComplete && group.conjunct.all Expr.isComplete

@[simp] theorem Group.isComplete_negate (n : Nat) (e : Expr) :
    (negate n e).isComplete = e.isComplete := by
  induction n with
  | zero => rfl
  | succ n ih => simpa [negate, Expr.isComplete] using ih

@[simp] theorem Group.isComplete_operand (group : Group) (e : Expr) :
    (group.operand e).isComplete = (group.isComplete && e.isComplete) := by
  unfold Group.isComplete Group.operand
  cases group.conjunct with
  | none => simp
  | some left => simp [Expr.isComplete, Bool.and_assoc]

/-- The expression of a group misses an operand exactly when the group does or is open. -/
theorem Group.isComplete_result (group : Group) :
    group.result.isComplete = (group.isComplete && !group.isOpen) := by
  cases hopen : group.isOpen with
  | true =>
    unfold Group.result
    cases hd : group.disjunct <;> cases hi : group.conjunct <;>
      simp [hopen, Group.operand, Expr.isComplete, hd, hi]
  | false =>
    obtain ⟨e, hi⟩ : ∃ e, group.conjunct = some e := by
      rw [← Option.isSome_iff_exists]
      cases hi : group.conjunct <;> simp_all [Group.isOpen]
    unfold Group.result Group.isComplete
    cases hd : group.disjunct <;> simp [hopen, hd, hi, Expr.isComplete]

theorem isComplete_closeAll (group : Group) (outer : List Group) :
    (closeAll group outer).isComplete =
      (group.result.isComplete && outer.all Group.isComplete) := by
  induction outer generalizing group with
  | nil => simp [closeAll]
  | cons next outer ih =>
    rw [closeAll, ih, Group.isComplete_result (next.operand _)]
    simp [Bool.and_assoc, Bool.and_comm]

theorem Step.isComplete {token : Token} {outer outer' : List Group} {group group' : Group}
    (h : Step token outer group outer' group')
    (hc : (group'.isComplete && outer'.all Group.isComplete) = true) :
    (group.isComplete && outer.all Group.isComplete) = true := by
  cases h with
  | operand => simp_all
  | missing => simp [Expr.isComplete] at hc
  | negate => exact hc
  | disjoin =>
    simp_all [Group.disjoin, Group.isComplete_result, Group.isComplete]
  | enter => simp_all
  | leave => simp_all [Group.isComplete_result]

/-- When the expression of a reading misses no operand, the groups that it started with do not. -/
theorem isComplete_of_parseFrom {outer : List Group} {group : Group} {tokens : List Token}
    (h : (parseFrom outer group tokens).1.isComplete = true) :
    (group.isComplete && outer.all Group.isComplete) = true := by
  induction outer, group, tokens using reading_induction with
  | finish outer group =>
    simp only [parseFrom, isComplete_closeAll, Group.isComplete_result] at h
    simp_all
  | stop group token rest hk hc =>
    rw [parseFrom_stop hk hc] at h
    simp_all [Group.isComplete_result]
  | step rest hstep ih =>
    rw [parseFrom_step hstep] at h
    exact hstep.isComplete (ih h)

/-! ## What a group has read -/

/-- The tokens in front of the last OR. -/
inductive ReadDisjunct : Option Expr → List Token → Prop
  | none : ReadDisjunct none []
  | some {tokens : List Token} {e : Expr} {operator : Token} :
      Derives .disjunction tokens e → operator.kind = .orOp →
      ReadDisjunct (some e) (tokens ++ [operator])

/-- The tokens behind the last OR, without NOTs that wait for their operand. -/
inductive ReadConjunct : Option Expr → List Token → Prop
  | none : ReadConjunct none []
  | some {tokens : List Token} {e : Expr} :
      Derives .conjunction tokens e → ReadConjunct (some e) tokens

/-- A group has read tokens: a disjunction with its OR, a conjunction, and NOTs. -/
structure Group.HasRead (group : Group) (before inside nots : List Token) : Prop where
  disjunct : ReadDisjunct group.disjunct before
  conjunct : ReadConjunct group.conjunct inside
  count : nots.length = group.negations
  nots : ∀ token ∈ nots, token.kind = .notOp

/-- The tokens of a group that stand for an expression so far, whatever part of it they are. -/
def Group.Reads (group : Group) (tokens : List Token) : Prop :=
  ∃ before inside nots, group.HasRead before inside nots ∧ tokens = before ++ (inside ++ nots)

namespace Group.Reads

theorem start : Reads {} [] :=
  ⟨[], [], [], ⟨.none, .none, rfl, by simp⟩, rfl⟩

/-- An operand goes behind the NOTs that wait for it, and with them behind the conjunct. -/
theorem operand {group : Group} {tokens added : List Token} {e : Expr} (h : group.Reads tokens)
    (he : Derives .unary added e) : (group.operand e).Reads (tokens ++ added) := by
  obtain ⟨before, inside, nots, ⟨hd, hi, hcount, hnots⟩, rfl⟩ := h
  have hunary : Derives .unary (nots ++ added) (negate group.negations e) := by
    rw [← hcount]
    exact Derives.negations hnots he
  have hconjunct : ReadConjunct (group.operand e).conjunct (inside ++ (nots ++ added)) := by
    unfold Group.operand
    generalize group.conjunct = conjunct at hi
    cases hi with
    | none => exact .some (Derives.conjunction_of_unary hunary)
    | some hleft => exact .some (Derives.conjunction_and hleft hunary)
  exact ⟨before, inside ++ (nots ++ added), [], ⟨hd, hconjunct, rfl, by simp⟩, by simp⟩

theorem negate {group : Group} {tokens : List Token} {operator : Token} (h : group.Reads tokens)
    (hk : operator.kind = .notOp) :
    Reads { group with negations := group.negations + 1 } (tokens ++ [operator]) := by
  obtain ⟨before, inside, nots, ⟨hd, hi, hcount, hnots⟩, rfl⟩ := h
  refine ⟨before, inside, nots ++ [operator], ⟨hd, hi, by simp [hcount], ?_⟩, by simp⟩
  intro token ht
  rcases List.mem_append.mp ht with hin | hlast
  · exact hnots token hin
  · rw [List.mem_singleton.mp hlast]
    exact hk

/-- The tokens of a group that misses no operand derive its expression. -/
theorem result {group : Group} {tokens : List Token} (h : group.Reads tokens)
    (hc : group.isOpen = false) : Derives .disjunction tokens group.result := by
  obtain ⟨before, inside, nots, ⟨hd, hi, hcount, hnots⟩, rfl⟩ := h
  obtain ⟨disjunct, conjunct, negations⟩ := group
  cases hi with
  | none => simp [isOpen] at hc
  | some hinside =>
    have hzero : negations = 0 := by simpa [isOpen] using hc
    have hnil : nots = [] := List.length_eq_zero_iff.mp (hcount.trans hzero)
    subst hzero hnil
    cases hd with
    | none =>
      rw [List.nil_append, List.append_nil]
      exact Derives.disjunction_of_conjunction hinside
    | some hbefore ho =>
      rw [List.append_nil, List.append_assoc, List.singleton_append]
      exact Derives.disjunction_or hbefore ho hinside

theorem disjoin {group : Group} {tokens : List Token} {operator : Token} (h : group.Reads tokens)
    (hc : group.isOpen = false) (hk : operator.kind = .orOp) :
    group.disjoin.Reads (tokens ++ [operator]) :=
  ⟨tokens ++ [operator], [], [], ⟨.some (h.result hc) hk, .none, rfl, by simp⟩, by simp⟩

end Group.Reads

/-! ## What a whole reading has read -/

/-- The groups around the current one have read tokens: each of them its own ones, and behind them
the parenthesis that opens the next group. -/
inductive ReadAround : List Group → List Token → Prop
  | nil : ReadAround [] []
  | cons {next : Group} {outer : List Group} {before tokens : List Token} {opening : Token} :
      ReadAround outer before → next.Reads tokens → opening.kind = .openParen →
      ReadAround (next :: outer) (before ++ (tokens ++ [opening]))

/-- The groups have read tokens in which no operand is missing. -/
def HaveRead (outer : List Group) (group : Group) (tokens : List Token) : Prop :=
  ∃ before inside, ReadAround outer before ∧ group.Reads inside ∧ tokens = before ++ inside

theorem Step.haveRead {token : Token} {outer outer' : List Group} {group group' : Group}
    {tokens : List Token} (h : Step token outer group outer' group')
    (hr : HaveRead outer group tokens)
    (hc : (group'.isComplete && outer'.all Group.isComplete) = true) :
    HaveRead outer' group' (tokens ++ [token]) := by
  obtain ⟨before, inside, hbefore, hinside, rfl⟩ := hr
  rw [List.append_assoc]
  cases h with
  | operand he =>
    exact ⟨before, _, hbefore, hinside.operand (derives_of_operand? he), rfl⟩
  | missing => simp [Expr.isComplete] at hc
  | negate hk => exact ⟨before, _, hbefore, hinside.negate hk, rfl⟩
  | disjoin hk hclosed => exact ⟨before, _, hbefore, hinside.disjoin hclosed hk, rfl⟩
  | enter hk =>
    exact ⟨_, [], .cons hbefore hinside hk, Group.Reads.start, (List.append_nil _).symm⟩
  | leave hk hclosed =>
    cases hbefore with
    | cons houter hnext ho =>
      have hgroup := Derives.group ho hk (hinside.result hclosed)
      exact ⟨_, _, houter, hnext.operand hgroup, by simp⟩

/-- Closing parentheses. -/
def closings (count : Nat) : List Token := List.replicate count ⟨.closeParen, none⟩

theorem kind_of_mem_closings {count : Nat} {token : Token} (h : token ∈ closings count) :
    token.kind = .closeParen := by
  rw [List.eq_of_mem_replicate h]

/-- The end of the tokens closes the open groups as closing parentheses do. -/
theorem HaveRead.derives_closeAll {outer : List Group} {group : Group} {tokens : List Token}
    (h : HaveRead outer group tokens) (hc : (closeAll group outer).isComplete = true) :
    Derives .disjunction (tokens ++ closings outer.length) (closeAll group outer) := by
  induction outer generalizing group tokens with
  | nil =>
    obtain ⟨before, inside, hbefore, hinside, rfl⟩ := h
    cases hbefore
    have hclosed : group.isOpen = false := by
      simp_all [closeAll, Group.isComplete_result]
    simpa [closings, closeAll] using hinside.result hclosed
  | cons next outer ih =>
    have hopen : group.isOpen = false := by
      rw [isComplete_closeAll, Group.isComplete_result] at hc
      simp_all
    have hstep : Step ⟨.closeParen, none⟩ (next :: outer) group outer
        (next.operand group.result) := .leave rfl hopen
    have hcomplete : ((next.operand group.result).isComplete &&
        outer.all Group.isComplete) = true := by
      rw [closeAll, isComplete_closeAll, Group.isComplete_result] at hc
      simp_all
    have := ih (hstep.haveRead h hcomplete) hc
    simpa [closings, List.replicate_succ, closeAll] using this

/-- When no operand is missing in the result, what was read is derivable once the groups are closed
that the end of the tokens left open. -/
theorem derives_of_isComplete {outer : List Group} {group : Group} {before tokens : List Token}
    (h : HaveRead outer group before)
    (hc : (parseFrom outer group tokens).1.isComplete = true) :
    ∃ read count, tokens = read ++ (parseFrom outer group tokens).2 ∧
      (count = 0 ∨ (parseFrom outer group tokens).2 = []) ∧
      Derives .disjunction (before ++ read ++ closings count)
        (parseFrom outer group tokens).1 := by
  induction outer, group, tokens using reading_induction generalizing before with
  | finish outer group =>
    refine ⟨[], outer.length, rfl, Or.inr rfl, ?_⟩
    rw [List.append_nil]
    exact h.derives_closeAll hc
  | stop group token rest hk hclosed =>
    obtain ⟨_, inside, hbefore, hinside, rfl⟩ := h
    cases hbefore
    rw [parseFrom_stop hk hclosed]
    exact ⟨[], 0, rfl, Or.inl rfl, by simpa [closings] using hinside.result hclosed⟩
  | @step token outer group outer' group' rest hstep ih =>
    rw [parseFrom_step hstep] at hc ⊢
    obtain ⟨read, count, hsplit, hcount, hderives⟩ :=
      ih (hstep.haveRead h (isComplete_of_parseFrom hc)) hc
    refine ⟨token :: read, count, ?_, hcount, by simpa using hderives⟩
    rw [List.cons_append, ← hsplit]

/-! ## The law -/

/-- The number of tokens that the reader of a token list takes. -/
def tokensRead (tokens : List Token) : Nat := tokens.length - (parseAll tokens).2.length

/-- The tokens are those that were read and those that are left over. -/
theorem take_tokensRead (tokens : List Token) :
    tokens = tokens.take (tokensRead tokens) ++ (parseAll tokens).2 := by
  obtain ⟨read, hread⟩ := parseFrom_suffix [] {} tokens
  have hlength : tokensRead tokens = read.length := by
    have := congrArg List.length hread
    rw [List.length_append] at this
    unfold tokensRead parseAll
    omega
  calc tokens = read ++ (parseAll tokens).2 := hread.symm
    _ = tokens.take (tokensRead tokens) ++ (parseAll tokens).2 := by
      rw [hlength, ← hread, List.take_left]

/-- A derivation of the tokens that were read, with the open groups closed at the end of the
tokens, is a derivation of the result. -/
theorem parse_of_derives {tokens : List Token} {count : Nat} {e : Expr}
    (hcount : count = 0 ∨ tokensRead tokens = tokens.length)
    (h : Derives .disjunction (tokens.take (tokensRead tokens) ++ closings count) e) :
    parse tokens = e := by
  rcases parseFrom_rest [] {} tokens with hnil | ⟨token, rest, hrest, hk⟩
  · have hall : tokens.take (tokensRead tokens) = tokens := by
      have := take_tokensRead tokens
      rw [parseAll, hnil, List.append_nil] at this
      exact this.symm
    rw [hall] at h
    calc parse tokens = parse (tokens ++ closings count) :=
          (parseFrom_append_closings (fun _ => kind_of_mem_closings) [] {} tokens).symm
      _ = e := by rw [parse, parseAll_of_derives h]
  · have hsplit : tokens = tokens.take (tokensRead tokens) ++ token :: rest := by
      have := take_tokensRead tokens
      rwa [parseAll, hrest] at this
    have hzero : count = 0 := by
      rcases hcount with hzero | hlength
      · exact hzero
      · have := congrArg List.length hsplit
        rw [List.length_append, List.length_take, List.length_cons, hlength] at this
        omega
    subst hzero
    rw [closings, List.replicate_zero, List.append_nil] at h
    rw [parse, hsplit, parseAll_append_closing h hk]

/-- The result misses no operand exactly when the tokens that were read are derivable, with
closing parentheses behind them where the tokens end. The result is then the expression of that
derivation. A derivable token list is read to its end and has one expression alone. -/
theorem parse_isComplete_iff_derives (tokens : List Token) :
    ((parse tokens).isComplete = true ↔
      ∃ count e, (count = 0 ∨ tokensRead tokens = tokens.length) ∧
        Derives .disjunction (tokens.take (tokensRead tokens) ++ closings count) e) ∧
    (∀ count e, (count = 0 ∨ tokensRead tokens = tokens.length) →
      Derives .disjunction (tokens.take (tokensRead tokens) ++ closings count) e →
      parse tokens = e) ∧
    ∀ e, Derives .disjunction tokens e →
      tokensRead tokens = tokens.length ∧ parse tokens = e ∧
        ∀ other, Derives .disjunction tokens other → other = e := by
  refine ⟨⟨fun hc => ?_, ?_⟩, fun _ _ => parse_of_derives, fun e h => ?_⟩
  · obtain ⟨read, count, hsplit, hcount, hderives⟩ :=
      derives_of_isComplete ⟨[], [], .nil, Group.Reads.start, rfl⟩ hc
    have hread : tokens.take (tokensRead tokens) = read := by
      have := (take_tokensRead tokens).symm.trans hsplit
      exact List.append_cancel_right this
    refine ⟨count, parse tokens, ?_, ?_⟩
    · rcases hcount with hzero | hnil
      · exact Or.inl hzero
      · exact Or.inr (by rw [tokensRead, parseAll, hnil, List.length_nil, Nat.sub_zero])
    · rw [hread]
      exact hderives
  · rintro ⟨count, e, hcount, hderives⟩
    rw [parse_of_derives hcount hderives]
    exact hderives.isComplete
  · have hall := parseAll_of_derives h
    refine ⟨by rw [tokensRead, hall, List.length_nil, Nat.sub_zero], by rw [parse, hall], ?_⟩
    intro other hother
    have := hall.symm.trans (parseAll_of_derives hother)
    exact (Prod.mk.inj this).1.symm

end CorpusSearch.Query
