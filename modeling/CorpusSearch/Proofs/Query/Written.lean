-- Expressions written as queries. An operand stands in parentheses where it binds looser than its
-- place, and only there. What is written is read as the expression again, and no query that is read
-- as this expression has fewer parentheses.
import CorpusSearch.Proofs.Query.Tokens
import CorpusSearch.Proofs.Query.WellFormed

namespace CorpusSearch.Query

/-! ## Written expressions -/

/-- Items between two brackets, if brackets are needed. -/
def bracketed {α : Type} (opening closing : α) (needed : Bool) (items : List α) : List α :=
  if needed then opening :: (items ++ [closing]) else items

namespace Expr

/-- An expression as it is written where the grammar has a phrase of a level. -/
def writtenAt (place : Level) : Expr → Text
  | .always => []
  | .term word => word
  | .phrase inside => '"' :: (inside ++ ['"'])
  | .not child => "NOT".toList ++ ' ' :: child.writtenAt .unary
  | .and left right =>
    bracketed '(' ')' (place == .unary)
      (left.writtenAt .conjunction ++ ' ' :: right.writtenAt .unary)
  | .or left right =>
    bracketed '(' ')' (place != .disjunction)
      (left.writtenAt .disjunction ++ ' ' :: ("OR".toList ++ ' ' :: right.writtenAt .conjunction))

def written (e : Expr) : Text := e.writtenAt .disjunction

def tokensAt (place : Level) : Expr → List Token
  | .always => []
  | .term word => [⟨.term, some word⟩]
  | .phrase inside => [⟨.phrase, some inside⟩]
  | .not child => ⟨.notOp, none⟩ :: child.tokensAt .unary
  | .and left right =>
    bracketed ⟨.openParen, none⟩ ⟨.closeParen, none⟩ (place == .unary)
      (left.tokensAt .conjunction ++ right.tokensAt .unary)
  | .or left right =>
    bracketed ⟨.openParen, none⟩ ⟨.closeParen, none⟩ (place != .disjunction)
      (left.tokensAt .disjunction ++ ⟨.orOp, none⟩ :: right.tokensAt .conjunction)

end Expr

/-- A word that a query reads as a term of just this word: it is in normal form, nothing in it ends
a word, no minus sign excludes it, and it is no operator, in capitals or not. -/
structure IsTermWord (word : Text) : Prop where
  nonempty : word ≠ []
  normal : word.normalize = word
  unbroken : ∀ c ∈ word, Text.isBlank c = false ∧ c ≠ '"' ∧ c ≠ '(' ∧ c ≠ ')'
  not_excluded : word.head? ≠ some '-'
  not_or : word.upper ≠ ['O', 'R']
  not_not : word.upper ≠ ['N', 'O', 'T']

/-- A text that a query can quote: it is in normal form and has no quotation mark. -/
structure IsPhraseText (inside : Text) : Prop where
  normal : inside.normalize = inside
  unquoted : '"' ∉ inside

/-- An expression that can be written: no operand is missing, and its texts can stand in a query. -/
def Expr.IsWritable : Expr → Prop
  | .always => False
  | .term word => IsTermWord word
  | .phrase inside => IsPhraseText inside
  | .not child => child.IsWritable
  | .and left right => left.IsWritable ∧ right.IsWritable
  | .or left right => left.IsWritable ∧ right.IsWritable

instance instDecidableIsTermWord (word : Text) : Decidable (IsTermWord word) :=
  decidable_of_iff
    (word ≠ [] ∧ word.normalize = word ∧
      (word.all fun c => decide (Text.isBlank c = false ∧ c ≠ '"' ∧ c ≠ '(' ∧ c ≠ ')')) = true ∧
      word.head? ≠ some '-' ∧ word.upper ≠ ['O', 'R'] ∧ word.upper ≠ ['N', 'O', 'T'])
    (by
      simp only [List.all_eq_true, decide_eq_true_eq]
      exact ⟨fun ⟨hne, hnormal, hunbroken, hexcluded, hor, hnot⟩ =>
          ⟨hne, hnormal, hunbroken, hexcluded, hor, hnot⟩,
        fun h => ⟨h.nonempty, h.normal, h.unbroken, h.not_excluded, h.not_or, h.not_not⟩⟩)

instance instDecidableIsPhraseText (inside : Text) : Decidable (IsPhraseText inside) :=
  decidable_of_iff (inside.normalize = inside ∧ '"' ∉ inside)
    ⟨fun ⟨hnormal, hquote⟩ => ⟨hnormal, hquote⟩, fun h => ⟨h.normal, h.unquoted⟩⟩

instance instDecidableIsWritable : (e : Expr) → Decidable e.IsWritable
  | .always => inferInstanceAs (Decidable False)
  | .term word => inferInstanceAs (Decidable (IsTermWord word))
  | .phrase inside => inferInstanceAs (Decidable (IsPhraseText inside))
  | .not child => instDecidableIsWritable child
  | .and left right =>
    @instDecidableAnd _ _ (instDecidableIsWritable left) (instDecidableIsWritable right)
  | .or left right =>
    @instDecidableAnd _ _ (instDecidableIsWritable left) (instDecidableIsWritable right)

theorem Expr.IsWritable.isComplete {e : Expr} (h : e.IsWritable) : e.isComplete = true := by
  induction e with
  | always => cases h
  | term => rfl
  | phrase => rfl
  | not child ih => exact ih h
  | and left right ihl ihr => simp [Expr.isComplete, ihl h.1, ihr h.2]
  | or left right ihl ihr => simp [Expr.isComplete, ihl h.1, ihr h.2]

/-! ## Texts and their tokens -/

/-- A text that is read as tokens, whatever text follows that ends a word. -/
def ReadsAs (text : Text) (tokens : List Token) : Prop :=
  ∀ rest, (∀ c, rest.head? = some c → Reading.endsWord c = true) →
    tokenize (text ++ rest) = tokens ++ tokenize rest

namespace ReadsAs

theorem word {word : Text} (h : Text.Uncut Reading.endsWord word) (hne : word ≠ []) :
    ReadsAs word [.ofWord word] := by
  intro rest hrest
  cases rest with
  | nil => rw [List.append_nil, tokenize_word h hne, tokenize_nil, List.append_nil]
  | cons c rest => exact tokenize_word_append h hne (hrest c rfl) rest

theorem term {word : Text} (h : IsTermWord word) : ReadsAs word [⟨.term, some word⟩] := by
  have huncut : Text.Uncut Reading.endsWord word := by
    intro c hc
    simp [Reading.endsWord, h.unbroken c hc]
  have htoken : Token.ofWord word = ⟨.term, some word⟩ := by
    unfold Token.ofWord
    rw [if_neg h.not_or, if_neg h.not_not]
    split
    · exact absurd rfl h.not_excluded
    · rw [Token.term, h.normal]
  rw [← htoken]
  exact ReadsAs.word huncut h.nonempty

theorem phrase {inside : Text} (h : IsPhraseText inside) :
    ReadsAs ('"' :: (inside ++ ['"'])) [⟨.phrase, some inside⟩] := by
  intro rest _
  have htoken : Token.phrase inside = ⟨.phrase, some inside⟩ := by rw [Token.phrase, h.normal]
  have htokens := tokenize_quoted h.unquoted rest
  rw [htoken] at htokens
  simpa using htokens

theorem spaced {left right : Text} {before behind : List Token} (hl : ReadsAs left before)
    (hr : ReadsAs right behind) : ReadsAs (left ++ ' ' :: right) (before ++ behind) := by
  intro rest hrest
  have hspace : ∀ c, (' ' :: (right ++ rest)).head? = some c → Reading.endsWord c = true := by
    intro c hc
    cases hc
    rfl
  rw [List.append_assoc, List.cons_append, hl _ hspace, tokenize_blank rfl, hr rest hrest,
    List.append_assoc]

theorem bracketed {text : Text} {tokens : List Token} (h : ReadsAs text tokens) (needed : Bool) :
    ReadsAs (bracketed '(' ')' needed text)
      (bracketed ⟨.openParen, none⟩ ⟨.closeParen, none⟩ needed tokens) := by
  cases needed with
  | false => exact h
  | true =>
    intro rest _
    have hclose : ∀ c, (')' :: rest).head? = some c → Reading.endsWord c = true := by
      intro c hc
      cases hc
      rfl
    have hinside := h (')' :: rest) hclose
    simp only [Query.bracketed, if_true, List.cons_append, List.append_assoc, List.nil_append]
    rw [tokenize_openParen, hinside, tokenize_closeParen]

end ReadsAs

theorem readsAs_tokensAt {e : Expr} (h : e.IsWritable) (place : Level) :
    ReadsAs (e.writtenAt place) (e.tokensAt place) := by
  have hnot : ReadsAs "NOT".toList [⟨.notOp, none⟩] :=
    ReadsAs.word (by decide) (by decide)
  have hor : ReadsAs "OR".toList [⟨.orOp, none⟩] :=
    ReadsAs.word (by decide) (by decide)
  induction e generalizing place with
  | always => cases h
  | term word => exact .term h
  | phrase inside => exact .phrase h
  | not child ih => exact hnot.spaced (ih h .unary)
  | and left right ihl ihr =>
    exact ((ihl h.1 .conjunction).spaced (ihr h.2 .unary)).bracketed _
  | or left right ihl ihr =>
    exact ((ihl h.1 .disjunction).spaced (hor.spaced (ihr h.2 .conjunction))).bracketed _

theorem tokenize_written {e : Expr} (h : e.IsWritable) :
    tokenize e.written = e.tokensAt .disjunction := by
  have := readsAs_tokensAt h .disjunction [] (fun c hc => nomatch hc)
  rwa [List.append_nil, tokenize_nil, List.append_nil] at this

/-! ## The tokens are derivable -/

theorem Derives.of_unary {tokens : List Token} {e : Expr} (h : Derives .unary tokens e)
    (place : Level) : Derives place tokens e := by
  cases place with
  | disjunction => exact .disjunction_of_conjunction (.conjunction_of_unary h)
  | conjunction => exact .conjunction_of_unary h
  | unary => exact h

theorem derives_tokensAt {e : Expr} (h : e.isComplete = true) (place : Level) :
    Derives place (e.tokensAt place) e := by
  induction e generalizing place with
  | always => cases h
  | term word => exact (Derives.term rfl).of_unary place
  | phrase inside => exact (Derives.phrase rfl).of_unary place
  | not child ih => exact (Derives.negation rfl (ih h .unary)).of_unary place
  | and left right ihl ihr =>
    obtain ⟨hl, hr⟩ := Bool.and_eq_true_iff.mp h
    have hand := (ihl hl .conjunction).conjunction_and (ihr hr .unary)
    cases place with
    | disjunction => exact .disjunction_of_conjunction hand
    | conjunction => exact hand
    | unary => exact .group rfl rfl (.disjunction_of_conjunction hand)
  | or left right ihl ihr =>
    obtain ⟨hl, hr⟩ := Bool.and_eq_true_iff.mp h
    have hkind : (⟨.orOp, none⟩ : Token).kind = .orOp := rfl
    have hor := (ihl hl .disjunction).disjunction_or hkind (ihr hr .conjunction)
    cases place with
    | disjunction => exact hor
    | conjunction => exact (Derives.group rfl rfl hor).of_unary .conjunction
    | unary => exact .group rfl rfl hor

/-! ## The fewest parentheses -/

/-- The number of opening parentheses among tokens. -/
def openings (tokens : List Token) : Nat := tokens.countP fun token => token.kind = .openParen

@[simp] theorem openings_nil : openings [] = 0 := rfl

@[simp] theorem openings_append (tokens others : List Token) :
    openings (tokens ++ others) = openings tokens + openings others := List.countP_append

@[simp] theorem openings_cons (token : Token) (tokens : List Token) :
    openings (token :: tokens) =
      openings tokens + if token.kind = .openParen then 1 else 0 := by
  simp [openings, List.countP_cons]

@[simp] theorem openings_bracketed (needed : Bool) (tokens : List Token) :
    openings (bracketed ⟨.openParen, none⟩ ⟨.closeParen, none⟩ needed tokens) =
      openings tokens + if needed then 1 else 0 := by
  cases needed <;> simp [bracketed]

/-- The closer the place of an expression binds, the more parentheses it is written with, but never
more than one pair. -/
theorem openings_tokensAt (e : Expr) :
    openings (e.tokensAt .disjunction) ≤ openings (e.tokensAt .conjunction) ∧
      openings (e.tokensAt .conjunction) ≤ openings (e.tokensAt .unary) ∧
      openings (e.tokensAt .unary) ≤ openings (e.tokensAt .disjunction) + 1 := by
  cases e <;> simp [Expr.tokensAt]

/-- Operands that join an expression one after another bring no more parentheses than the tokens of
each one have. -/
theorem openings_foldl_le {α : Type} (place : Level) (join : Expr → α → Expr)
    (tokensOf : α → List Token) {more : List α}
    (h : ∀ part ∈ more, ∀ left, openings ((join left part).tokensAt place) ≤
      openings (left.tokensAt place) + openings (tokensOf part)) (e : Expr) :
    openings ((more.foldl join e).tokensAt place) ≤
      openings (e.tokensAt place) + openings (more.flatMap tokensOf) := by
  induction more generalizing e with
  | nil => exact Nat.le_refl _
  | cons part more ih =>
    have hfirst := h part (List.mem_cons_self ..) e
    have hrest := ih (fun other hother => h other (List.mem_cons_of_mem _ hother)) (join e part)
    rw [List.foldl_cons, List.flatMap_cons, openings_append]
    omega

/-- Tokens that derive an expression have no fewer parentheses than those it is written with. -/
theorem Derives.openings_le {level : Level} {tokens : List Token} {e : Expr}
    (h : Derives level tokens e) : openings (e.tokensAt level) ≤ openings tokens := by
  induction h with
  | term => simp [Expr.tokensAt]
  | phrase => simp [Expr.tokensAt]
  | excluded => simp [Expr.tokensAt]
  | negation hk _ ih => simpa [Expr.tokensAt, hk] using ih
  | @group opening closing tokens e ho hclose _ ih =>
    have hone := (openings_tokensAt e).2.2
    simp only [openings_cons, openings_append, ho, if_true]
    omega
  | @conjunction tokens e more _ _ ih ihmore =>
    have hfirst := (openings_tokensAt e).2.1
    have hpart : ∀ part ∈ more, ∀ left : Expr,
        openings ((Expr.and left part.2).tokensAt .conjunction) ≤
          openings (left.tokensAt .conjunction) + openings part.1 := by
      intro part hpart left
      simpa [Expr.tokensAt] using ihmore part hpart
    have hmore := openings_foldl_le .conjunction
      (fun left (part : List Token × Expr) => .and left part.2) (fun part => part.1) hpart e
    rw [openings_append]
    omega
  | @disjunction tokens e more _ hops _ ih ihmore =>
    have hfirst := (openings_tokensAt e).1
    have hpart : ∀ part ∈ more, ∀ left : Expr,
        openings ((Expr.or left part.2.2).tokensAt .disjunction) ≤
          openings (left.tokensAt .disjunction) + openings (part.1 :: part.2.1) := by
      intro part hpart left
      simpa [Expr.tokensAt, hops part hpart] using ihmore part hpart
    have hmore := openings_foldl_le .disjunction
      (fun left (part : Token × List Token × Expr) => .or left part.2.2)
      (fun part => part.1 :: part.2.1) hpart e
    rw [openings_append]
    omega

/-- Tokens that are read as an expression have no fewer parentheses than those it is written
with. -/
theorem openings_le_of_parse {tokens : List Token} {e : Expr} (hc : e.isComplete = true)
    (h : parse tokens = e) : openings (e.tokensAt .disjunction) ≤ openings tokens := by
  subst h
  obtain ⟨read, count, hsplit, _, hderives⟩ :=
    derives_of_isComplete ⟨[], [], .nil, Group.Reads.start, rfl⟩ hc
  have hclosings : openings (closings count) = 0 := by
    refine List.countP_eq_zero.mpr fun token htoken => ?_
    simp [kind_of_mem_closings htoken]
  calc openings ((parse tokens).tokensAt .disjunction)
      ≤ openings ([] ++ read ++ closings count) := hderives.openings_le
    _ = openings read := by simp [hclosings]
    _ ≤ openings (read ++ (parseFrom [] {} tokens).2) := by simp
    _ = openings tokens := by rw [← hsplit]

/-! ## The law -/

/-- A written expression is read as the expression again, and no query that is read as this
expression has fewer parentheses. -/
theorem parse_tokenize_written {e : Expr} (h : e.IsWritable) :
    parse (tokenize e.written) = e ∧
      ∀ query, parse (tokenize query) = e →
        openings (tokenize e.written) ≤ openings (tokenize query) := by
  rw [tokenize_written h]
  constructor
  · rw [parse, parseAll_of_derives (derives_tokensAt h.isComplete .disjunction)]
  · intro query hquery
    exact openings_le_of_parse h.isComplete hquery

/-- Operands on the right keep their parentheses, and those on the left lose them. -/
theorem parse_tokenize_written_estate :
    let left : Expr := .or (.and (.term "trust") (.not (.or (.phrase "re (beddoe") (.term "law"))))
      (.term "cafe\u0301")
    let right : Expr := .or (.term "estate") (.and (.term "will") (.and (.term "x-") (.phrase [])))
    (Expr.or left right).IsWritable ∧
      (Expr.or left right).written =
        "trust NOT (\"re (beddoe\" OR law) OR cafe\u0301 OR (estate OR will (x- \"\"))".toList ∧
      parse (tokenize (Expr.or left right).written) = .or left right := by
  intro left right
  have h : (Expr.or left right).IsWritable := by decide +kernel
  exact ⟨h, by decide, (parse_tokenize_written h).1⟩

end CorpusSearch.Query
