-- Queries without operators ask for all of their operands. A query of simple words asks for each of
-- the words in lower case; that a word stands twice makes no difference.
import CorpusSearch.Proofs.Query.Reading
import CorpusSearch.Proofs.Query.Repetitions
import CorpusSearch.Proofs.Query.Tokens
import CorpusSearch.Proofs.Text.Ascii
import CorpusSearch.Query.Compiled

namespace CorpusSearch.Query

/-! ## Operands -/

theorem holds_result_operand {group : Group} (hdisjunct : group.disjunct = none)
    (hnegations : group.negations = 0) (e : Expr) (text : Text) :
    (group.operand e).result.holds text = (group.result.holds text && e.holds text) := by
  obtain ⟨disjunct, conjunct, negations⟩ := group
  dsimp only at hdisjunct hnegations
  subst hdisjunct hnegations
  cases conjunct <;> simp [Group.result, Group.operand, Group.isOpen, Group.negate, Expr.holds]

/-- Whether a text meets a token that is an operand by itself. -/
def Token.holds (text : Text) (token : Token) : Bool :=
  token.operand?.all (Expr.holds text)

/-- Operands that are read into a group without operators are all asked for. -/
theorem holds_parseFrom_operands {tokens : List Token} {group : Group} {text : Text}
    (h : ∀ token ∈ tokens, token.operand?.isSome = true) (hdisjunct : group.disjunct = none)
    (hnegations : group.negations = 0) :
    (parseFrom [] group tokens).1.holds text =
      (group.result.holds text && tokens.all (Token.holds text)) := by
  induction tokens generalizing group with
  | nil => simp [parseFrom, closeAll]
  | cons token rest ih =>
    obtain ⟨e, he⟩ := Option.isSome_iff_exists.mp (h token (List.mem_cons_self ..))
    have hrest := @ih (group.operand e) (fun t ht => h t (List.mem_cons_of_mem _ ht)) hdisjunct rfl
    rw [parseFrom_step (.operand he), hrest, holds_result_operand hdisjunct hnegations,
      Bool.and_assoc, List.all_cons, Token.holds, he]
    rfl

theorem holds_parse_operands {tokens : List Token}
    (h : ∀ token ∈ tokens, token.operand?.isSome = true) (text : Text) :
    (parse tokens).holds text = tokens.all (Token.holds text) := by
  have hempty : ({} : Group).result = .always := rfl
  rw [parse, parseAll, holds_parseFrom_operands h rfl rfl, hempty, Expr.holds, Bool.true_and]

/-! ## Repeated tokens -/

theorem holds_parse_eraseDups {tokens : List Token}
    (h : ∀ token ∈ tokens, token.operand?.isSome = true) (text : Text) :
    (parse tokens.eraseDups).holds text = (parse tokens).holds text := by
  have herased : ∀ token ∈ tokens.eraseDups, token.operand?.isSome = true :=
    fun token htoken => h token (List.mem_eraseDups.mp htoken)
  rw [holds_parse_operands h, holds_parse_operands herased, all_eraseDups]

/-- Without synonyms the tokens stay as they are, but for repetitions. -/
theorem expand_nil (tokens : List Token) : expand [] tokens = tokens.eraseDups := by
  have hsame : withSynonyms [] = fun token => [token] := by
    funext token
    unfold withSynonyms
    split <;> rfl
  rw [expand, hsame, List.flatMap_singleton']

/-! ## Simple words -/

/-- A letter or digit of ASCII, an underscore or a hyphen. -/
def isSimpleChar (c : Char) : Bool := c.isAlphanum || c == '_' || c == '-'

/-- A word that every search reads as itself: it is made of simple characters, no minus sign
excludes it, and it is no operator, in capitals or not. -/
structure IsSimple (word : Text) : Prop where
  simple : ∀ c ∈ word, isSimpleChar c = true
  not_excluded : word.head? ≠ some '-'
  not_or : word.lower ≠ ['o', 'r']
  not_not : word.lower ≠ ['n', 'o', 't']

instance (word : Text) : Decidable (IsSimple word) :=
  decidable_of_iff
    (word.all isSimpleChar = true ∧ word.head? ≠ some '-' ∧ word.lower ≠ ['o', 'r'] ∧
      word.lower ≠ ['n', 'o', 't'])
    ⟨fun ⟨hsimple, hexcluded, hor, hnot⟩ =>
        ⟨List.all_eq_true.mp hsimple, hexcluded, hor, hnot⟩,
      fun h => ⟨List.all_eq_true.mpr h.simple, h.not_excluded, h.not_or, h.not_not⟩⟩

theorem lt_128_of_isSimpleChar {c : Char} (h : isSimpleChar c = true) : c.toNat < 128 := by
  simp only [isSimpleChar, Bool.or_eq_true, beq_iff_eq] at h
  rcases h with (halpha | rfl) | rfl
  · have hranges : (decide (65 ≤ c.val ∧ c.val ≤ 90) || (97 ≤ c.val && c.val ≤ 122) ||
        (48 ≤ c.val && c.val ≤ 57)) = true := halpha
    simp only [Bool.or_eq_true, Bool.and_eq_true, decide_eq_true_eq,
      UInt32.le_iff_toNat_le] at hranges
    rcases hranges with (⟨_, hlast⟩ | ⟨_, hlast⟩) | ⟨_, hlast⟩
    · exact Nat.lt_of_le_of_lt hlast (by decide)
    · exact Nat.lt_of_le_of_lt hlast (by decide)
    · exact Nat.lt_of_le_of_lt hlast (by decide)
  · decide
  · decide

theorem IsSimple.ascii {word : Text} (h : IsSimple word) : ∀ c ∈ word, c.toNat < 128 :=
  fun c hc => lt_128_of_isSimpleChar (h.simple c hc)

theorem IsSimple.ofWord {word : Text} (h : IsSimple word) :
    Token.ofWord word = ⟨.term, some word.lower⟩ := by
  have hcapitals : ∀ other : Text, word.upper = other → word.lower = other.map Char.toLower := by
    rintro other rfl
    exact (Text.map_toLower_upper h.ascii).symm
  have hor : word.upper ≠ ['O', 'R'] := fun heq => h.not_or (hcapitals _ heq)
  have hnot : word.upper ≠ ['N', 'O', 'T'] := fun heq => h.not_not (hcapitals _ heq)
  unfold Token.ofWord
  rw [if_neg hor, if_neg hnot]
  split
  · exact absurd rfl h.not_excluded
  · rw [Token.term, Text.normalize_of_ascii h.ascii]

/-! ## Queries of simple words -/

/-- The characters of a query of simple words are blanks and simple ones. -/
theorem isSimpleChar_of_mem {query : Text} {c : Char} (hc : c ∈ query)
    (h : ∀ word ∈ Text.wordsBy Text.isBlank query, IsSimple word) :
    Text.isBlank c = true ∨ isSimpleChar c = true := by
  cases hblank : Text.isBlank c with
  | true => exact Or.inl rfl
  | false =>
    obtain ⟨word, hword, hin⟩ := Text.exists_mem_wordsBy hc hblank
    exact Or.inr ((h word hword).simple c hin)

theorem tokenize_simple {query : Text}
    (h : ∀ word ∈ Text.wordsBy Text.isBlank query, IsSimple word) :
    tokenize query =
      (Text.wordsBy Text.isBlank query).map fun word => ⟨.term, some word.lower⟩ := by
  have hplain : ∀ c ∈ query, c ≠ '"' ∧ c ≠ '(' ∧ c ≠ ')' := by
    intro c hc
    have hsimple := isSimpleChar_of_mem hc h
    refine ⟨?_, ?_, ?_⟩ <;> rintro rfl <;> exact absurd hsimple (by decide)
  rw [tokenize_words hplain]
  exact List.map_congr_left fun word hword => (h word hword).ofWord

/-- Without synonyms a query of simple words asks for each of the words in lower case. -/
theorem strict_build_simple {query : Text}
    (h : ∀ word ∈ Text.wordsBy Text.isBlank query, IsSimple word) (text : Text) :
    (Compiled.build [] query).strict text =
      (Text.wordsBy Text.isBlank query).all fun word => word.lower.occursIn text := by
  have htree : (Compiled.build [] query).tree = parse (tokenize query).eraseDups :=
    congrArg parse (expand_nil _)
  have hoperands : ∀ token ∈ tokenize query, token.operand?.isSome = true := by
    rw [tokenize_simple h]
    intro token htoken
    obtain ⟨word, _, rfl⟩ := List.mem_map.mp htoken
    rfl
  rw [Compiled.strict, htree, holds_parse_eraseDups hoperands, holds_parse_operands hoperands,
    tokenize_simple h, List.all_map]
  rfl

end CorpusSearch.Query
