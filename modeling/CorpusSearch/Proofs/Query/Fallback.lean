-- What is enough of a query when a text does not meet it strictly. The relaxed expression and the
-- needles are read off the tokens apart from each other; they agree, since every term and every
-- phrase of a query has a text.
import CorpusSearch.Proofs.Query.Expansion
import CorpusSearch.Proofs.Query.Segmentation
import CorpusSearch.Query.Compiled

namespace CorpusSearch.Query

variable {tokens : List Token} {token : Token} {text : Text}

/-! ## Expressions of alternatives -/

theorem holds_leaf (token : Token) : (Expr.leaf token).holds text = token.word.occursIn text := by
  unfold Expr.leaf
  split <;> rfl

theorem holds_foldl_or (leaves : List Expr) (e : Expr) :
    (leaves.foldl .or e).holds text = (e.holds text || leaves.any (Expr.holds text)) := by
  induction leaves generalizing e with
  | nil => simp
  | cons leaf leaves ih => rw [List.foldl_cons, ih, Expr.holds, List.any_cons, Bool.or_assoc]

/-- The relaxed expression asks for one of the terms and phrases if there are any. -/
theorem holds_anyOf : (anyOf tokens).holds text = true ↔
    tokens.filter Token.isPositive = [] ∨
      ∃ token ∈ tokens.filter Token.isPositive, token.word <:+: text := by
  unfold anyOf
  cases tokens.filter Token.isPositive with
  | nil => simp [Expr.holds]
  | cons first more =>
    simp [holds_foldl_or, holds_leaf, Text.occursIn_iff, Function.comp_def]

/-! ## Texts of terms and phrases -/

theorem mem_needlesOf {needle : Text} : needle ∈ needlesOf tokens ↔
    ∃ token ∈ tokens, token.isPositive = true ∧ token.text = some needle := by
  simp only [needlesOf, List.mem_eraseDups, List.mem_filterMap, List.mem_filter, and_assoc]

/-- Where every term and phrase has a text, the needles are these texts. -/
theorem needlesOf_eq (h : ∀ token ∈ tokens, token.isPositive = true → token.text.isSome = true) :
    needlesOf tokens = ((tokens.filter Token.isPositive).map Token.word).eraseDups := by
  have htext : ∀ token ∈ tokens.filter Token.isPositive, token.text = some token.word := by
    intro token hmem
    obtain ⟨htoken, hpositive⟩ := List.mem_filter.mp hmem
    obtain ⟨word, hword⟩ := Option.isSome_iff_exists.mp (h token htoken hpositive)
    rw [Token.word, hword, Option.getD_some]
  unfold needlesOf
  rw [List.filterMap_congr htext, ← List.filterMap_eq_map]
  rfl

/-- Where every term and phrase has a text, the relaxed expression holds of a text exactly when
there is no needle or one occurs in it. -/
theorem holds_anyOf_iff_needles
    (h : ∀ token ∈ tokens, token.isPositive = true → token.text.isSome = true) :
    (anyOf tokens).holds text = true ↔
      needlesOf tokens = [] ∨ ∃ needle ∈ needlesOf tokens, needle <:+: text := by
  rw [holds_anyOf, needlesOf_eq h, eraseDups_eq_nil_iff, List.map_eq_nil_iff]
  simp only [List.mem_eraseDups, List.mem_map, exists_exists_and_eq_and]

theorem Segment.Means.isSome_text {part : Segment} (h : part.Means token)
    (hpositive : token.isPositive = true) : token.text.isSome = true := by
  cases h with
  | quoted | unclosed | term => rfl
  | openParen | closeParen | or | not | excluded => cases hpositive

theorem isSome_text_of_mem_expand {table : Synonyms} {query : Text}
    (h : token ∈ expand table (tokenize query)) (hpositive : token.isPositive = true) :
    token.text.isSome = true := by
  rcases (mem_expand table).mp h with htoken | ⟨other, -, -, synonym, -, rfl⟩
  · obtain ⟨part, -, hmeans⟩ := exists_means_of_mem_tokenize htoken
    exact hmeans.isSome_text hpositive
  · rfl

/-! ## The law -/

/-- The relaxed expression of a query holds of a text exactly when the query has no needles or one
of them occurs in the text; and the needles are the texts of the terms and phrases of the query. -/
theorem relaxed_build_iff_needles (table : Synonyms) (query text : Text) :
    let compiled := Compiled.build table query
    (compiled.relaxed text = true ↔
      compiled.needles = [] ∨ ∃ needle ∈ compiled.needles, needle <:+: text) ∧
    ∀ needle, needle ∈ compiled.needles ↔
      ∃ token ∈ compiled.tokens, token.isPositive = true ∧ token.text = some needle :=
  ⟨holds_anyOf_iff_needles fun _ => isSome_text_of_mem_expand, fun _ => mem_needlesOf⟩

-- Two quotation marks are a phrase that occurs in every text.
example : (Compiled.build [] "tax \"\"").needles = ["tax".toList, []] := by decide

end CorpusSearch.Query
