-- A quoted excerpt finds its text. The query that an excerpt between quotation marks makes holds of
-- every text in which the excerpt stands between blanks or ends, although the excerpt and the text
-- are brought into normal form apart from each other.
import CorpusSearch.Proofs.Query.Tokens
import CorpusSearch.Proofs.Text.Normal
import CorpusSearch.Query.Compiled

namespace CorpusSearch.Query

theorem expand_phrase (table : Synonyms) (inside : Text) :
    expand table [.phrase inside] = [.phrase inside] := by
  simp [expand, withSynonyms, Token.phrase, List.eraseDups_cons]

/-- The query of a quoted text is one phrase, whatever the synonyms are. -/
theorem tree_build_quoted (table : Synonyms) {inside : Text} (h : '"' ∉ inside) :
    (Compiled.build table ('"' :: (inside ++ ['"']))).tree = .phrase inside.normalize := by
  unfold Compiled.build
  simp only [tokenize_quoted h [], tokenize_nil, expand_phrase]
  rfl

/-- The query of a quoted excerpt holds of the normal form of its text, since a blank divides the
normal form of a text into the normal forms of its parts. -/
theorem strict_build_quoted_excerpt (table : Synonyms) {before excerpt behind : Text}
    (hquote : '"' ∉ excerpt) (hbefore : Text.EndsBlank before)
    (hbehind : Text.StartsBlank behind) :
    (Compiled.build table ('"' :: (excerpt ++ ['"']))).strict
        (Text.normalize (before ++ excerpt ++ behind)) = true ∧
      ∀ (left right : Text) (s : Char), Text.isBlank s = true →
        Text.normalize (left ++ [s] ++ right) =
          left.normalize ++ Text.normalize [s] ++ right.normalize := by
  constructor
  · rw [Compiled.strict, tree_build_quoted table hquote, Expr.holds, Text.occursIn_iff,
      Text.normalize_excerpt hbefore hbehind]
    exact ⟨before.normalize, behind.normalize, rfl⟩
  · intro left right s hs
    rw [List.append_assoc, List.singleton_append, Text.normalize_append_blank left right hs,
      List.append_assoc]

/-- The excerpt ends in a final sigma and the text goes on with an accent behind a blank. -/
theorem strict_build_quoted_odos :
    '"' ∉ "Η ΟΔΟΣ".toList ∧ Text.EndsBlank "É ".toList ∧ Text.StartsBlank " \u0301ΟΔΟΣ".toList ∧
      (Compiled.build .default "\"Η ΟΔΟΣ\"").strict
        (Text.normalize "É Η ΟΔΟΣ \u0301ΟΔΟΣ") = true := by
  have hquote : '"' ∉ "Η ΟΔΟΣ".toList := by decide
  have hbefore : Text.EndsBlank "É ".toList := by
    intro c hc
    cases hc
    rfl
  have hbehind : Text.StartsBlank " \u0301ΟΔΟΣ".toList := by
    intro c hc
    cases hc
    rfl
  exact ⟨hquote, hbefore, hbehind, (strict_build_quoted_excerpt .default hquote hbefore hbehind).1⟩

end CorpusSearch.Query
