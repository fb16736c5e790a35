-- Plain texts: normal forms with their punctuation blanked out. Of the characters of a plain text,
-- those that are no blanks are word characters and hyphens that decompose to themselves.
import CorpusSearch.Match.Simple
import CorpusSearch.Proofs.Text.Decomposition
import CorpusSearch.Proofs.Text.Lower
import CorpusSearch.Proofs.Text.Normal
import Mathlib.Data.List.Basic

namespace CorpusSearch.Text

theorem markClass_of_isWord {c : Char} (h : isWord c = true) : markClass c = 0 := by
  have hapart : Apart Table.word (spans Table.marks) := by decide +kernel
  unfold markClass
  split
  · rfl
  · rename_i hfar
    have hword : inRanges Table.word c.toNat = true := by
      rwa [isWord, if_neg (by omega)] at h
    rw [hapart.rowOf?_eq_none (within_of_inRanges hword)]

end CorpusSearch.Text

namespace CorpusSearch.Match

open Text

/-! ## Plain characters -/

/-- A character of words that plain texts keep: it is a word character or a hyphen, and it
decomposes to itself. -/
def IsPlain (c : Char) : Prop := (isWord c = true ∨ c = '-') ∧ decomposeChar c = [c]

theorem plainChar_of_word {c : Char} (h : isWord c = true ∨ c = '-') : plainChar c = c := by
  unfold plainChar
  rw [if_pos]
  rcases h with hword | rfl
  · simp [hword]
  · simp

theorem word_of_plainChar {c : Char} (h : isWord (plainChar c) = true ∨ plainChar c = '-') :
    isWord c = true ∨ c = '-' := by
  unfold plainChar at h
  split at h
  · exact h
  · exact absurd h (by decide)

theorem map_plainChar_of_word {text : Text} (h : ∀ c ∈ text, isWord c = true ∨ c = '-') :
    text.map plainChar = text := by
  calc text.map plainChar = text.map id :=
        List.map_congr_left fun c hc => plainChar_of_word (h c hc)
    _ = text := List.map_id _

theorem IsPlain.markClass {c : Char} (h : IsPlain c) : markClass c = 0 := by
  rcases h.1 with hword | rfl
  · exact markClass_of_isWord hword
  · rfl

theorem isPlain_of_mem_plainText {c : Char} {text : Text} (h : c ∈ plainText text)
    (hblank : isBlank c = false) : IsPlain c := by
  obtain ⟨d, hd, hc⟩ := List.mem_map.mp h
  have hself : decomposeChar d = [d] := decomposeChar_of_mem_decompose hd
  unfold plainChar at hc
  split at hc
  · rename_i hkept
    subst hc
    refine ⟨?_, hself⟩
    simpa [hblank] using hkept
  · rw [← hc] at hblank
    exact absurd hblank (by decide)

theorem plainText_eq_lower {text : Text} (h : ∀ c ∈ text.lower, IsPlain c) :
    plainText text = text.lower := by
  rw [plainText, Text.normalize,
    decompose_of_starters (fun c hc => (h c hc).markClass) fun c hc => (h c hc).2]
  exact map_plainChar_of_word fun c hc => (h c hc).1

/-- A text without separators is its own plain form up to case exactly when its letters are plain in
lower case. -/
theorem plainText_eq_lower_iff {text : Text} (h : Uncut isSeparator text.lower) :
    plainText text = text.lower ↔ ∀ c ∈ text.lower, IsPlain c := by
  constructor
  · intro heq c hc
    have hblank : isBlank c = false := (Bool.or_eq_false_iff.mp (h c hc)).2
    exact isPlain_of_mem_plainText (heq ▸ hc) hblank
  · exact plainText_eq_lower

/-- The plain form of an excerpt stands in the plain form of the whole text. -/
theorem plainText_excerpt {before behind : Text} (hbefore : EndsBlank before)
    (hbehind : StartsBlank behind) (excerpt : Text) :
    plainText (before ++ excerpt ++ behind) =
      plainText before ++ plainText excerpt ++ plainText behind := by
  simp only [plainText, normalize_excerpt hbefore hbehind, List.map_append]

/-- A text of word characters and hyphens occurs in the plain form of a text exactly when it occurs
in the normal form: blanking punctuation out neither makes nor breaks such a part. -/
theorem occursIn_plainText {term : Text} (h : ∀ c ∈ term, isWord c = true ∨ c = '-')
    (text : Text) : term.occursIn (plainText text) = term.occursIn text.normalize := by
  rw [Bool.eq_iff_iff, occursIn_iff, occursIn_iff, plainText, List.infix_map_iff]
  constructor
  · rintro ⟨part, hpart, rfl⟩
    have hword : ∀ d ∈ part, isWord d = true ∨ d = '-' := fun d hd =>
      word_of_plainChar (h _ (List.mem_map_of_mem hd))
    rwa [map_plainChar_of_word hword]
  · intro hin
    exact ⟨term, hin, (map_plainChar_of_word h).symm⟩

/-! ## The terms of one word -/

theorem splitTerms_eq (query : Text) : splitTerms query = wordsBy isSeparator query.lower := rfl

theorem splitTerms_word {word : Text} (hne : word ≠ []) (h : Uncut isSeparator word) :
    splitTerms word = [word.lower] :=
  wordsBy_of_uncut (uncut_lower h) (lowerFrom_ne_nil false hne)

theorem uncut_separator {word : Text} (h : Uncut isBlank word) (hplus : '+' ∉ word) :
    Uncut isSeparator word := by
  intro c hc
  have hne : c ≠ '+' := by
    rintro rfl
    exact hplus hc
  simp [isSeparator, hne, h c hc]

/-- A word of a text occurs in the plain form of the text exactly when its own plain form is its
lower-case form. -/
theorem lower_occursIn_plainText_iff {text word : Text} (hword : word ∈ wordsBy isBlank text)
    (hplus : '+' ∉ word) :
    word.lower.occursIn (plainText text) = true ↔ plainText word = word.lower := by
  obtain ⟨_, huncut, before, behind, rfl, hbefore, hbehind⟩ := excerpt_of_mem_wordsBy hword
  rw [occursIn_iff]
  constructor
  · intro hin
    -- The lower-case word has no blank, so all of it stands among the plain characters.
    have hnoblank : Uncut isSeparator word.lower := uncut_lower (uncut_separator huncut hplus)
    apply plainText_eq_lower
    intro c hc
    have hblank : isBlank c = false := (Bool.or_eq_false_iff.mp (hnoblank c hc)).2
    exact isPlain_of_mem_plainText (hin.subset hc) hblank
  · intro heq
    rw [plainText_excerpt hbefore hbehind, heq]
    exact ⟨plainText before, plainText behind, rfl⟩

end CorpusSearch.Match
