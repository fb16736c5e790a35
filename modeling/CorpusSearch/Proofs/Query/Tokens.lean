-- The tokens of a query text, read off its plainest parts: a blank is no token, a quoted text is
-- one phrase, and a longest run of other characters is the token of a word.
import CorpusSearch.Proofs.Text.Words
import CorpusSearch.Query.Segment

namespace CorpusSearch.Query

/-! ## Segments -/

/-- Characters that do not end a word join the word that is being read. -/
theorem segmentsFrom_inWord {word : Text} (h : Text.Uncut Reading.endsWord word)
    (read rest : Text) : segmentsFrom (.inWord read) (word ++ rest) =
      segmentsFrom (.inWord (word.reverse ++ read)) rest := by
  induction word generalizing read with
  | nil => rfl
  | cons c word ih =>
    have hc : Reading.endsWord c = false := h c (List.mem_cons_self ..)
    have hrest := ih (fun d hd => h d (List.mem_cons_of_mem _ hd)) (c :: read)
    rw [List.cons_append, segmentsFrom, Reading.step]
    simpa [hc] using hrest

theorem start_of_not_endsWord {c : Char} (hc : Reading.endsWord c = false) :
    Reading.start c = ([], .inWord [c]) := by
  simp only [Reading.endsWord, Bool.or_eq_false_iff, decide_eq_false_iff_not] at hc
  simp [Reading.start, hc]

theorem segmentsFrom_between {word : Text} (h : Text.Uncut Reading.endsWord word)
    (hne : word ≠ []) (rest : Text) :
    segmentsFrom .between (word ++ rest) = segmentsFrom (.inWord word.reverse) rest := by
  obtain ⟨c, word, rfl⟩ := List.exists_cons_of_ne_nil hne
  have hc := start_of_not_endsWord (h c (List.mem_cons_self ..))
  have hword := segmentsFrom_inWord (fun d hd => h d (List.mem_cons_of_mem _ hd)) [c] rest
  rw [List.cons_append, segmentsFrom, Reading.step, hc]
  simpa using hword

theorem segmentsFrom_inQuote {inside : Text} (h : '"' ∉ inside) (read rest : Text) :
    segmentsFrom (.inQuote read) (inside ++ '"' :: rest) =
      .quoted (read.reverse ++ inside) :: segmentsFrom .between rest := by
  induction inside generalizing read with
  | nil => simp [segmentsFrom, Reading.step]
  | cons c inside ih =>
    have hc : c ≠ '"' := by
      rintro rfl
      exact h (List.mem_cons_self ..)
    have hrest := ih (fun hin => h (List.mem_cons_of_mem _ hin)) (c :: read)
    rw [List.cons_append, segmentsFrom, Reading.step]
    simpa [hc] using hrest

/-- A quotation mark without a partner takes in the rest of the text. -/
theorem segmentsFrom_inQuote_end {inside : Text} (h : '"' ∉ inside) (read : Text) :
    segmentsFrom (.inQuote read) inside = [.unclosed (read.reverse ++ inside)] := by
  induction inside generalizing read with
  | nil => simp [segmentsFrom, Reading.finish]
  | cons c inside ih =>
    have hc : c ≠ '"' := by
      rintro rfl
      exact h (List.mem_cons_self ..)
    have hrest := ih (fun hin => h (List.mem_cons_of_mem _ hin)) (c :: read)
    rw [segmentsFrom, Reading.step]
    simpa [hc] using hrest

theorem segments_blank {c : Char} (hc : Text.isBlank c = true) (rest : Text) :
    segments (c :: rest) = .blank c :: segments rest := by
  simp [segments, segmentsFrom, Reading.step, Reading.start, hc]

theorem segments_openParen (rest : Text) : segments ('(' :: rest) = .openParen :: segments rest :=
  rfl

theorem segments_closeParen (rest : Text) :
    segments (')' :: rest) = .closeParen :: segments rest := rfl

theorem segments_quoted {inside : Text} (h : '"' ∉ inside) (rest : Text) :
    segments ('"' :: (inside ++ '"' :: rest)) = .quoted inside :: segments rest := by
  have hquote : Reading.start '"' = ([], .inQuote []) := rfl
  rw [segments, segmentsFrom, Reading.step, hquote]
  simp [segmentsFrom_inQuote h, segments]

/-- A quotation mark without a partner is a segment with all that follows it. -/
theorem segments_unclosed {inside : Text} (h : '"' ∉ inside) :
    segments ('"' :: inside) = [.unclosed inside] := by
  have hquote : Reading.start '"' = ([], .inQuote []) := rfl
  rw [segments, segmentsFrom, Reading.step, hquote]
  simp [segmentsFrom_inQuote_end h]

/-- A word is a segment in front of a character that ends it and at the end of the text. -/
theorem segments_word {word : Text} (h : Text.Uncut Reading.endsWord word) (hne : word ≠ [])
    (rest : Text) (hrest : ∀ c, rest.head? = some c → Reading.endsWord c = true) :
    segments (word ++ rest) = .word word :: segments rest := by
  rw [segments, segmentsFrom_between h hne]
  cases rest with
  | nil => simp [segmentsFrom, Reading.finish, segments]
  | cons c rest => simp [segmentsFrom, Reading.step, hrest c rfl, segments]

/-! ## Tokens -/

@[simp] theorem tokenize_nil : tokenize [] = [] := rfl

theorem tokenize_blank {c : Char} (hc : Text.isBlank c = true) (rest : Text) :
    tokenize (c :: rest) = tokenize rest := by
  rw [tokenize, segments_blank hc]
  rfl

theorem tokenize_openParen (rest : Text) :
    tokenize ('(' :: rest) = ⟨.openParen, none⟩ :: tokenize rest := rfl

theorem tokenize_closeParen (rest : Text) :
    tokenize (')' :: rest) = ⟨.closeParen, none⟩ :: tokenize rest := rfl

theorem tokenize_quoted {inside : Text} (h : '"' ∉ inside) (rest : Text) :
    tokenize ('"' :: (inside ++ '"' :: rest)) = .phrase inside :: tokenize rest := by
  rw [tokenize, segments_quoted h]
  rfl

theorem tokenize_word {word : Text} (h : Text.Uncut Reading.endsWord word) (hne : word ≠ []) :
    tokenize word = [.ofWord word] := by
  have hsegments := segments_word h hne [] (by simp)
  rw [List.append_nil] at hsegments
  rw [tokenize, hsegments]
  rfl

theorem tokenize_word_append {word : Text} (h : Text.Uncut Reading.endsWord word)
    (hne : word ≠ []) {c : Char} (hc : Reading.endsWord c = true) (rest : Text) :
    tokenize (word ++ c :: rest) = .ofWord word :: tokenize (c :: rest) := by
  have hends : ∀ d, (c :: rest).head? = some d → Reading.endsWord d = true := by
    rintro d hd
    cases hd
    exact hc
  rw [tokenize, segments_word h hne _ hends]
  rfl

theorem tokenize_word_blank {word : Text} (h : Text.Uncut Reading.endsWord word)
    (hne : word ≠ []) {c : Char} (hc : Text.isBlank c = true) (rest : Text) :
    tokenize (word ++ c :: rest) = .ofWord word :: tokenize rest := by
  have hends : Reading.endsWord c = true := by simp [Reading.endsWord, hc]
  rw [tokenize_word_append h hne hends, tokenize_blank hc]

/-- The tokens of a text without quotation marks and parentheses are those of its words. -/
theorem tokenize_words {text : Text} (h : ∀ c ∈ text, c ≠ '"' ∧ c ≠ '(' ∧ c ≠ ')') :
    tokenize text = (Text.wordsBy Text.isBlank text).map .ofWord := by
  have hends : ∀ word : Text, (∀ c ∈ word, c ∈ text) → Text.Uncut Text.isBlank word →
      Text.Uncut Reading.endsWord word := by
    intro word hin hword c hc
    simp [Reading.endsWord, hword c hc, h c (hin c hc)]
  induction text using Text.words_induction Text.isBlank with
  | word w hw =>
    cases w with
    | nil => rfl
    | cons c w =>
      rw [tokenize_word (hends _ (fun _ hc => hc) hw) (by simp),
        Text.wordsBy_of_uncut hw (by simp)]
      rfl
  | more w c rest hw hc ih =>
    have hrest := ih (fun d hd => h d (by simp [hd]))
      fun word hin => hends word fun d hd => by simp [hin d hd]
    rw [Text.wordsBy_append_cut hc, List.map_append, ← hrest]
    cases w with
    | nil => exact tokenize_blank hc rest
    | cons d w =>
      rw [tokenize_word_blank (hends _ (fun e he => List.mem_append_left _ he) hw) (by simp) hc,
        Text.wordsBy_of_uncut hw (by simp)]
      rfl

end CorpusSearch.Query
