-- Query texts joined by spaces. A blank ends whatever is being read, but for a quoted text; so the
-- tokens of two texts joined by a space are the tokens of the one and then those of the other
-- exactly when every quotation mark of the first text has a partner.
import Mathlib.Algebra.Group.Nat.Even
import CorpusSearch.Proofs.Query.Tokens
import CorpusSearch.Proofs.Text.Normal

namespace CorpusSearch.Query

/-! ## Quotation marks that wait -/

namespace Reading

/-- How many quotation marks wait for their partner. -/
def openQuotes : Reading → Nat
  | .between => 0
  | .inWord _ => 0
  | .inQuote _ => 1

/-- A quotation mark waits or is the partner of the one that waited; no other character counts. -/
theorem openQuotes_step (c : Char) (reading : Reading) :
    (reading.step c).2.openQuotes =
      if c = '"' then 1 - reading.openQuotes else reading.openQuotes := by
  have hstart : (start c).2.openQuotes = if c = '"' then 1 else 0 := by
    by_cases hquote : c = '"'
    · subst hquote; rfl
    · unfold start
      rw [if_neg hquote]
      split_ifs <;> rfl
  cases reading with
  | between => rw [step, hstart]; rfl
  | inWord read =>
    rw [step]
    split
    · exact hstart.trans (by rfl)
    · rename_i hword
      rw [if_neg]
      · rfl
      · rintro rfl
        exact hword (by decide)
  | inQuote read =>
    rw [step]
    by_cases hquote : c = '"' <;> simp [hquote, openQuotes]

/-- Whether the quotation marks of a reading and those to come find partners is the same before and
behind every character. -/
theorem even_step (c : Char) (reading : Reading) (rest : Text) :
    Even ((reading.step c).2.openQuotes + rest.count '"') ↔
      Even (reading.openQuotes + (c :: rest).count '"') := by
  have hle : reading.openQuotes ≤ 1 := by cases reading <;> simp [openQuotes]
  rw [openQuotes_step, List.count_cons, Nat.even_iff, Nat.even_iff]
  by_cases hquote : c = '"'
  · simp only [hquote, if_true, beq_self_eq_true]
    omega
  · simp [hquote]

end Reading

/-! ## A blank behind a text -/

theorem segmentsFrom_cons (reading : Reading) (c : Char) (rest : Text) :
    segmentsFrom reading (c :: rest) =
      (reading.step c).1 ++ segmentsFrom (reading.step c).2 rest := rfl

/-- A blank behind a text without open quotation marks ends the last segment of the text. -/
theorem segmentsFrom_append_blank {reading : Reading} {text : Text} {c : Char}
    (hc : Text.isBlank c = true) (h : Even (reading.openQuotes + text.count '"')) (rest : Text) :
    segmentsFrom reading (text ++ c :: rest) =
      segmentsFrom reading text ++ .blank c :: segments rest := by
  -- Every character keeps the parity, and at the end only a reading without an open one is left.
  induction text generalizing reading with
  | nil =>
    cases reading with
    | between => exact segments_blank hc rest
    | inWord read =>
      simp [segmentsFrom, segments, Reading.step, Reading.endsWord, Reading.start, Reading.finish,
        hc]
    | inQuote read => exact absurd h (by simp [Reading.openQuotes])
  | cons d text ih =>
    have hnext := ih ((reading.even_step d text).mpr h)
    rw [List.cons_append, segmentsFrom_cons, hnext, segmentsFrom_cons, List.append_assoc]

theorem segmentsFrom_append_open {reading : Reading} {text : Text}
    (h : ¬ Even (reading.openQuotes + text.count '"')) :
    ∃ parts inside, ∀ rest : Text, '"' ∉ rest →
      segmentsFrom reading (text ++ rest) = parts ++ [.unclosed (inside ++ rest)] := by
  induction text generalizing reading with
  | nil =>
    cases reading with
    | between => exact absurd (by simp [Reading.openQuotes]) h
    | inWord read => exact absurd (by simp [Reading.openQuotes]) h
    | inQuote read =>
      exact ⟨[], read.reverse, fun rest hrest => segmentsFrom_inQuote_end hrest read⟩
  | cons d text ih =>
    obtain ⟨parts, inside, hnext⟩ := ih (mt (reading.even_step d text).mp h)
    refine ⟨(reading.step d).1 ++ parts, inside, fun rest hrest => ?_⟩
    rw [List.cons_append, segmentsFrom_cons, hnext rest hrest, List.append_assoc]

/-- The tokens of a text without open quotation marks stay as they are in front of a blank. -/
theorem tokenize_append_blank {text : Text} {c : Char} (hc : Text.isBlank c = true)
    (h : Even (text.count '"')) (rest : Text) :
    tokenize (text ++ c :: rest) = tokenize text ++ tokenize rest := by
  have hopen : Even (Reading.between.openQuotes + text.count '"') := (Nat.zero_add _).symm ▸ h
  have hsegments := segmentsFrom_append_blank hc hopen rest
  rw [tokenize, segments, hsegments, List.filterMap_append]
  rfl

/-- An open quotation mark makes a term that a blank behind the text belongs to. -/
theorem tokenize_append_blank_ne {text : Text} {c : Char} (hc : Text.isBlank c = true)
    (h : ¬ Even (text.count '"')) : tokenize (text ++ [c]) ≠ tokenize text := by
  have hopen : ¬ Even (Reading.between.openQuotes + text.count '"') := (Nat.zero_add _).symm ▸ h
  obtain ⟨parts, inside, hparts⟩ := segmentsFrom_append_open hopen
  have hquote : c ≠ '"' := by
    rintro rfl
    exact absurd hc (by decide)
  have hlonger := hparts [c] (by simpa using hquote.symm)
  have hshorter := hparts [] (by simp)
  rw [List.append_nil] at hshorter
  intro heq
  rw [tokenize, tokenize, segments, segments, hlonger, hshorter, List.filterMap_append,
    List.filterMap_append, List.append_cancel_left_eq] at heq
  have hnormal : (inside ++ [c]).normalize = (inside ++ []).normalize := by
    simpa [Segment.token?, Token.term] using heq
  -- The blank has a character of its own in the normal form, so the two terms differ in length.
  obtain ⟨d, -, hd⟩ := Text.decomposeChar_of_isBlank hc
  rw [Text.normalize_append_blank inside [] hc, Text.normalize_blank hc, hd, List.append_nil]
    at hnormal
  have hlength := congrArg List.length hnormal
  simp at hlength

theorem isBlank_space : Text.isBlank ' ' = true := by decide

theorem tokenize_join {arguments : List Text}
    (h : ∀ argument ∈ arguments, Even (argument.count '"')) :
    tokenize (Text.join [' '] arguments) = arguments.flatMap tokenize := by
  induction arguments with
  | nil => rfl
  | cons argument arguments ih =>
    have hrest := ih fun other hother => h other (List.mem_cons_of_mem _ hother)
    cases arguments with
    | nil => exact (List.append_nil _).symm
    | cons other arguments =>
      have hjoin : Text.join [' '] (argument :: other :: arguments) =
          argument ++ [' '] ++ Text.join [' '] (other :: arguments) := rfl
      have hfirst := tokenize_append_blank isBlank_space (h argument List.mem_cons_self)
        (Text.join [' '] (other :: arguments))
      rw [hjoin, List.append_assoc, List.singleton_append, hfirst, hrest]
      rfl

/-! ## The law -/

/-- The tokens of two texts joined by a space are those of the first and then those of the second,
whatever the second is, exactly when the first has an even number of quotation marks; and where
every argument has an even number, the tokens of the arguments joined by spaces are those of the
arguments one after another. -/
theorem tokenize_joined :
    (∀ text : Text, Even (text.count '"') ↔
      ∀ other, tokenize (text ++ [' '] ++ other) = tokenize text ++ tokenize other) ∧
    ∀ arguments : List Text, (∀ argument ∈ arguments, Even (argument.count '"')) →
      tokenize (Text.join [' '] arguments) = arguments.flatMap tokenize := by
  refine ⟨fun text => ⟨fun h other => ?_, fun h => ?_⟩, fun arguments => tokenize_join⟩
  · rw [List.append_assoc, List.singleton_append, tokenize_append_blank isBlank_space h]
  · by_contra hodd
    have hsame := h []
    rw [List.append_nil, tokenize_nil, List.append_nil] at hsame
    exact tokenize_append_blank_ne isBlank_space hodd hsame

/-- Quotation marks inside of words and next to parentheses find their partners in their own
arguments. -/
theorem tokenize_joined_beddoe :
    let arguments : List Text := ["re\"beddoe order\"(", "\"a )\"\"\")", "or -tax"]
    (∀ argument ∈ arguments, Even (argument.count '"')) ∧
      tokenize (Text.join [' '] arguments) =
        [.term "re", .phrase "beddoe order", ⟨.openParen, none⟩, .phrase "a )", .phrase "",
          ⟨.closeParen, none⟩, ⟨.orOp, none⟩, ⟨.notTerm, some "tax"⟩] := by
  intro arguments
  have heven : ∀ argument ∈ arguments, Even (argument.count '"') := by decide
  refine ⟨heven, ?_⟩
  rw [tokenize_joined.2 arguments heven]
  decide

end CorpusSearch.Query
