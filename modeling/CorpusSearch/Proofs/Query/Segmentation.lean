-- The segmentation of a query text. Its segments written one after another are the text, and every
-- word is as long as it can be. There is exactly one, and the tokens are what its segments mean.
import Mathlib.Data.List.Forall2
import CorpusSearch.Proofs.Query.Tokens

namespace CorpusSearch.Query

/-! ## Segmentations -/

/-- A character that words are made of. -/
def IsWordChar (c : Char) : Prop := Text.isBlank c = false ∧ c ≠ '"' ∧ c ≠ '(' ∧ c ≠ ')'

namespace Segment

/-- A segment as it stands in a text. -/
def written : Segment → Text
  | .blank c => [c]
  | .openParen => ['(']
  | .closeParen => [')']
  | .quoted inside => '"' :: (inside ++ ['"'])
  | .unclosed inside => '"' :: inside
  | .word text => text

/-- A segment holds what its name says. -/
def IsProper : Segment → Prop
  | .blank c => Text.isBlank c = true
  | .openParen | .closeParen => True
  | .quoted inside | .unclosed inside => '"' ∉ inside
  | .word text => text ≠ [] ∧ ∀ c ∈ text, IsWordChar c

def isBlank : Segment → Bool
  | .blank _ => true
  | _ => false

end Segment

/-- Segments as they stand in a text. -/
def writtenAll (parts : List Segment) : Text := parts.flatMap Segment.written

structure IsSegmentation (text : Text) (parts : List Segment) : Prop where
  written : writtenAll parts = text
  proper : ∀ part ∈ parts, part.IsProper
  /-- No character that words are made of stands next to a word. -/
  maximal : ∀ before word behind, parts = before ++ .word word :: behind →
    (∀ c, (writtenAll before).getLast? = some c → ¬ IsWordChar c) ∧
      ∀ c, (writtenAll behind).head? = some c → ¬ IsWordChar c
  /-- A quotation mark without a partner takes in the rest of the text. -/
  unclosed_last : ∀ before inside behind, parts = before ++ .unclosed inside :: behind → behind = []

/-- The tokens that segments mean. Operators are words in letters of either case. -/
inductive Segment.Means : Segment → Token → Prop
  | openParen : Means .openParen ⟨.openParen, none⟩
  | closeParen : Means .closeParen ⟨.closeParen, none⟩
  | quoted (inside : Text) : Means (.quoted inside) ⟨.phrase, some inside.normalize⟩
  | unclosed (inside : Text) : Means (.unclosed inside) ⟨.term, some inside.normalize⟩
  | or {word : Text} : word.upper = "OR".toList → Means (.word word) ⟨.orOp, none⟩
  | not {word : Text} : word.upper = "NOT".toList → Means (.word word) ⟨.notOp, none⟩
  | excluded {rest : Text} :
      Text.upper ('-' :: rest) ≠ "OR".toList → Text.upper ('-' :: rest) ≠ "NOT".toList →
      Means (.word ('-' :: rest)) ⟨.notTerm, some (Text.normalize rest)⟩
  | term {word : Text} :
      word.upper ≠ "OR".toList → word.upper ≠ "NOT".toList → word.head? ≠ some '-' →
      Means (.word word) ⟨.term, some word.normalize⟩

/-! ## Characters -/

theorem isWordChar_iff (c : Char) : IsWordChar c ↔ Reading.endsWord c = false := by
  simp [IsWordChar, Reading.endsWord, and_assoc]

theorem not_isWordChar_iff (c : Char) : ¬ IsWordChar c ↔ Reading.endsWord c = true := by
  rw [isWordChar_iff, Bool.not_eq_false]

theorem Segment.IsProper.written_ne_nil {part : Segment} (h : part.IsProper) :
    part.written ≠ [] := by
  cases part with
  | word text => exact h.1
  | _ => simp [written]

theorem eq_nil_of_writtenAll {parts : List Segment} (h : ∀ part ∈ parts, part.IsProper)
    (hwritten : writtenAll parts = []) : parts = [] := by
  cases parts with
  | nil => rfl
  | cons part parts =>
    have hpart := (h part (List.mem_cons_self ..)).written_ne_nil
    rw [writtenAll, List.flatMap_cons, List.append_eq_nil_iff] at hwritten
    exact absurd hwritten.1 hpart

/-- Only words and unclosed quotations end with a character that words are made of. -/
theorem Segment.IsProper.not_isWordChar {part : Segment} (h : part.IsProper)
    (hword : ∀ text, part ≠ .word text) (hunclosed : ∀ inside, part ≠ .unclosed inside) {c : Char}
    (hc : part.written.getLast? = some c) : ¬ IsWordChar c := by
  cases part with
  | word text => exact absurd rfl (hword text)
  | unclosed inside => exact absurd rfl (hunclosed inside)
  | blank d =>
    have hblank : Text.isBlank d = true := h
    cases hc
    simp [IsWordChar, hblank]
  | openParen => cases hc; simp [IsWordChar]
  | closeParen => cases hc; simp [IsWordChar]
  | quoted inside =>
    rw [written, ← List.cons_append, List.getLast?_concat] at hc
    cases hc
    simp [IsWordChar]

/-! ## No other segmentation -/

theorem IsSegmentation.tail {text : Text} {part : Segment} {parts : List Segment}
    (h : IsSegmentation text (part :: parts)) : IsSegmentation (writtenAll parts) parts where
  written := rfl
  proper := fun p hp => h.proper p (List.mem_cons_of_mem _ hp)
  maximal := by
    intro before word behind hparts
    obtain ⟨hleft, hright⟩ := h.maximal (part :: before) word behind (by rw [hparts]; rfl)
    refine ⟨fun c hc => hleft c ?_, hright⟩
    rw [writtenAll, List.flatMap_cons, List.getLast?_append]
    exact (congrArg (Option.or · _) hc).trans rfl
  unclosed_last := by
    intro before inside behind hparts
    exact h.unclosed_last (part :: before) inside behind (by rw [hparts]; rfl)

/-- A segmentation of a text consists of the segments that are read. -/
theorem IsSegmentation.eq_segments {text : Text} {parts : List Segment}
    (h : IsSegmentation text parts) : parts = segments text := by
  induction parts generalizing text with
  | nil => rw [← h.written]; rfl
  | cons part parts ih =>
    have hrest := ih h.tail
    have hproper := h.proper part (List.mem_cons_self ..)
    rw [← h.written, writtenAll, List.flatMap_cons]
    change _ = segments (part.written ++ writtenAll parts)
    cases part with
    | blank c => rw [Segment.written, List.singleton_append, segments_blank hproper, ← hrest]
    | openParen => rw [Segment.written, List.singleton_append, segments_openParen, ← hrest]
    | closeParen => rw [Segment.written, List.singleton_append, segments_closeParen, ← hrest]
    | quoted inside =>
      rw [Segment.written, List.cons_append, List.append_assoc, List.singleton_append,
        segments_quoted hproper, ← hrest]
    | unclosed inside =>
      obtain rfl := h.unclosed_last [] inside parts rfl
      rw [Segment.written, writtenAll, List.flatMap_nil, List.append_nil,
        segments_unclosed hproper]
    | word word =>
      have hends := (h.maximal [] word parts rfl).2
      rw [Segment.written, segments_word (fun c hc => (isWordChar_iff c).mp (hproper.2 c hc))
        hproper.1 _ fun c hc => (not_isWordChar_iff c).mp (hends c hc), ← hrest]

/-! ## The segments that are read -/

theorem exists_word (text : Text) : ∃ word rest, text = word ++ rest ∧
    (∀ c ∈ word, IsWordChar c) ∧ ∀ c, rest.head? = some c → ¬ IsWordChar c := by
  induction text with
  | nil => exact ⟨[], [], rfl, by simp, by simp⟩
  | cons c text ih =>
    by_cases hc : IsWordChar c
    · obtain ⟨word, rest, rfl, hword, hrest⟩ := ih
      exact ⟨c :: word, rest, rfl, List.forall_mem_cons.mpr ⟨hc, hword⟩, hrest⟩
    · refine ⟨[], c :: text, rfl, by simp, ?_⟩
      rintro d hd
      cases hd
      exact hc

/-- Every text is empty, or starts with a segment in front of a text again. -/
theorem segments_induction {motive : Text → Prop} (nil : motive [])
    (blank : ∀ c rest, Text.isBlank c = true → motive rest → motive (c :: rest))
    (openParen : ∀ rest, motive rest → motive ('(' :: rest))
    (closeParen : ∀ rest, motive rest → motive (')' :: rest))
    (quoted : ∀ inside rest, '"' ∉ inside → motive rest →
      motive ('"' :: (inside ++ '"' :: rest)))
    (unclosed : ∀ inside, '"' ∉ inside → motive ('"' :: inside))
    (word : ∀ word rest, word ≠ [] → (∀ c ∈ word, IsWordChar c) →
      (∀ c, rest.head? = some c → ¬ IsWordChar c) → motive rest → motive (word ++ rest))
    (text : Text) : motive text := by
  induction hlength : text.length using Nat.strongRecOn generalizing text with
  | _ length ih =>
    subst hlength
    cases text with
    | nil => exact nil
    | cons c rest =>
      have hshorter : ∀ other : Text, other.length ≤ rest.length → motive other := fun other hle =>
        ih other.length (by rw [List.length_cons]; omega) other rfl
      by_cases hblank : Text.isBlank c = true
      · exact blank c rest hblank (hshorter rest (Nat.le_refl _))
      by_cases hquote : c = '"'
      · subst hquote
        by_cases hmem : '"' ∈ rest
        · obtain ⟨inside, behind, rfl, hinside⟩ := List.eq_append_cons_of_mem hmem
          exact quoted inside behind hinside (hshorter behind (by simp; omega))
        · exact unclosed rest hmem
      by_cases hopen : c = '('
      · subst hopen
        exact openParen rest (hshorter rest (Nat.le_refl _))
      by_cases hclose : c = ')'
      · subst hclose
        exact closeParen rest (hshorter rest (Nat.le_refl _))
      have hc : IsWordChar c := ⟨by simpa using hblank, hquote, hopen, hclose⟩
      obtain ⟨more, behind, rfl, hmore, hbehind⟩ := exists_word rest
      exact word (c :: more) behind (by simp) (List.forall_mem_cons.mpr ⟨hc, hmore⟩) hbehind
        (hshorter behind (by simp))

/-- A segment in front of a word ends with a character that words are not made of. -/
theorem IsSegmentation.ends_outside {part : Segment} {rest word : Text} {behind : List Segment}
    (h : IsSegmentation rest (.word word :: behind)) (hproper : part.IsProper)
    (hword : ∀ text, part = .word text → ∀ c, rest.head? = some c → ¬ IsWordChar c)
    (hunclosed : ∀ inside, part ≠ .unclosed inside) {c : Char}
    (hc : part.written.getLast? = some c) : ¬ IsWordChar c := by
  refine hproper.not_isWordChar (fun text htext => ?_) hunclosed hc
  obtain ⟨hne, hchars⟩ := h.proper (.word word) (List.mem_cons_self ..)
  obtain ⟨d, word, rfl⟩ := List.exists_cons_of_ne_nil hne
  have hhead : rest.head? = some d := by rw [← h.written]; rfl
  exact hword text htext d hhead (hchars d (List.mem_cons_self ..))

theorem IsSegmentation.cons {rest : Text} {parts : List Segment} (h : IsSegmentation rest parts)
    (part : Segment) (hproper : part.IsProper)
    (hword : ∀ text, part = .word text → ∀ c, rest.head? = some c → ¬ IsWordChar c)
    (hunclosed : ∀ inside, part = .unclosed inside → parts = []) :
    IsSegmentation (part.written ++ rest) (part :: parts) where
  written := by rw [writtenAll, List.flatMap_cons, ← h.written]; rfl
  proper := by
    intro p hp
    rcases List.mem_cons.mp hp with rfl | hin
    · exact hproper
    · exact h.proper p hin
  maximal := by
    intro before word behind hparts
    cases before with
    | nil =>
      obtain ⟨rfl, rfl⟩ := List.cons.inj hparts
      rw [h.written]
      exact ⟨by simp [writtenAll], hword word rfl⟩
    | cons first before =>
      obtain ⟨rfl, rfl⟩ := List.cons.inj hparts
      obtain ⟨hleft, hright⟩ := h.maximal before word behind rfl
      refine ⟨fun c hc => ?_, hright⟩
      rw [writtenAll, List.flatMap_cons, List.getLast?_append] at hc
      cases hlast : (writtenAll before).getLast? with
      | some d =>
        rw [writtenAll] at hlast
        rw [hlast] at hc
        cases hc
        exact hleft _ hlast
      | none =>
        have hproperBefore : ∀ p ∈ before, p.IsProper := fun p hp => h.proper p (by simp [hp])
        obtain rfl := eq_nil_of_writtenAll hproperBefore (List.getLast?_eq_none_iff.mp hlast)
        exact h.ends_outside hproper hword
          (fun inside hinside => by cases hunclosed inside hinside) hc
  unclosed_last := by
    intro before inside behind hparts
    cases before with
    | nil =>
      obtain ⟨rfl, rfl⟩ := List.cons.inj hparts
      exact hunclosed inside rfl
    | cons first before =>
      obtain ⟨rfl, rfl⟩ := List.cons.inj hparts
      exact h.unclosed_last before inside behind rfl

theorem IsSegmentation.nil : IsSegmentation [] [] where
  written := rfl
  proper := by simp
  maximal := by simp
  unclosed_last := by simp

theorem isSegmentation_segments (text : Text) : IsSegmentation text (segments text) := by
  induction text using segments_induction with
  | nil => exact .nil
  | blank c rest hc ih =>
    rw [segments_blank hc]
    exact ih.cons (.blank c) hc (by simp) (by simp)
  | openParen rest ih => exact ih.cons .openParen trivial (by simp) (by simp)
  | closeParen rest ih => exact ih.cons .closeParen trivial (by simp) (by simp)
  | quoted inside rest h ih =>
    rw [segments_quoted h]
    simpa [Segment.written] using ih.cons (.quoted inside) h (by simp) (by simp)
  | unclosed inside h =>
    rw [segments_unclosed h]
    simpa [Segment.written] using IsSegmentation.nil.cons (.unclosed inside) h (by simp) (by simp)
  | word word rest hne hchars hends ih =>
    rw [segments_word (fun c hc => (isWordChar_iff c).mp (hchars c hc)) hne rest
      fun c hc => (not_isWordChar_iff c).mp (hends c hc)]
    exact ih.cons (.word word) ⟨hne, hchars⟩ (fun _ _ => hends) (by simp)

/-! ## Tokens of segments -/

theorem means_ofWord (word : Text) : (Segment.word word).Means (.ofWord word) := by
  unfold Token.ofWord
  split
  · exact .or ‹_›
  · split
    · exact .not ‹_›
    · split
      · exact .excluded ‹_› ‹_›
      · rename_i hhead
        refine .term ‹_› ‹_› fun h => ?_
        obtain ⟨rest, hrest⟩ := List.head?_eq_some_iff.mp h
        exact hhead rest hrest

/-- A blank has no token, and the token of any other segment is what the segment means. -/
theorem token?_cases (part : Segment) :
    part.isBlank = true ∧ part.token? = none ∨
      part.isBlank = false ∧ ∃ token, part.token? = some token ∧ part.Means token := by
  cases part with
  | blank c => exact Or.inl ⟨rfl, rfl⟩
  | openParen => exact Or.inr ⟨rfl, _, rfl, .openParen⟩
  | closeParen => exact Or.inr ⟨rfl, _, rfl, .closeParen⟩
  | quoted inside => exact Or.inr ⟨rfl, _, rfl, .quoted inside⟩
  | unclosed inside => exact Or.inr ⟨rfl, _, rfl, .unclosed inside⟩
  | word word => exact Or.inr ⟨rfl, _, rfl, means_ofWord word⟩

theorem forall₂_means (parts : List Segment) :
    List.Forall₂ Segment.Means (parts.filter fun part => !part.isBlank)
      (parts.filterMap Segment.token?) := by
  induction parts with
  | nil => exact .nil
  | cons part parts ih =>
    rcases token?_cases part with ⟨hblank, hnone⟩ | ⟨hblank, token, htoken, hmeans⟩
    · simpa [List.filter_cons, hblank, hnone] using ih
    · simpa [List.filter_cons, hblank, htoken] using ⟨hmeans, ih⟩

theorem exists_means_of_mem_tokenize {text : Text} {token : Token} (h : token ∈ tokenize text) :
    ∃ part ∈ segments text, part.Means token := by
  obtain ⟨part, hpart, htoken⟩ := List.mem_filterMap.mp h
  rcases token?_cases part with ⟨-, hnone⟩ | ⟨-, other, hother, hmeans⟩
  · rw [hnone] at htoken; cases htoken
  · rw [hother] at htoken; cases htoken; exact ⟨part, hpart, hmeans⟩

theorem Segment.Means.kind_ne_andOp {part : Segment} {token : Token} (h : part.Means token) :
    token.kind ≠ .andOp := by
  cases h <;> simp

/-! ## The law -/

/-- A query text has exactly one segmentation. Its tokens are those that the segments other than
blanks mean, in their order, and none of them is an AND. -/
theorem tokenize_segmentation (text : Text) :
    (∃! parts, IsSegmentation text parts) ∧
    (∀ parts, IsSegmentation text parts →
      List.Forall₂ Segment.Means (parts.filter fun part => !part.isBlank) (tokenize text)) ∧
    ∀ token ∈ tokenize text, token.kind ≠ .andOp := by
  have hmeans := forall₂_means (segments text)
  refine ⟨⟨segments text, isSegmentation_segments text, fun parts h => h.eq_segments⟩, ?_, ?_⟩
  · intro parts h
    rw [h.eq_segments]
    exact hmeans
  · intro token htoken
    obtain ⟨part, hpart, htoken⟩ := List.mem_filterMap.mp htoken
    rcases token?_cases part with ⟨-, hnone⟩ | ⟨-, other, hother, hmeans⟩
    · rw [hnone] at htoken; cases htoken
    · rw [hother] at htoken; cases htoken; exact hmeans.kind_ne_andOp

end CorpusSearch.Query
