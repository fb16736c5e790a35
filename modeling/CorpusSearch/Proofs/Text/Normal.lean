-- The normal form of a text is made of the normal forms of its parts, wherever a blank divides
-- them: the final sigma is decided within a part, and no mark moves across the blank.
import CorpusSearch.Proofs.Text.Blank
import Mathlib.Data.List.Basic

namespace CorpusSearch.Text

/-! ## Lower case -/

theorem casedAhead_append_neutral (before behind : Text) {s : Char} (hs : IsNeutral s) :
    casedAhead (before ++ s :: behind) = casedAhead before := by
  induction before with
  | nil => simp [casedAhead, hs.ignorable, hs.cased]
  | cons c before ih =>
    rw [List.cons_append]
    unfold casedAhead
    rw [ih]

/-- Behind a neutral character the case of what stands before it is forgotten. -/
theorem lowerFrom_neutral (cased : Bool) {s : Char} (hs : IsNeutral s) (behind : Text) :
    lowerFrom cased (s :: behind) = s :: lowerFrom false behind := by
  have hsigma : s ≠ 'Σ' := by
    rintro rfl
    exact absurd hs.cased (by decide)
  simp [lowerFrom, hsigma, hs.lower, casedAfter, hs.ignorable, hs.cased]

theorem lowerFrom_append_neutral (cased : Bool) (before behind : Text) {s : Char}
    (hs : IsNeutral s) :
    lowerFrom cased (before ++ s :: behind) =
      lowerFrom cased before ++ s :: lowerFrom false behind := by
  induction before generalizing cased with
  | nil => exact lowerFrom_neutral cased hs behind
  | cons c before ih =>
    rw [List.cons_append, lowerFrom, lowerFrom, ih, casedAhead_append_neutral before behind hs,
      List.append_assoc]

theorem lower_append_neutral (before behind : Text) {s : Char} (hs : IsNeutral s) :
    lower (before ++ s :: behind) = lower before ++ s :: lower behind :=
  lowerFrom_append_neutral false before behind hs

/-! ## Marks in order -/

theorem insertMark_starter {d : Char} (hd : markClass d = 0) (text : Text) :
    insertMark d text = d :: text := by
  cases text with
  | nil => rfl
  | cons e text => simp [insertMark, hd]

theorem insertMark_append_starter (c : Char) (marks text : Text) {d : Char}
    (hd : markClass d = 0) :
    insertMark c (marks ++ d :: text) = insertMark c marks ++ d :: text := by
  induction marks with
  | nil => simp [insertMark, hd]
  | cons e marks ih =>
    rw [List.cons_append]
    unfold insertMark
    split
    · rw [ih, List.cons_append]
    · rfl

theorem reorder_cons_starter {d : Char} (hd : markClass d = 0) (text : Text) :
    reorder (d :: text) = d :: reorder text := by
  rw [reorder, List.foldr_cons, insertMark_starter hd]
  rfl

theorem reorder_append_starter (before text : Text) {d : Char} (hd : markClass d = 0) :
    reorder (before ++ d :: text) = reorder before ++ d :: reorder text := by
  induction before with
  | nil => exact reorder_cons_starter hd text
  | cons c before ih =>
    calc reorder (c :: (before ++ d :: text))
        = insertMark c (reorder (before ++ d :: text)) := rfl
      _ = insertMark c (reorder before) ++ d :: reorder text := by
        rw [ih, insertMark_append_starter c _ _ hd]
      _ = reorder (c :: before) ++ d :: reorder text := rfl

theorem reorder_of_starters {text : Text} (h : ∀ c ∈ text, markClass c = 0) :
    reorder text = text := by
  induction text with
  | nil => rfl
  | cons c text ih =>
    rw [reorder_cons_starter (h c (List.mem_cons_self ..)),
      ih fun d hd => h d (List.mem_cons_of_mem _ hd)]

theorem flatMap_decomposeChar_of_self {text : Text} (h : ∀ c ∈ text, decomposeChar c = [c]) :
    text.flatMap decomposeChar = text := by
  calc text.flatMap decomposeChar = text.flatMap fun c => [c] := List.flatMap_congr h
    _ = text := List.flatMap_singleton' text

theorem decompose_of_starters {text : Text} (hmark : ∀ c ∈ text, markClass c = 0)
    (hself : ∀ c ∈ text, decomposeChar c = [c]) : decompose text = text := by
  rw [decompose, flatMap_decomposeChar_of_self hself, reorder_of_starters hmark]

/-! ## Normal forms -/

theorem decompose_append_blank (before behind : Text) {s : Char} (hs : isBlank s = true) :
    decompose (before ++ s :: behind) =
      decompose before ++ (decomposeChar s ++ decompose behind) := by
  obtain ⟨d, hd, hdecompose⟩ := decomposeChar_of_isBlank hs
  simp only [decompose, List.flatMap_append, List.flatMap_cons, hdecompose, List.singleton_append]
  exact reorder_append_starter _ _ (markClass_of_isBlank hd)

theorem normalize_blank {s : Char} (hs : isBlank s = true) :
    normalize [s] = decomposeChar s := by
  have hlower : lower [s] = [s] := lowerFrom_neutral false (isNeutral_of_isBlank hs) []
  rw [normalize, hlower]
  simpa [decompose, reorder] using decompose_append_blank [] [] hs

theorem normalize_append_blank (before behind : Text) {s : Char} (hs : isBlank s = true) :
    normalize (before ++ s :: behind) =
      normalize before ++ (normalize [s] ++ normalize behind) := by
  rw [normalize_blank hs]
  unfold normalize
  rw [lower_append_neutral before behind (isNeutral_of_isBlank hs), decompose_append_blank _ _ hs]

@[simp] theorem normalize_nil : normalize [] = [] := rfl

/-- A text that ends where a word may start: it is empty or its last character is a blank. -/
def EndsBlank (text : Text) : Prop := ∀ c, text.getLast? = some c → isBlank c = true

/-- A text that starts where a word may end: it is empty or its first character is a blank. -/
def StartsBlank (text : Text) : Prop := ∀ c, text.head? = some c → isBlank c = true

theorem normalize_append_of_endsBlank {before : Text} (h : EndsBlank before) (behind : Text) :
    normalize (before ++ behind) = normalize before ++ normalize behind := by
  rcases List.eq_nil_or_concat before with rfl | ⟨start, s, rfl⟩
  · rfl
  · have hs : isBlank s = true := h s (by simp)
    rw [List.concat_eq_append, List.append_assoc, List.singleton_append,
      normalize_append_blank start behind hs, normalize_append_blank start [] hs]
    simp

theorem normalize_append_of_startsBlank (before : Text) {behind : Text} (h : StartsBlank behind) :
    normalize (before ++ behind) = normalize before ++ normalize behind := by
  cases behind with
  | nil => simp
  | cons s rest =>
    have hs : isBlank s = true := h s rfl
    rw [normalize_append_blank before rest hs, ← List.nil_append (s :: rest),
      normalize_append_blank [] rest hs]
    rfl

/-- The normal form of an excerpt stands in the normal form of the whole text. -/
theorem normalize_excerpt {before behind : Text} (hbefore : EndsBlank before)
    (hbehind : StartsBlank behind) (excerpt : Text) :
    normalize (before ++ excerpt ++ behind) =
      normalize before ++ normalize excerpt ++ normalize behind := by
  rw [normalize_append_of_startsBlank _ hbehind, normalize_append_of_endsBlank hbefore]

end CorpusSearch.Text
