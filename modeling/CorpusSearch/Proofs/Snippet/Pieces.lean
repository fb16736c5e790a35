-- A marked text in pieces. From left to right a text is cut at the longest needle that begins at
-- each place, or behind one character where none begins. There is one such cut, which depends on
-- the set of the needles only, and the marks stand around its matches.
import CorpusSearch.Proofs.Snippet.Shown

namespace CorpusSearch.Snippet

/-! ## Cuts -/

/-- A piece of a text: a single character, or a match. -/
inductive Piece where
  | plain (c : Char)
  | marked (part : Text)
  deriving DecidableEq, Repr

def Piece.text : Piece → Text
  | .plain c => [c]
  | .marked part => part

/-- What is shown of a piece: a match has marks around it. -/
def Piece.shown (opening closing : Text) : Piece → Text
  | .plain c => [c]
  | .marked part => opening ++ (part ++ closing)

def textOf (pieces : List Piece) : Text := pieces.flatMap Piece.text

/-- The pieces with marks around the matches. -/
def shownWith (opening closing : Text) (pieces : List Piece) : Text :=
  pieces.flatMap (Piece.shown opening closing)

/-- A needle stands at the beginning of a text, up to case. -/
def BeginsUpToCase (needle text : Text) : Prop :=
  needle.map Text.caseClass <+: text.map Text.caseClass

instance instDecidableBeginsUpToCase (needle text : Text) :
    Decidable (BeginsUpToCase needle text) :=
  inferInstanceAs (Decidable (_ <+: _))

instance instDecidableEqualUpToCase (text other : Text) : Decidable (EqualUpToCase text other) :=
  inferInstanceAs (Decidable (_ = _))

/-- No needle that can be found begins where the text does. -/
def NoneBegins (needles : List Text) (text : Text) : Prop :=
  ∀ needle ∈ needles, needle ≠ [] → ¬ IsMissed needles needle → ¬ BeginsUpToCase needle text

instance instDecidableNoneBegins (needles : List Text) (text : Text) :
    Decidable (NoneBegins needles text) :=
  inferInstanceAs (Decidable (∀ needle ∈ needles, _ → _ → ¬ BeginsUpToCase needle text))

/-- The text in front of `rest` is a needle that can be found, and no longer one begins there. -/
structure IsLongest (needles : List Text) (part rest : Text) : Prop where
  equal : ∃ needle ∈ needles, needle ≠ [] ∧ ¬ IsMissed needles needle ∧ EqualUpToCase part needle
  longest : ∀ needle ∈ needles, BeginsUpToCase needle (part ++ rest) → needle.length ≤ part.length

/-- The cut of a text into the longest needles and the characters between them. -/
inductive IsCut (needles : List Text) : Text → List Piece → Prop
  | nil : IsCut needles [] []
  | plain {c : Char} {rest : Text} {pieces : List Piece} :
      NoneBegins needles (c :: rest) → IsCut needles rest pieces →
      IsCut needles (c :: rest) (.plain c :: pieces)
  | marked {part rest : Text} {pieces : List Piece} :
      IsLongest needles part rest → IsCut needles rest pieces →
      IsCut needles (part ++ rest) (.marked part :: pieces)

variable {needles others : List Text} {part rest text : Text} {pieces : List Piece}

/-! ## The longest needle -/

theorem EqualUpToCase.length_eq {needle : Text} (h : EqualUpToCase part needle) :
    part.length = needle.length := by
  simpa using congrArg List.length h

theorem EqualUpToCase.begins {needle : Text} (h : EqualUpToCase part needle) (rest : Text) :
    BeginsUpToCase needle (part ++ rest) := by
  unfold EqualUpToCase at h
  unfold BeginsUpToCase
  rw [List.map_append, h]
  exact List.prefix_append _ _

theorem IsLongest.ne_nil (h : IsLongest needles part rest) : part ≠ [] := by
  obtain ⟨needle, -, hne, -, hequal⟩ := h.equal
  have hpos := List.length_pos_iff.mpr hne
  exact List.ne_nil_of_length_pos (hequal.length_eq ▸ hpos)

theorem longestMatch_eq_zero_iff :
    longestMatch (findable needles) text = 0 ↔ NoneBegins needles text := by
  constructor
  · intro hzero needle hneedle hne hfound hbegins
    have hmem : needle ∈ findable needles := mem_findable.mpr ⟨hneedle, hne, hfound⟩
    have hle := length_le_longestMatch hmem ((startsWith_iff ..).mpr hbegins)
    have hpos := List.length_pos_iff.mpr hne
    omega
  · intro hnone
    by_contra hsome
    obtain ⟨needle, hneedle, hstarts, -⟩ := exists_needle_of_longestMatch hsome
    obtain ⟨hneedle, hne, hfound⟩ := mem_findable.mp hneedle
    exact hnone needle hneedle hne hfound ((startsWith_iff ..).mp hstarts)

/-! ## Needles that differ at the end -/

theorem differAtEnd_iff : differAtEnd needles = true ↔
    (∃ needle ∈ needles, ∃ other ∈ needles, needle ≠ other) ∧
      ∀ needle ∈ needles, ∀ other ∈ needles,
        needle.dropLast = other.dropLast ∧ needle.length = other.length := by
  cases needles with
  | nil => simp [differAtEnd]
  | cons first needles =>
    unfold differAtEnd
    rw [Bool.and_eq_true, List.any_eq_true, List.all_eq_true]
    simp only [Bool.and_eq_true, decide_eq_true_iff]
    constructor
    · rintro ⟨⟨other, hother, hne⟩, hsame⟩
      have hfirst : ∀ needle ∈ first :: needles,
          needle.dropLast = first.dropLast ∧ needle.length = first.length :=
        List.forall_mem_cons.mpr ⟨⟨rfl, rfl⟩, hsame⟩
      refine ⟨⟨other, List.mem_cons_of_mem _ hother, first, List.mem_cons_self .., hne⟩, ?_⟩
      intro needle hneedle other hother
      obtain ⟨hends, hlength⟩ := hfirst needle hneedle
      obtain ⟨hends', hlength'⟩ := hfirst other hother
      exact ⟨hends.trans hends'.symm, hlength.trans hlength'.symm⟩
    · rintro ⟨⟨needle, hneedle, other, hother, hne⟩, hsame⟩
      refine ⟨?_, fun other hother =>
        hsame other (List.mem_cons_of_mem _ hother) first (List.mem_cons_self ..)⟩
      rcases List.mem_cons.mp hneedle with rfl | hneedle
      · exact ⟨other, (List.mem_cons.mp hother).resolve_left hne.symm, hne.symm⟩
      · by_cases hfirst : needle = first
        · subst hfirst
          exact ⟨other, (List.mem_cons.mp hother).resolve_left hne.symm, hne.symm⟩
        · exact ⟨needle, hneedle, hfirst⟩

/-- Which needles are never found depends on the set of the nonempty needles. -/
theorem isMissed_congr (hsame : ∀ needle, needle ≠ [] → (needle ∈ needles ↔ needle ∈ others))
    (needle : Text) : IsMissed needles needle ↔ IsMissed others needle := by
  have hnonempty : ∀ needle, needle ∈ needles.filter (fun needle => !needle.isEmpty) ↔
      needle ∈ others.filter (fun needle => !needle.isEmpty) := by
    intro needle
    rw [List.mem_filter, List.mem_filter, Bool.not_eq_true', List.isEmpty_eq_false_iff]
    exact and_congr_left (hsame needle)
  unfold IsMissed
  rw [differAtEnd_iff, differAtEnd_iff]
  simp only [hnonempty]

/-- Beside a needle that is never found all needles have its length. -/
theorem IsMissed.length_eq {needle other : Text} (h : IsMissed needles needle)
    (hneedle : needle ∈ needles) (hne : needle ≠ []) (hother : other ∈ needles)
    (hother' : other ≠ []) : needle.length = other.length := by
  refine ((differAtEnd_iff.mp h.1).2 needle ?_ other ?_).2
  · simpa [hneedle] using hne
  · simpa [hother] using hother'

theorem isLongest_of_longestMatch (hne : part ≠ [])
    (h : longestMatch (findable needles) (part ++ rest) = part.length) :
    IsLongest needles part rest := by
  have hsome : longestMatch (findable needles) (part ++ rest) ≠ 0 := by
    have := List.length_pos_iff.mpr hne
    omega
  obtain ⟨needle, hneedle, hstarts, hlength⟩ := exists_needle_of_longestMatch hsome
  obtain ⟨hneedle, hneedle', hfound⟩ := mem_findable.mp hneedle
  have hequal := (equalUpToCase_take hstarts).2
  rw [hlength, h, List.take_left] at hequal
  refine ⟨⟨needle, hneedle, hneedle', hfound, hequal⟩, fun other hother hbegins => ?_⟩
  rcases eq_or_ne other [] with rfl | hother'
  · exact Nat.zero_le _
  by_cases hmissed : IsMissed needles other
  · -- A needle that is never found is as long as the one that is.
    exact ((hmissed.length_eq hother hother' hneedle hneedle').trans (hlength.trans h)).le
  · rw [← h]
    exact length_le_longestMatch (mem_findable.mpr ⟨hother, hother', hmissed⟩)
      ((startsWith_iff ..).mpr hbegins)

theorem IsLongest.longestMatch_eq (h : IsLongest needles part rest) :
    longestMatch (findable needles) (part ++ rest) = part.length := by
  obtain ⟨needle, hneedle, hne, hfound, hequal⟩ := h.equal
  have hle := length_le_longestMatch (mem_findable.mpr ⟨hneedle, hne, hfound⟩)
    ((startsWith_iff ..).mpr (hequal.begins rest))
  rw [← hequal.length_eq] at hle
  have hsome : longestMatch (findable needles) (part ++ rest) ≠ 0 := by
    have := List.length_pos_iff.mpr h.ne_nil
    omega
  obtain ⟨other, hother, hstarts, hlength⟩ := exists_needle_of_longestMatch hsome
  refine Nat.le_antisymm ?_ hle
  rw [← hlength]
  exact h.longest other (mem_findable.mp hother).1 ((startsWith_iff ..).mp hstarts)

/-! ## The cut of a text -/

theorem exists_isCut (needles : List Text) (text : Text) : ∃ pieces, IsCut needles text pieces := by
  induction hlength : text.length using Nat.strongRecOn generalizing text with
  | _ length ih =>
    subst hlength
    cases text with
    | nil => exact ⟨[], .nil⟩
    | cons c rest =>
      by_cases hnone : longestMatch (findable needles) (c :: rest) = 0
      · obtain ⟨pieces, hpieces⟩ := ih rest.length (Nat.lt_succ_self _) rest rfl
        exact ⟨_, .plain (longestMatch_eq_zero_iff.mp hnone) hpieces⟩
      · obtain ⟨needle, -, hstarts, hlength⟩ := exists_needle_of_longestMatch hnone
        have hle := (equalUpToCase_take hstarts).1
        generalize hsize : longestMatch (findable needles) (c :: rest) = size at hnone hlength
        rw [hlength] at hle
        have hshorter : ((c :: rest).drop size).length < (c :: rest).length := by
          rw [List.length_drop]
          omega
        obtain ⟨pieces, hpieces⟩ := ih _ hshorter _ rfl
        have hpart : ((c :: rest).take size).length = size := List.length_take_of_le hle
        have hlongest : IsLongest needles ((c :: rest).take size) ((c :: rest).drop size) := by
          refine isLongest_of_longestMatch ?_ ?_
          · exact List.ne_nil_of_length_pos (by omega)
          · rw [List.take_append_drop, hpart, hsize]
        have hcut := IsCut.marked hlongest hpieces
        rw [List.take_append_drop] at hcut
        exact ⟨_, hcut⟩

/-- A text has no other cut: at each place there is a needle that begins or there is none, and the
longest one has one length. -/
theorem IsCut.unique {others : List Piece} (h : IsCut needles text pieces)
    (hother : IsCut needles text others) : pieces = others := by
  induction h generalizing others with
  | nil =>
    generalize htext : ([] : Text) = text at hother
    cases hother with
    | nil => rfl
    | plain => cases htext
    | marked hlongest =>
      exact absurd (List.append_eq_nil_iff.mp htext.symm).1 hlongest.ne_nil
  | plain hnone hrest ih =>
    rename_i c rest pieces
    generalize htext : c :: rest = text at hother
    cases hother with
    | nil => cases htext
    | plain hnone' hrest' =>
      cases htext
      rw [ih hrest']
    | marked hlongest =>
      have hzero := longestMatch_eq_zero_iff.mpr hnone
      rw [htext, hlongest.longestMatch_eq] at hzero
      exact absurd (List.length_eq_zero_iff.mp hzero) hlongest.ne_nil
  | marked hlongest hrest ih =>
    rename_i part rest pieces
    have hsize := hlongest.longestMatch_eq
    generalize htext : part ++ rest = text at hother
    rw [htext] at hsize
    cases hother with
    | nil => exact absurd (List.append_eq_nil_iff.mp htext).1 hlongest.ne_nil
    | plain hnone =>
      rw [longestMatch_eq_zero_iff.mpr hnone] at hsize
      exact absurd (List.length_eq_zero_iff.mp hsize.symm) hlongest.ne_nil
    | marked hlongest' hrest' =>
      rw [hlongest'.longestMatch_eq] at hsize
      obtain ⟨rfl, rfl⟩ := List.append_inj htext hsize.symm
      rw [ih hrest']

theorem IsCut.textOf_eq (h : IsCut needles text pieces) : textOf pieces = text := by
  induction h with
  | nil => rfl
  | plain _ _ ih => rw [textOf, List.flatMap_cons, ← textOf, ih]; rfl
  | marked _ _ ih => rw [textOf, List.flatMap_cons, ← textOf, ih]; rfl

/-- The cut is made by the nonempty needles, in whatever order they come. -/
theorem IsCut.congr (hsame : ∀ needle, needle ≠ [] → (needle ∈ needles ↔ needle ∈ others))
    (h : IsCut needles text pieces) : IsCut others text pieces := by
  induction h with
  | nil => exact .nil
  | plain hnone _ ih =>
    refine .plain (fun needle hneedle hne hfound => ?_) ih
    rw [← isMissed_congr hsame] at hfound
    exact hnone needle ((hsame needle hne).mpr hneedle) hne hfound
  | marked hlongest _ ih =>
    obtain ⟨⟨needle, hneedle, hne, hfound, hequal⟩, hlongest⟩ := hlongest
    rw [isMissed_congr hsame] at hfound
    refine .marked ⟨⟨needle, (hsame needle hne).mp hneedle, hne, hfound, hequal⟩, ?_⟩ ih
    intro other hother hbegins
    rcases eq_or_ne other [] with rfl | hother'
    · exact Nat.zero_le _
    · exact hlongest other ((hsame other hother').mpr hother) hbegins

theorem IsCut.highlight_eq (h : IsCut needles text pieces) (opening closing : Text) :
    highlight opening closing needles text = shownWith opening closing pieces := by
  unfold highlight
  induction h with
  | nil => rfl
  | plain hnone _ ih =>
    rw [markFrom_of_longestMatch_eq_zero (longestMatch_eq_zero_iff.mpr hnone), ih]
    rfl
  | marked hlongest _ ih =>
    rename_i part rest pieces
    have hsize := hlongest.longestMatch_eq
    obtain ⟨c, part, rfl⟩ := List.exists_cons_of_ne_nil hlongest.ne_nil
    rw [List.cons_append] at hsize ⊢
    rw [markFrom_of_longestMatch (by rw [hsize]; exact Nat.succ_ne_zero _), hsize,
      ← List.cons_append, List.take_left, List.drop_left, ih]
    simp [shownWith, Piece.shown]

/-! ## The law -/

/-- Every text has exactly one cut into longest needles and the characters between them; its pieces
are the text, and what is shown of a text has the marks around the matches and nothing else. The
same needles, in whatever order and however often each, show the same. Only needles of a set that
differ in their last characters alone are never found, and no needle in normal form is one of them.
-/
theorem highlight_cuts (needles : List Text) (text : Text) :
    (∃! pieces, IsCut needles text pieces) ∧
    (∀ pieces, IsCut needles text pieces → textOf pieces = text ∧
      ∀ opening closing, highlight opening closing needles text =
        shownWith opening closing pieces) ∧
    (∀ others, (∀ needle, needle ≠ [] → (needle ∈ needles ↔ needle ∈ others)) →
      ∀ opening closing, highlight opening closing others text =
        highlight opening closing needles text) ∧
    ∀ raw : Text, ¬ IsMissed needles raw.normalize := by
  obtain ⟨pieces, hpieces⟩ := exists_isCut needles text
  refine ⟨⟨pieces, hpieces, fun others hothers => hothers.unique hpieces⟩,
    fun pieces h => ⟨h.textOf_eq, h.highlight_eq⟩, fun others hsame opening closing => ?_,
    not_isMissed_normalize needles⟩
  rw [hpieces.highlight_eq, (hpieces.congr hsame).highlight_eq]

/-- One needle is the beginning of another one, and a third one begins at the same place. The longer
one is marked where it stands; behind it the shorter one is found in another case. -/
theorem highlight_cuts_law :
    let text : Text := 'a' :: ' ' :: ("Law of" ++ ' ' :: ("law" ++ ['s']))
    let needles : List Text := ["law", [], "LAW of", "la"]
    let others : List Text := ["la", "LAW of", "la", "law"]
    let pieces : List Piece :=
      [.plain 'a', .plain ' ', .marked "Law of", .plain ' ', .marked "law", .plain 's']
    IsCut needles text pieces ∧ textOf pieces = text ∧
      (∀ needle, needle ≠ [] → (needle ∈ needles ↔ needle ∈ others)) ∧
      highlight openMark closeMark needles text = "a [[Law of]] [[law]]s".toList ∧
      highlight openMark closeMark others text = "a [[Law of]] [[law]]s".toList := by
  intro text needles others pieces
  have hcut : IsCut needles text pieces := by
    refine .plain (by decide) (.plain (by decide) ?_)
    refine .marked ⟨by decide, by decide⟩ (.plain (by decide) ?_)
    exact .marked ⟨by decide, by decide⟩ (.plain (by decide) .nil)
  have hsame : ∀ needle, needle ≠ [] → (needle ∈ needles ↔ needle ∈ others) := by
    simp only [needles, others, List.mem_cons, List.not_mem_nil, or_false]
    tauto
  obtain ⟨-, hshown, hothers, -⟩ := highlight_cuts needles text
  obtain ⟨htext, hmarks⟩ := hshown pieces hcut
  have hneedles : highlight openMark closeMark needles text = "a [[Law of]] [[law]]s".toList := by
    rw [hmarks]
    decide
  exact ⟨hcut, htext, hsame, hneedles, (hothers others hsame openMark closeMark).trans hneedles⟩

/-- The capital U+10400 beside another needle of one character stands where the text begins, and it
is not marked: the text as it is can be cut into no other piece than the character. -/
theorem highlight_leaves_far_capital :
    let c := Char.ofNat 0x10400
    let needles : List Text := [[c], "b"]
    highlight openMark closeMark needles [c] = [c] ∧ [c] ∈ needles ∧ BeginsUpToCase [c] [c] ∧
      ∀ pieces, textOf pieces = [c] →
        shownWith openMark closeMark pieces = highlight openMark closeMark needles [c] →
        pieces = [.plain c] := by
  intro c needles
  have hself : highlight openMark closeMark needles [c] = [c] := by decide +kernel
  refine ⟨hself, List.mem_cons_self .., List.prefix_refl _, fun pieces htext hshown => ?_⟩
  rw [hself] at hshown
  have hmarked : ∀ part, Piece.marked part ∉ pieces := by
    intro part hpart
    have hopen : '[' ∈ shownWith openMark closeMark pieces :=
      List.mem_flatMap.mpr ⟨_, hpart, List.mem_cons_self ..⟩
    rw [hshown] at hopen
    exact absurd hopen (by decide)
  cases pieces with
  | nil => cases htext
  | cons piece pieces =>
    cases piece with
    | marked part => exact absurd (List.mem_cons_self ..) (hmarked part)
    | plain d =>
      obtain ⟨rfl, hrest⟩ := List.cons.inj (show d :: textOf pieces = [c] from htext)
      cases pieces with
      | nil => rfl
      | cons piece pieces =>
        cases piece with
        | plain e => cases hrest
        | marked part =>
          exact absurd (List.mem_cons_of_mem _ (List.mem_cons_self ..)) (hmarked part)

end CorpusSearch.Snippet
