-- The schemes of addresses. An address that is resolved against a base stays as it is or has the
-- scheme of the base; where a scheme names hosts, an address with it is written with two slashes
-- behind it.
import CorpusSearch.Proofs.Text.Words
import CorpusSearch.Url.Join
import Mathlib.Data.List.TakeDrop
import Mathlib.Data.List.TakeWhile

namespace CorpusSearch.Url

/-! ## Schemes that are named -/

/-- What is read of an address: controls and spaces at the start do not count, nor do tabs and line
ends anywhere. -/
def cleaned (url : Text) : Text :=
  (url.dropWhile fun c => c.toNat ≤ 32).filter fun c => c != '\t' && c != '\r' && c != '\n'

/-- An address names a scheme in front of its first colon, in letters of either case. -/
def NamesScheme (url scheme : Text) : Prop :=
  ∃ first name rest, cleaned url = (first :: name) ++ ':' :: rest ∧ first.isAlpha = true ∧
    (∀ c ∈ first :: name, isSchemeChar c = true) ∧ scheme = (first :: name).map Char.toLower

variable {base url other scheme : Text}

theorem cutAt?_eq_some_iff {cut : Char → Bool} {text before behind : Text} :
    Text.cutAt? cut text = some (before, behind) ↔
      ∃ c, text = before ++ c :: behind ∧ cut c = true ∧ Text.Uncut cut before := by
  unfold Text.cutAt?
  rw [List.span_eq_takeWhile_dropWhile]
  constructor
  · intro h
    split at h
    · cases h
    · rename_i first c rest hspan
      cases h
      rw [Prod.mk.injEq] at hspan
      obtain ⟨hbefore, hbehind⟩ := hspan
      refine ⟨c, ?_, ?_, ?_⟩
      · rw [← hbefore, ← hbehind, List.takeWhile_append_dropWhile]
      · have hhead := List.head?_dropWhile_not (fun d => !cut d) text
        rw [hbehind] at hhead
        simpa using hhead
      · intro d hd
        rw [← hbefore] at hd
        simpa using List.mem_takeWhile_imp hd
  · rintro ⟨c, rfl, hc, hbefore⟩
    have htake : (before ++ c :: behind).takeWhile (fun d => !cut d) = before := by
      rw [List.takeWhile_append_of_pos fun d hd => by simp [hbefore d hd]]
      simp [hc]
    have hdrop : (before ++ c :: behind).dropWhile (fun d => !cut d) = c :: behind := by
      rw [List.dropWhile_append_of_pos fun d hd => by simp [hbefore d hd]]
      simp [hc]
    rw [htake, hdrop]

theorem exists_cleaned_append {start : Text} (hne : start ≠ []) (h : ∀ c ∈ start, 32 < c.toNat)
    (rest : Text) : ∃ behind, cleaned (start ++ rest) = start ++ behind := by
  obtain ⟨first, name, rfl⟩ := List.exists_cons_of_ne_nil hne
  have hfirst : ¬ first.toNat ≤ 32 := Nat.not_le_of_lt (h first List.mem_cons_self)
  unfold cleaned
  rw [List.cons_append, List.dropWhile_cons_of_neg (by simpa using hfirst), ← List.cons_append,
    List.filter_append]
  refine ⟨_, congrArg (· ++ _) (List.filter_eq_self.mpr fun c hc => ?_)⟩
  have hc := h c hc
  simp only [Bool.and_eq_true, bne_iff_ne]
  refine ⟨⟨?_, ?_⟩, ?_⟩ <;> rintro rfl <;> exact absurd hc (by decide)

theorem uncut_of_isSchemeChar {name : Text} (h : ∀ c ∈ name, isSchemeChar c = true) :
    Text.Uncut (· == ':') name := by
  intro c hc
  rw [beq_eq_false_iff_ne]
  rintro rfl
  exact absurd (h _ hc) (by decide)

/-- An address that names a scheme has it, whatever the other scheme is. -/
theorem NamesScheme.scheme_eq (h : NamesScheme url scheme) (other : Text) :
    (splitScheme other (cleaned url)).1 = scheme := by
  obtain ⟨first, name, rest, hurl, hfirst, hname, rfl⟩ := h
  have hcut : Text.cutAt? (· == ':') (cleaned url) = some (first :: name, rest) :=
    cutAt?_eq_some_iff.mpr ⟨':', hurl, rfl, uncut_of_isSchemeChar hname⟩
  have hall : (first :: name).all isSchemeChar = true := List.all_eq_true.mpr hname
  unfold splitScheme
  rw [hcut]
  dsimp only
  rw [hall, List.head?_cons, Option.any_some, hfirst]
  rfl

theorem namesScheme_of_ne (h : (splitScheme other (cleaned url)).1 ≠ other) :
    NamesScheme url (splitScheme other (cleaned url)).1 := by
  unfold splitScheme at h ⊢
  split at h
  · exact absurd rfl h
  · rename_i name rest hcut
    split at h
    · rename_i hscheme
      rw [if_pos hscheme]
      rw [Bool.and_eq_true, List.all_eq_true] at hscheme
      obtain ⟨c, hurl, hcolon, -⟩ := cutAt?_eq_some_iff.mp hcut
      rw [beq_iff_eq] at hcolon
      subst hcolon
      cases name with
      | nil => exact absurd hscheme.1 (by decide)
      | cons first name => exact ⟨first, name, rest, hurl, hscheme.1, hscheme.2, rfl⟩
    · exact absurd rfl h

/-- An address that is read has the scheme that it names, else the other one. -/
theorem scheme_of_read {parts : Parts} (h : Parts.read other url = .ok parts) :
    parts.scheme = (splitScheme other (cleaned url)).1 := by
  unfold Parts.read at h
  simp only [bind, Except.bind] at h
  split at h
  · cases h
  · split at h
    · cases h
    · cases h
      rfl

/-! ## Addresses that are written -/

/-- An address whose scheme names hosts is written with two slashes behind the scheme. -/
theorem isPrefix_write {parts : Parts} (hscheme : parts.scheme ≠ [])
    (hhost : hostSchemes.contains parts.scheme = true) :
    parts.scheme ++ [':', '/', '/'] <+: parts.write := by
  unfold Parts.write
  extract_lets path named rooted
  have hslashes : ∃ rest, (if named then ['/', '/'] ++ parts.authority ++ rooted else path) =
      '/' :: '/' :: rest := by
    split
    · exact ⟨_, rfl⟩
    · rename_i hnamed
      have hpath : List.isPrefixOf ['/', '/'] path = true := by
        have hempty : parts.scheme.isEmpty = false := by simpa using hscheme
        simp only [named, hempty, hhost, Bool.or_eq_true, not_or] at hnamed
        simpa using hnamed.2
      obtain ⟨rest, hrest⟩ := List.isPrefixOf_iff_prefix.mp hpath
      exact ⟨rest, hrest.symm⟩
  obtain ⟨rest, hrest⟩ := hslashes
  rw [hrest, if_neg (by simpa using hscheme)]
  refine ⟨rest ++ (if parts.query.isEmpty then [] else '?' :: parts.query) ++
    (if parts.fragment.isEmpty then [] else '#' :: parts.fragment), ?_⟩
  simp

/-! ## Addresses that are resolved -/

theorem join_nil (hbase : base ≠ []) : join base [] = .ok base := by
  simp [join, hbase, pure, Except.pure]

/-- An address that is resolved stays as it is when it has another scheme than the base or one that
does not know relative addresses. Else it is written with the scheme of the base. -/
theorem join_cases {joined : Text} (hbase : base ≠ []) (hurl : url ≠ [])
    (h : join base url = .ok joined) :
    ∃ baseParts parts, Parts.read [] base = .ok baseParts ∧
      Parts.read baseParts.scheme url = .ok parts ∧
      (joined = url ∧
          (parts.scheme ≠ baseParts.scheme ∨ relativeSchemes.contains parts.scheme = false) ∨
        ∃ written : Parts, written.scheme = baseParts.scheme ∧ joined = written.write) := by
  unfold join at h
  simp only [bind, Except.bind, pure, Except.pure, List.isEmpty_iff, hbase, hurl, if_false] at h
  cases hread : Parts.read [] base with
  | error fault =>
    rw [hread] at h
    cases h
  | ok baseParts =>
    rw [hread] at h
    dsimp only at h
    cases hown : Parts.read baseParts.scheme url with
    | error fault =>
      rw [hown] at h
      cases h
    | ok parts =>
      rw [hown] at h
      dsimp only at h
      refine ⟨baseParts, parts, rfl, hown, ?_⟩
      split at h
      · rename_i hother
        cases h
        left
        simpa using hother
      · rename_i hsame
        have hscheme : parts.scheme = baseParts.scheme := by
          rw [Bool.or_eq_true, not_or, decide_eq_true_iff, not_not] at hsame
          exact hsame.1
        right
        split at h
        · cases h
          exact ⟨parts, hscheme, rfl⟩
        · split at h
          · cases h
            refine ⟨_, ?_, rfl⟩
            exact hscheme
          · cases h
            refine ⟨_, ?_, rfl⟩
            exact hscheme

end CorpusSearch.Url
