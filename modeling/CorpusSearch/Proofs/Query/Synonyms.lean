-- What a term is expanded to. Its phrases are the configured synonyms, of several entries for one
-- term the last; but each synonym loses its quotation marks twice and is brought into normal form
-- twice. The second time changes nothing exactly where the first has left a settled text: one
-- without quotation marks at its ends and without capitals.
import CorpusSearch.Proofs.Query.Repetitions
import CorpusSearch.Proofs.Text.Normal
import CorpusSearch.Proofs.Text.Settled
import CorpusSearch.Query.Expr
import CorpusSearch.Query.Synonyms

namespace CorpusSearch.Query

open Text

/-! ## Tables -/

namespace Synonyms

theorem phrases_put (word term : Text) (phrases : List Text) (table : Synonyms) :
    (table.put term phrases).phrases word =
      if term = word then phrases else table.phrases word := by
  induction table with
  | nil =>
    unfold put Synonyms.phrases
    by_cases h : term = word <;> simp [h]
  | cons entry table ih =>
    obtain ⟨other, others⟩ := entry
    unfold put
    unfold Synonyms.phrases at ih ⊢
    by_cases hother : other = term
    · subst hother
      rw [if_pos rfl]
      by_cases h : other = word <;> simp [h]
    · rw [if_neg hother]
      by_cases hword : other = word
      · have hterm : term ≠ word := fun h => hother (hword.trans h.symm)
        simp [hword, hterm]
      · simpa [hword] using ih

/-- The values that entries give to a word; the last entry of the word counts. -/
def lastOf (word : Text) (entries : List (Text × List Text)) : List Text :=
  ((entries.reverse.find? fun entry => entry.1 = word).map (·.2)).getD []

theorem lastOf_concat (word : Text) (entries : List (Text × List Text))
    (entry : Text × List Text) :
    lastOf word (entries ++ [entry]) =
      if entry.1 = word then entry.2 else lastOf word entries := by
  unfold lastOf
  rw [List.reverse_append, List.reverse_singleton, List.singleton_append, List.find?_cons]
  by_cases h : entry.1 = word <;> simp [h]

theorem ofList_concat (entries : List (Text × List Text)) (entry : Text × List Text) :
    ofList (entries ++ [entry]) = (ofList entries).put entry.1 entry.2 := by
  unfold ofList
  rw [List.foldl_append]
  rfl

theorem phrases_ofList (word : Text) (entries : List (Text × List Text)) :
    (ofList entries).phrases word = lastOf word entries := by
  induction entries using List.reverseRecOn with
  | nil => rfl
  | append_singleton entries entry ih => rw [ofList_concat, phrases_put, lastOf_concat, ih]

theorem mem_put {entry : Text × List Text} {term : Text} {phrases : List Text} {table : Synonyms}
    (h : entry ∈ table.put term phrases) : entry = (term, phrases) ∨ entry ∈ table := by
  induction table with
  | nil => exact .inl (List.mem_singleton.mp h)
  | cons first table ih =>
    obtain ⟨other, others⟩ := first
    unfold put at h
    split at h
    · rename_i hother
      rcases List.mem_cons.mp h with rfl | hmem
      · exact .inl (Prod.ext hother rfl)
      · exact .inr (List.mem_cons_of_mem _ hmem)
    · rcases List.mem_cons.mp h with rfl | hmem
      · exact .inr List.mem_cons_self
      · exact (ih hmem).imp_right (List.mem_cons_of_mem _)

theorem mem_ofList {entry : Text × List Text} {entries : List (Text × List Text)}
    (h : entry ∈ ofList entries) : entry ∈ entries := by
  induction entries using List.reverseRecOn with
  | nil => exact h
  | append_singleton entries last ih =>
    rw [ofList_concat] at h
    rcases mem_put h with rfl | hmem
    · exact List.mem_append_right _ (List.mem_singleton.mpr rfl)
    · exact List.mem_append_left _ (ih hmem)

end Synonyms

/-- The synonyms that are configured for a word in normal form, as they are written. -/
def configured (word : Text) (raw : List (Text × List Text)) : List Text :=
  Synonyms.lastOf word (raw.map fun entry => (entry.1.strip.normalize, entry.2))

/-- A synonym as a table holds it: without a quotation mark at each end, and in normal form. -/
def tidied (synonym : Text) : Text := (unquote synonym).normalize

/-- A table that is built from entries holds the configured synonyms tidied. -/
theorem phrases_build (word : Text) (raw : List (Text × List Text)) :
    (Synonyms.build raw).phrases word = (configured word raw).map tidied := by
  unfold Synonyms.build configured
  rw [Synonyms.phrases_ofList]
  induction raw using List.reverseRecOn with
  | nil => rfl
  | append_singleton raw entry ih =>
    simp only [List.map_append, List.map_singleton, Synonyms.lastOf_concat, ih]
    split <;> rfl

/-! ## Quotation marks -/

/-- The text without one quotation mark at its end. -/
def unquoteEnd (text : Text) : Text := if text.getLast? = some '"' then text.dropLast else text

theorem unquote_quote (rest : Text) : unquote ('"' :: rest) = unquoteEnd rest := rfl

theorem unquote_of_head {text : Text} (h : text.head? ≠ some '"') :
    unquote text = unquoteEnd text := by
  cases text with
  | nil => rfl
  | cons c rest =>
    have hquote : c ≠ '"' := by
      rintro rfl
      exact h rfl
    simp [unquote, unquoteEnd, hquote]

theorem exists_unquoteEnd (text : Text) :
    ∃ right, text = unquoteEnd text ++ right ∧ ∀ c ∈ right, c = '"' := by
  unfold unquoteEnd
  split
  · rename_i hlast
    exact ⟨['"'], (List.dropLast_append_getLast? '"' hlast).symm, by simp⟩
  · exact ⟨[], by simp, by simp⟩

theorem exists_unquote (text : Text) :
    ∃ left right, text = left ++ unquote text ++ right ∧ ∀ c ∈ left ++ right, c = '"' := by
  by_cases hhead : text.head? = some '"'
  · obtain ⟨rest, rfl⟩ := List.head?_eq_some_iff.mp hhead
    obtain ⟨right, hrest, hright⟩ := exists_unquoteEnd rest
    exact ⟨['"'], right, congrArg (List.cons '"') hrest, by simpa using hright⟩
  · obtain ⟨right, htext, hright⟩ := exists_unquoteEnd text
    rw [unquote_of_head hhead]
    exact ⟨[], right, htext, hright⟩

theorem isInfix_unquote (text : Text) : unquote text <:+: text := by
  obtain ⟨left, right, htext, _⟩ := exists_unquote text
  exact ⟨left, right, htext.symm⟩

theorem count_unquote (text : Text) :
    text.count '"' + (unquote text).length = (unquote text).count '"' + text.length := by
  obtain ⟨left, right, htext, hquotes⟩ := exists_unquote text
  have hends : (left ++ right).count '"' = (left ++ right).length :=
    List.count_eq_length.mpr fun c hc => (hquotes c hc).symm
  generalize unquote text = inner at htext
  subst htext
  simp only [List.count_append, List.length_append] at hends ⊢
  omega

/-- A text keeps its length only where there is no quotation mark at its ends. -/
theorem length_unquote_eq_iff (text : Text) :
    (unquote text).length = text.length ↔ text.head? ≠ some '"' ∧ text.getLast? ≠ some '"' := by
  by_cases hhead : text.head? = some '"'
  · obtain ⟨rest, rfl⟩ := List.head?_eq_some_iff.mp hhead
    have hle : (unquoteEnd rest).length ≤ rest.length := by
      unfold unquoteEnd
      split <;> simp
    rw [unquote_quote, List.length_cons]
    constructor
    · intro h
      omega
    · exact fun h => absurd hhead h.1
  · rw [unquote_of_head hhead]
    unfold unquoteEnd
    by_cases hlast : text.getLast? = some '"'
    · have hpos : 0 < text.length := by
        cases text with
        | nil => cases hlast
        | cons c rest => exact Nat.succ_pos _
      rw [if_pos hlast, List.length_dropLast]
      constructor
      · intro h
        omega
      · exact fun h => absurd hlast h.2
    · simp [hhead, hlast]

theorem unquote_eq_self {text : Text} (h : (unquote text).length = text.length) :
    unquote text = text :=
  (isInfix_unquote text).eq_of_length h

theorem unquote_of_not_mem {text : Text} (h : '"' ∉ text) : unquote text = text := by
  have hcount : text.count '"' = 0 := List.count_eq_zero.mpr h
  have hends := count_unquote text
  have hle := (isInfix_unquote text).length_le
  exact unquote_eq_self (by omega)

/-! ## Settled texts -/

/-- A text that stays as it is when it is tidied once more: there is no quotation mark at its ends
and no capital in it. -/
def IsSettled (text : Text) : Prop :=
  text.head? ≠ some '"' ∧ text.getLast? ≠ some '"' ∧ ∀ c ∈ text, lowerChar c = [c]

theorem tidied_eq_self_iff {text : Text} (h : IsDecomposed text) :
    tidied text = text ↔ IsSettled text := by
  have hinner : IsDecomposed (unquote text) := h.part (isInfix_unquote text)
  unfold IsSettled
  rw [← and_assoc, ← length_unquote_eq_iff]
  constructor
  · intro heq
    have hlength : (unquote text).length = text.length := by
      have hcount : text.count '"' = (unquote text).count '"' := by
        rw [← count_quote_normalize hinner.self]
        exact congrArg (List.count '"') heq.symm
      have hends := count_unquote text
      omega
    refine ⟨hlength, h.normalize_eq_self_iff.mp ?_⟩
    unfold tidied at heq
    rwa [unquote_eq_self hlength] at heq
  · rintro ⟨hlength, hsmall⟩
    unfold tidied
    rw [unquote_eq_self hlength]
    exact h.normalize_eq_self_iff.mpr hsmall

/-- A text in normal form that is tidied occurs in what it was exactly when there was no capital. -/
theorem tidied_infix_iff {text : Text} (h : IsDecomposed text) :
    tidied text <:+: text ↔ ∀ c ∈ text, lowerChar c = [c] := by
  have hinner : IsDecomposed (unquote text) := h.part (isInfix_unquote text)
  constructor
  · rintro ⟨left, right, htext⟩
    -- The ends are as long as what was taken off, and they have as many quotation marks.
    have hquotes : (left ++ right).count '"' = (left ++ right).length := by
      have hends := count_unquote text
      have hcount : (tidied text).count '"' = (unquote text).count '"' :=
        count_quote_normalize hinner.self
      have hlength : (unquote text).length ≤ (tidied text).length := length_le_normalize _
      have hle : (left ++ right).count '"' ≤ (left ++ right).length := List.count_le_length
      have hall : text.count '"' = left.count '"' + (tidied text).count '"' + right.count '"' := by
        rw [← List.count_append, ← List.count_append, htext]
      have hsize : text.length = left.length + (tidied text).length + right.length := by
        rw [← List.length_append, ← List.length_append, htext]
      rw [List.count_append, List.length_append] at hle ⊢
      omega
    intro c hc
    rw [← htext, List.append_assoc, List.mem_append, List.mem_append] at hc
    have hends : c ∈ left ++ right → lowerChar c = [c] := by
      intro hmem
      rw [← List.count_eq_length.mp hquotes c hmem]
      decide
    rcases hc with hleft | hmiddle | hright
    · exact hends (List.mem_append_left _ hleft)
    · exact lowerChar_of_mem_normalize hinner.self hmiddle
    · exact hends (List.mem_append_right _ hright)
  · intro hsmall
    have hkept : tidied text = unquote text :=
      hinner.normalize_eq_self_iff.mpr fun c hc => hsmall c ((isInfix_unquote text).subset hc)
    rw [hkept]
    exact isInfix_unquote text

/-! ## Expansion -/

theorem expand_term (table : Synonyms) (word : Text) :
    expand table [⟨.term, some word⟩] =
      ⟨.term, some word⟩ :: ((table.phrases word).map tidied).eraseDups.map fun text =>
        ⟨.phrase, some text⟩ := by
  have hflat : [(⟨.term, some word⟩ : Token)].flatMap (withSynonyms table) =
      ⟨.term, some word⟩ :: ((table.phrases word).map tidied).map fun text =>
        ⟨.phrase, some text⟩ := by
    rw [List.flatMap_singleton, List.map_map]
    rfl
  unfold expand
  rw [hflat, List.eraseDups_cons, List.filter_eq_self.mpr, eraseDups_map]
  · intro text _ other _ heq
    cases heq
    rfl
  · intro token htoken
    obtain ⟨text, _, rfl⟩ := List.mem_map.mp htoken
    rfl

/-- A term is followed by the phrases of the configured synonyms, tidied twice over; the phrases are
those of the synonyms tidied once exactly when all of these are settled. Where a synonym without
quotation marks stands between blanks or ends, its phrase holds exactly when the normal form of the
synonym has no capitals. -/
theorem expand_build (raw : List (Text × List Text)) (word : Text) :
    let synonyms := configured word raw
    let inserted := fun texts : List Text =>
      texts.eraseDups.map fun text => (⟨.phrase, some text⟩ : Token)
    expand (Synonyms.build raw) [⟨.term, some word⟩] =
        ⟨.term, some word⟩ :: inserted ((synonyms.map tidied).map tidied) ∧
      (inserted ((synonyms.map tidied).map tidied) = inserted (synonyms.map tidied) ↔
        ∀ text ∈ synonyms.map tidied, IsSettled text) ∧
      ∀ synonym ∈ synonyms, '"' ∉ synonym →
        ((∀ before behind, EndsBlank before → StartsBlank behind →
            (Expr.phrase (tidied (tidied synonym))).holds
              (normalize (before ++ synonym ++ behind)) = true) ↔
          ∀ c ∈ synonym.normalize, lowerChar c = [c]) := by
  intro synonyms inserted
  refine ⟨?_, ?_, ?_⟩
  · rw [expand_term, phrases_build]
  · have hinserted : ∀ texts others : List Text,
        inserted texts = inserted others ↔ texts.eraseDups = others.eraseDups := by
      intro texts others
      refine List.map_inj_right fun text other heq => ?_
      cases heq
      rfl
    rw [hinserted, eraseDups_map_eq_iff]
    refine forall₂_congr fun text htext => ?_
    obtain ⟨synonym, _, rfl⟩ := List.mem_map.mp htext
    exact tidied_eq_self_iff (isDecomposed_normalize _)
  · intro synonym _ hquote
    have htidied : tidied synonym = synonym.normalize := by
      rw [tidied, unquote_of_not_mem hquote]
    rw [htidied, ← tidied_infix_iff (isDecomposed_normalize synonym)]
    simp only [Expr.holds, occursIn_iff]
    constructor
    · intro hall
      have hends : EndsBlank [] := fun c hc => nomatch hc
      have hstarts : StartsBlank [] := fun c hc => nomatch hc
      simpa using hall [] [] hends hstarts
    · intro hin before behind hbefore hbehind
      rw [normalize_excerpt hbefore hbehind]
      exact hin.trans ⟨before.normalize, behind.normalize, rfl⟩

/-- Of three synonyms of one term the third repeats the second. -/
theorem expand_build_beddoe :
    let raw : List (Text × List Text) := [("Beddoe ", ["\"Re Beddoe\"", "COSTS", "costs"])]
    expand (Synonyms.build raw) [⟨.term, some "beddoe"⟩] =
        [⟨.term, some "beddoe"⟩, ⟨.phrase, some "re beddoe"⟩, ⟨.phrase, some "costs"⟩] ∧
      ∀ before behind, EndsBlank before → StartsBlank behind →
        (Expr.phrase "costs").holds (normalize (before ++ "COSTS".toList ++ behind)) = true := by
  intro raw
  obtain ⟨hexpand, _, hholds⟩ := expand_build raw "beddoe"
  have hmem : "COSTS".toList ∈ configured "beddoe" raw := by decide
  have hcosts : tidied (tidied "COSTS") = "costs".toList := by decide
  have hsmall : ((normalize "COSTS").all fun c => lowerChar c = [c]) = true := by decide
  have hfound := (hholds _ hmem (by decide)).mpr (by simpa using hsmall)
  rw [hcosts] at hfound
  refine ⟨?_, hfound⟩
  rw [hexpand]
  decide

/-- The sign for a telephone is written in capitals in normal form. As a synonym it becomes a phrase
in small letters, which the text of the sign does not have. -/
theorem expand_build_telephone :
    let table := Synonyms.build [("phone", ["\u2121"])]
    tidied "\u2121" = "TEL".toList ∧
      expand table [⟨.term, some "phone"⟩] = [⟨.term, some "phone"⟩, ⟨.phrase, some "tel"⟩] ∧
      (Expr.phrase "tel").holds (normalize "phone \u2121") = false := by
  decide

end CorpusSearch.Query
