-- What is written is read back, on one line or on many: texts with their escapes, whole numbers as
-- long as they keep to the limit of digits, lists, and mappings whose keys are different texts.
-- Floats, and what has no form of its own, are left out.
import CorpusSearch.Json.Printer
import CorpusSearch.Json.Reader
import CorpusSearch.Proofs.Number.Decimal
import CorpusSearch.Proofs.Settings.Mapping
import CorpusSearch.Proofs.Text.Raw
import Mathlib.Data.List.TakeDrop
import Mathlib.Tactic.IntervalCases

namespace CorpusSearch.Json

variable {rest : Text}

/-! ## Strings -/

theorem exists_hexadecimal_of_control : ∀ n < 32, ∃ a b c d,
    Text.hexadecimal 4 n = [a, b, c, d] ∧ Number.ofHex? [a, b, c, d] = some n := by
  intro n hn
  interval_cases n <;> exact ⟨_, _, _, _, rfl, rfl⟩

theorem readString_stringChar (c : Char) (read : RawText) (rest : Text) :
    readString read (stringChar c ++ rest) = readString (.char c :: read) rest := by
  unfold stringChar
  split
  iterate 7 rfl
  rename_i hquote hslash _ _ _ _ _
  split
  · rename_i hcontrol
    obtain ⟨a, b, c', d, hwritten, hread⟩ := exists_hexadecimal_of_control c.toNat hcontrol
    have hpush : pushUnit read c.toNat = .char c :: read := by
      have hwhole : Half.ofUnit? c.toNat = none := by
        refine dif_neg ?_
        simp only [Text.isHighHalf, Text.isLowHalf, Bool.or_eq_true, Bool.and_eq_true,
          decide_eq_true_eq]
        omega
      unfold pushUnit
      rw [hwhole, Char.ofNat_toNat]
    rw [hwritten]
    change readString read ('\\' :: 'u' :: a :: b :: c' :: d :: rest) = _
    rw [readString, hread]
    dsimp only
    rw [hpush]
  · rename_i hcontrol
    have hplain : (c.toNat < 32 || c == '\\') = false := by
      rw [Bool.or_eq_false_iff, decide_eq_false_iff_not, beq_eq_false_iff_ne]
      exact ⟨hcontrol, hslash⟩
    change readString read (c :: rest) = _
    rw [readString.eq_def]
    split
    · rename_i heq
      cases heq
      exact absurd rfl hquote
    · rename_i heq
      cases heq
      exact absurd rfl hslash
    · rename_i heq
      cases heq
      exact absurd rfl hslash
    · rename_i heq
      cases heq
      rw [hplain]
      rfl
    · rename_i heq
      cases heq

theorem readString_flatMap_stringChar (t rest : Text) (read : RawText) :
    readString read (t.flatMap stringChar ++ '"' :: rest) = some (read.reverse ++ t.raw, rest) := by
  induction t generalizing read with
  | nil => exact congrArg (fun text => some (text, rest)) (List.append_nil _).symm
  | cons c t ih =>
    rw [List.flatMap_cons, List.append_assoc, readString_stringChar, ih, List.reverse_cons,
      List.append_assoc]
    rfl

theorem readString_string (t rest : Text) :
    readString [] (t.flatMap stringChar ++ '"' :: rest) = some (t.raw, rest) :=
  readString_flatMap_stringChar t rest []

theorem textOf_raw (t : Text) : textOf t.raw = t := RawText.filled_raw _ t

/-! ## Whole numbers -/

/-- What may stand behind a whole number: nothing that would go on with it. -/
def EndsNumber (rest : Text) : Prop :=
  ∀ c ∈ rest.head?, c.isDigit = false ∧ c ≠ '.' ∧ c ≠ 'e' ∧ c ≠ 'E'

theorem span_digits (n : Nat) (hrest : EndsNumber rest) :
    spanDigits (Number.digits n ++ rest) = (Number.digits n, rest) := by
  have hdigits : ∀ c ∈ Number.digits n, c.isDigit = true := fun c => Number.isDigit_of_mem_digits
  have hstop : rest.takeWhile Char.isDigit = [] ∧ rest.dropWhile Char.isDigit = rest := by
    cases rest with
    | nil => exact ⟨rfl, rfl⟩
    | cons c rest =>
      have hc : c.isDigit = false := (hrest c rfl).1
      rw [List.takeWhile_cons, List.dropWhile_cons, hc]
      exact ⟨rfl, rfl⟩
  rw [spanDigits, List.span_eq_takeWhile_dropWhile, List.takeWhile_append_of_pos hdigits,
    List.dropWhile_append_of_pos hdigits, hstop.1, hstop.2, List.append_nil]

theorem readFraction_eq_none (hrest : EndsNumber rest) : readFraction rest = none := by
  cases rest with
  | nil => rfl
  | cons c rest =>
    have hc := (hrest c rfl).2.1
    unfold readFraction
    split
    · rename_i heq
      cases heq
      exact absurd rfl hc
    · rfl

theorem readExponent_eq_none (hrest : EndsNumber rest) : readExponent rest = none := by
  cases rest with
  | nil => rfl
  | cons c rest =>
    obtain ⟨-, -, he, hE⟩ := hrest c rfl
    unfold readExponent
    dsimp only
    rw [beq_eq_false_iff_ne.mpr he, beq_eq_false_iff_ne.mpr hE]
    rfl

/-- Digits are read to their end, a leading zero being all there is. -/
theorem readNumber_digits (negative : Bool) {n : Nat}
    (hlimit : (Number.digits n).length ≤ Number.maxDigits) (hrest : EndsNumber rest) :
    readNumber negative (Number.digits n ++ rest) =
      .ok (.int (if negative then -(n : Int) else n), rest) := by
  unfold readNumber
  split
  rename_i whole behind hparts
  obtain ⟨rfl, rfl⟩ : whole = Number.digits n ∧ behind = rest := by
    rcases Nat.eq_zero_or_pos n with rfl | hpos
    · cases hparts
      exact ⟨rfl, rfl⟩
    · split at hparts
      · rename_i heq
        obtain ⟨c, figures, hfigures, -⟩ := Number.exists_digits_eq_cons n
        rw [hfigures, List.cons_append] at heq
        have hzero := Number.head_digits_ne_zero hpos
        rw [hfigures, (List.cons.inj heq).1] at hzero
        exact absurd rfl hzero
      · rw [span_digits n hrest] at hparts
        exact ⟨(congrArg Prod.fst hparts).symm, (congrArg Prod.snd hparts).symm⟩
  have hsome : (Number.digits n).isEmpty = false := by
    rw [List.isEmpty_eq_false_iff]
    exact Number.digits_ne_nil n
  simp only [hsome, Bool.false_eq_true, if_false, readFraction_eq_none hrest, Option.map_none,
    Option.getD_none, readExponent_eq_none hrest, Option.isNone_none, Bool.and_self, if_true,
    if_neg (Nat.not_lt.mpr hlimit), Number.ofDigits_digits]

theorem findSome?_words_eq_none {text : Text} (h : ∃ c ∈ text.take 2, c.isDigit = true) :
    (words.findSome? fun (word, value) => (behind? word text).map fun rest => (value, rest)) =
      none := by
  have hwords : ∀ entry ∈ words,
      2 ≤ entry.1.length ∧ ∀ c ∈ entry.1.take 2, c.isDigit = false := by
    have hall : (words.all fun entry =>
        2 ≤ entry.1.length && (entry.1.take 2).all fun c => !c.isDigit) = true := by decide
    simpa using hall
  obtain ⟨c, hc, hdigit⟩ := h
  refine List.findSome?_eq_none_iff.mpr fun entry hentry => ?_
  obtain ⟨hlength, hletters⟩ := hwords entry hentry
  have hprefix : entry.1.isPrefixOf text = false := by
    rw [Bool.eq_false_iff]
    intro hprefix
    obtain ⟨behind, rfl⟩ := List.isPrefixOf_iff_prefix.mp hprefix
    rw [List.take_append_of_le_length hlength] at hc
    rw [hletters c hc] at hdigit
    cases hdigit
  change (behind? entry.1 text).map _ = none
  rw [behind?, hprefix]
  rfl

theorem readPlain_decimal {i : Int}
    (hlimit : (Number.digits i.natAbs).length ≤ Number.maxDigits) (hrest : EndsNumber rest) :
    readPlain (Number.decimal i ++ rest) = .ok (.int i, rest) := by
  obtain ⟨c, figures, hfigures, hc⟩ := Number.exists_digits_eq_cons i.natAbs
  have hread := readNumber_digits (i < 0) hlimit hrest
  rw [hfigures] at hread
  unfold Number.decimal
  rw [hfigures]
  by_cases hsign : i < 0
  · have hvalue : -(i.natAbs : Int) = i := by omega
    rw [if_pos hsign]
    unfold readPlain
    rw [findSome?_words_eq_none ⟨c, List.mem_cons_of_mem _ List.mem_cons_self, hc⟩]
    rw [decide_eq_true hsign, if_pos rfl, hvalue] at hread
    exact hread
  · have hvalue : (i.natAbs : Int) = i := by omega
    rw [if_neg hsign]
    unfold readPlain
    rw [findSome?_words_eq_none ⟨c, List.mem_cons_self, hc⟩]
    rw [decide_eq_false hsign, if_neg Bool.false_ne_true, hvalue] at hread
    dsimp only
    split
    · rename_i heq
      cases heq
      cases hc
    · exact hread

/-! ## Values -/

/-- A value that is read back as it is written, where `depth` lists and mappings are around it. -/
inductive Readable : (depth : Nat) → Value → Prop
  | null {depth : Nat} : Readable depth .null
  | bool {depth : Nat} (b : Bool) : Readable depth (.bool b)
  | int {depth : Nat} {i : Int} (hlimit : (Number.digits i.natAbs).length ≤ Number.maxDigits) :
      Readable depth (.int i)
  | text {depth : Nat} (t : Text) : Readable depth (.text t)
  | list {depth : Nat} {items : List Value} (hdepth : depth < maxDepth)
      (hitems : ∀ item ∈ items, Readable (depth + 1) item) : Readable depth (.list items)
  | mapping {depth : Nat} {entries : Entries} (hdepth : depth < maxDepth)
      (honce : entries.Distinct) (hkeys : ∀ entry ∈ entries, ∃ name, entry.1 = .text name)
      (hvalues : ∀ entry ∈ entries, Readable (depth + 1) entry.2) :
      Readable depth (.mapping entries)

/-- A character that can stand at the start of a value. -/
def startsValue (c : Char) : Bool := !isSpace c && c != ']' && c != '\x7d'

theorem skipSpace_lineBreak (onLines : Bool) (level : Nat) (text : Text) :
    skipSpace (lineBreak onLines level ++ text) = skipSpace text := by
  have hspaces : ∀ c ∈ lineBreak onLines level, isSpace c = true := by
    intro c hc
    cases onLines with
    | false => cases hc
    | true =>
      rcases List.mem_cons.mp hc with rfl | hc
      · rfl
      · rw [List.eq_of_mem_replicate hc]
        rfl
  exact List.dropWhile_append_of_pos hspaces

theorem skipSpace_of_not_space {c : Char} {text : Text} (h : isSpace c = false) :
    skipSpace (c :: text) = c :: text := by
  rw [skipSpace, List.dropWhile_cons, h, if_neg Bool.false_ne_true]

/-- The start of a whole number is none of the characters that mean something else. -/
theorem ne_of_startsNumber {c d : Char} (h : c = '-' ∨ c.isDigit = true)
    (hd : d ≠ '-' ∧ d.isDigit = false) : c ≠ d := by
  rintro rfl
  rcases h with rfl | hdigit
  · exact hd.1 rfl
  · rw [hdigit] at hd
    cases hd.2

variable (onLines : Bool) (level : Nat)

theorem printAt_list_cons (item : Value) (items : List Value) :
    printAt onLines level (.list (item :: items)) =
      '[' :: printItems onLines (level + 1) (item :: items) ++ lineBreak onLines level ++
        [']'] :=
  rfl

theorem printAt_mapping_cons (entry : Key × Value) (entries : Entries) :
    printAt onLines level (.mapping (entry :: entries)) =
      '\x7b' :: printEntries onLines (level + 1) (entry :: entries) ++ lineBreak onLines level ++
        ['\x7d'] :=
  rfl

/-- Every value starts with a character that ends neither a list nor a mapping. -/
theorem exists_printAt_eq_cons {depth : Nat} {value : Value} (h : Readable depth value) :
    ∃ c t, printAt onLines level value = c :: t ∧ startsValue c = true := by
  cases h with
  | null => exact ⟨'n', _, rfl, rfl⟩
  | bool b => cases b <;> exact ⟨_, _, rfl, rfl⟩
  | text t => exact ⟨'"', _, rfl, rfl⟩
  | @int _ i =>
    obtain ⟨c, figures, hdecimal, hc⟩ := Number.exists_decimal_eq_cons i
    refine ⟨c, figures, hdecimal, ?_⟩
    simp [startsValue, isSpace, ne_of_startsNumber hc]
  | @list _ items => cases items <;> exact ⟨'[', _, rfl, rfl⟩
  | @mapping _ entries => cases entries <;> exact ⟨'\x7b', _, rfl, rfl⟩

theorem skipSpace_printAt {depth : Nat} {value : Value} (h : Readable depth value) (rest : Text) :
    skipSpace (printAt onLines level value ++ rest) = printAt onLines level value ++ rest := by
  obtain ⟨c, t, hprint, hc⟩ := exists_printAt_eq_cons onLines level h
  rw [hprint, List.cons_append, skipSpace_of_not_space]
  simp only [startsValue, Bool.and_eq_true, Bool.not_eq_true'] at hc
  exact hc.1.1

theorem endsNumber_cons {c : Char} (hc : c.isDigit = false ∧ c ≠ '.' ∧ c ≠ 'e' ∧ c ≠ 'E')
    (rest : Text) : EndsNumber (c :: rest) := by
  intro d hd
  cases hd
  exact hc

theorem endsNumber_lineBreak {c : Char} (hc : c.isDigit = false ∧ c ≠ '.' ∧ c ≠ 'e' ∧ c ≠ 'E')
    (rest : Text) : EndsNumber (lineBreak onLines level ++ c :: rest) := by
  cases onLines with
  | false => exact endsNumber_cons hc rest
  | true => exact endsNumber_cons (by decide) _

/-- A value is read from what is written of it, whatever stands behind, with as much fuel as it has
characters. -/
def ReadBack (depth : Nat) (value : Value) : Prop :=
  ∀ (onLines : Bool) (level fuel : Nat) (rest : Text),
    (printAt onLines level value).length ≤ fuel → EndsNumber rest →
      readValue fuel depth (printAt onLines level value ++ rest) = .ok (value, rest)

/-! ## One item after another -/

section Separated

variable {α : Type}

/-- What is written of the items that stand behind one. -/
def behindItem (written : α → Text) : List α → Text
  | [] => []
  | item :: items =>
    ',' :: (lineBreak onLines level ++ (written item ++ behindItem written items))

/-- A loop reads each of the items from what is written of it: the item starts without white space,
behind a comma the loop goes on, and it stops at the end, which stands at a level of its own. -/
structure ReadsEach (below : Nat) (close : Char) (written : α → Text)
    (loop : Nat → List α → Text → Except Fault (List α × Text)) (items : List α) : Prop where
  start : ∀ item ∈ items, ∀ rest, skipSpace (written item ++ rest) = written item ++ rest
  comma : ∀ item ∈ items, ∀ (fuel : Nat) (read : List α) (rest : Text),
    (written item).length ≤ fuel → loop (fuel + 1) read (written item ++ ',' :: rest) =
      loop fuel (item :: read) (skipSpace rest)
  stop : ∀ item ∈ items, ∀ (fuel : Nat) (read : List α) (rest : Text),
    (written item).length ≤ fuel →
      loop (fuel + 1) read (written item ++ (lineBreak onLines below ++ close :: rest)) =
        .ok ((item :: read).reverse, rest)

variable {below : Nat} {close : Char} {written : α → Text}
  {loop : Nat → List α → Text → Except Fault (List α × Text)} {item : α} {items : List α}

theorem ReadsEach.tail (h : ReadsEach onLines below close written loop (item :: items)) :
    ReadsEach onLines below close written loop items where
  start other hother := h.start other (List.mem_cons_of_mem _ hother)
  comma other hother := h.comma other (List.mem_cons_of_mem _ hother)
  stop other hother := h.stop other (List.mem_cons_of_mem _ hother)

theorem ReadsEach.read_all (h : ReadsEach onLines below close written loop (item :: items))
    {fuel : Nat} (read : List α) (rest : Text)
    (hfuel : (written item).length + (behindItem onLines level written items).length ≤ fuel) :
    loop (fuel + 1) read (written item ++ (behindItem onLines level written items ++
      (lineBreak onLines below ++ close :: rest))) = .ok (read.reverse ++ item :: items, rest) := by
  -- The fuel goes down by one with each item, and a comma stands before the next one.
  induction items generalizing item read fuel with
  | nil =>
    rw [behindItem, List.nil_append, h.stop item List.mem_cons_self fuel read rest (by omega),
      List.reverse_cons]
  | cons next items ih =>
    rw [behindItem, List.length_cons, List.length_append, List.length_append] at hfuel
    obtain ⟨fuel, rfl⟩ : ∃ n, fuel = n + 1 := ⟨fuel - 1, by omega⟩
    rw [behindItem, List.cons_append, h.comma item List.mem_cons_self _ read _ (by omega),
      List.append_assoc, List.append_assoc, skipSpace_lineBreak, h.start next (by simp),
      ih h.tail (item :: read) (by omega), List.reverse_cons, List.append_assoc,
      List.singleton_append]

end Separated

/-! ## Lists -/

variable {fuel depth : Nat}

theorem printItems_cons (item : Value) (items : List Value) :
    printItems onLines level (item :: items) = lineBreak onLines level ++
      (printAt onLines level item ++ behindItem onLines level (printAt onLines level) items) := by
  induction items generalizing item with
  | nil => exact List.append_assoc _ _ _
  | cons next items ih =>
    change lineBreak onLines level ++ printAt onLines level item ++
      ',' :: printItems onLines level (next :: items) = _
    rw [ih, List.append_assoc, behindItem]

theorem readItems_succ (read : List Value) (text : Text) :
    readItems (fuel + 1) depth read text = match readValue fuel depth text with
      | .error fault => .error fault
      | .ok (item, rest) => match skipSpace rest with
        | ',' :: rest => readItems fuel depth (item :: read) (skipSpace rest)
        | ']' :: rest => .ok ((item :: read).reverse, rest)
        | _ => .error .malformed :=
  rfl

theorem readsEach_items (below : Nat) {items : List Value}
    (hreadable : ∀ item ∈ items, Readable depth item)
    (hback : ∀ item ∈ items, ReadBack depth item) :
    ReadsEach onLines below ']' (printAt onLines level) (fun fuel => readItems fuel depth)
      items where
  start item hitem := skipSpace_printAt onLines level (hreadable item hitem)
  comma item hitem fuel read rest hfuel := by
    have hends : EndsNumber (',' :: rest) := endsNumber_cons (by decide) rest
    rw [readItems_succ, hback item hitem onLines level fuel _ hfuel hends]
    rfl
  stop item hitem fuel read rest hfuel := by
    have hends := endsNumber_lineBreak onLines below (c := ']') (by decide) rest
    rw [readItems_succ, hback item hitem onLines level fuel _ hfuel hends]
    dsimp only
    rw [skipSpace_lineBreak]
    rfl

/-! ## Mappings -/

def entryText (entry : Key × Value) : Text :=
  key entry.1 ++ ([':', ' '] ++ printAt onLines level entry.2)

theorem printEntries_cons (entry : Key × Value) (entries : Entries) :
    printEntries onLines level (entry :: entries) = lineBreak onLines level ++
      (entryText onLines level entry ++
        behindItem onLines level (entryText onLines level) entries) := by
  induction entries generalizing entry with
  | nil =>
    change lineBreak onLines level ++ key entry.1 ++ [':', ' '] ++ printAt onLines level entry.2 ++
      [] = _
    simp only [entryText, behindItem, List.append_assoc]
  | cons next entries ih =>
    change lineBreak onLines level ++ key entry.1 ++ [':', ' '] ++ printAt onLines level entry.2 ++
      ',' :: printEntries onLines level (next :: entries) = _
    rw [ih]
    simp only [entryText, behindItem, List.append_assoc]

theorem readMembers_name (read : List (Key × Value)) (name text : Text) :
    readMembers (fuel + 1) depth read
        ('"' :: (name.flatMap stringChar ++ '"' :: ':' :: ' ' :: text)) =
      match readValue fuel depth (skipSpace text) with
      | .error fault => .error fault
      | .ok (value, rest) => match skipSpace rest with
        | ',' :: rest => readMembers fuel depth ((.text name, value) :: read) (skipSpace rest)
        | '\x7d' :: rest => .ok (((.text name, value) :: read).reverse, rest)
        | _ => .error .malformed := by
  rw [readMembers, readString_string]
  dsimp only
  rw [textOf_raw]
  rfl

theorem readsEach_members (below : Nat) {entries : Entries}
    (hkeys : ∀ entry ∈ entries, ∃ name, entry.1 = .text name)
    (hreadable : ∀ entry ∈ entries, Readable depth entry.2)
    (hback : ∀ entry ∈ entries, ReadBack depth entry.2) :
    ReadsEach onLines below '\x7d' (entryText onLines level) (fun fuel => readMembers fuel depth)
      entries := by
  have hwritten : ∀ (name rest : Text) (value : Value),
      entryText onLines level (.text name, value) ++ rest = '"' :: (name.flatMap stringChar ++
        '"' :: ':' :: ' ' :: (printAt onLines level value ++ rest)) := by
    intro name rest value
    simp only [entryText, key, string, List.append_assoc, List.cons_append, List.nil_append]
  have hlength : ∀ (entry : Key × Value) (fuel : Nat),
      (entryText onLines level entry).length ≤ fuel →
        (printAt onLines level entry.2).length ≤ fuel := by
    intro entry fuel hfuel
    simp only [entryText, List.length_append] at hfuel
    omega
  have hvalue : ∀ entry ∈ entries, ∀ (fuel : Nat) (rest : Text),
      (entryText onLines level entry).length ≤ fuel → EndsNumber rest →
        readValue fuel depth (skipSpace (printAt onLines level entry.2 ++ rest)) =
          .ok (entry.2, rest) := by
    intro entry hentry fuel rest hfuel hrest
    rw [skipSpace_printAt onLines level (hreadable entry hentry)]
    exact hback entry hentry onLines level fuel rest (hlength entry fuel hfuel) hrest
  refine ⟨?_, ?_, ?_⟩
  · rintro ⟨k, value⟩ hentry rest
    obtain ⟨name, rfl⟩ : ∃ name, k = .text name := hkeys _ hentry
    exact skipSpace_of_not_space rfl
  · rintro ⟨k, value⟩ hentry fuel read rest hfuel
    obtain ⟨name, rfl⟩ : ∃ name, k = .text name := hkeys _ hentry
    have hends : EndsNumber (',' :: rest) := endsNumber_cons (by decide) rest
    rw [hwritten, readMembers_name, hvalue _ hentry fuel _ hfuel hends]
    rfl
  · rintro ⟨k, value⟩ hentry fuel read rest hfuel
    obtain ⟨name, rfl⟩ : ∃ name, k = .text name := hkeys _ hentry
    have hends := endsNumber_lineBreak onLines below (c := '\x7d') (by decide) rest
    rw [hwritten, readMembers_name, hvalue _ hentry fuel _ hfuel hends]
    dsimp only
    rw [skipSpace_lineBreak]
    rfl

/-! ## The round trip -/

theorem readValue_bracket (text : Text) :
    readValue (fuel + 1) depth ('[' :: text) =
      if maxDepth ≤ depth then .error (.tooDeep true)
      else match skipSpace text with
        | ']' :: rest => .ok (.list [], rest)
        | rest =>
          (readItems fuel (depth + 1) [] rest).map fun (items, rest) => (.list items, rest) :=
  rfl

theorem readValue_brace (text : Text) :
    readValue (fuel + 1) depth ('\x7b' :: text) =
      if maxDepth ≤ depth then .error (.tooDeep false)
      else match skipSpace text with
        | '\x7d' :: rest => .ok (.mapping [], rest)
        | rest => (readMembers fuel (depth + 1) [] rest).map fun (entries, rest) =>
          (.mapping (Entries.ofList entries), rest) :=
  rfl

theorem readValue_list {c : Char} {t text : Text} (hdepth : depth < maxDepth)
    (htext : skipSpace text = c :: t) (hc : c ≠ ']') :
    readValue (fuel + 1) depth ('[' :: text) =
      (readItems fuel (depth + 1) [] (c :: t)).map fun (items, rest) => (.list items, rest) := by
  rw [readValue_bracket, if_neg (Nat.not_le.mpr hdepth), htext]
  split
  · rename_i heq
    exact absurd (List.cons.inj heq).1 hc
  · rfl

theorem readValue_mapping {c : Char} {t text : Text} (hdepth : depth < maxDepth)
    (htext : skipSpace text = c :: t) (hc : c ≠ '\x7d') :
    readValue (fuel + 1) depth ('\x7b' :: text) =
      (readMembers fuel (depth + 1) [] (c :: t)).map fun (entries, rest) =>
        (.mapping (Entries.ofList entries), rest) := by
  rw [readValue_brace, if_neg (Nat.not_le.mpr hdepth), htext]
  split
  · rename_i heq
    exact absurd (List.cons.inj heq).1 hc
  · rfl

/-- A character that starts a plain value starts no text, list or mapping. -/
theorem readValue_plain {c : Char} {t : Text}
    (h : c ≠ '"' ∧ c ≠ '[' ∧ c ≠ '\x7b') :
    readValue (fuel + 1) depth (c :: t) = readPlain (c :: t) := by
  rw [readValue]
  · rintro _ heq
    exact h.1 (List.cons.inj heq).1
  · rintro _ heq
    exact h.2.1 (List.cons.inj heq).1
  · rintro _ heq
    exact h.2.2 (List.cons.inj heq).1

namespace ReadBack

theorem of_succ {value : Value} (hreadable : Readable depth value)
    (h : ∀ (onLines : Bool) (level fuel : Nat) (rest : Text),
      (printAt onLines level value).length ≤ fuel + 1 → EndsNumber rest →
        readValue (fuel + 1) depth (printAt onLines level value ++ rest) = .ok (value, rest)) :
    ReadBack depth value := by
  intro onLines level fuel rest hfuel hrest
  cases fuel with
  | zero =>
    obtain ⟨c, t, hprint, -⟩ := exists_printAt_eq_cons onLines level hreadable
    rw [hprint, List.length_cons] at hfuel
    omega
  | succ fuel => exact h onLines level fuel rest hfuel hrest

theorem null : ReadBack depth .null := by
  refine of_succ .null fun onLines level fuel rest _ _ => ?_
  exact (readValue_plain (c := 'n') (t := 'u' :: 'l' :: 'l' :: rest) (by decide)).trans rfl

theorem bool (b : Bool) : ReadBack depth (.bool b) := by
  refine of_succ (.bool b) fun onLines level fuel rest _ _ => ?_
  cases b with
  | false =>
    exact (readValue_plain (c := 'f') (t := 'a' :: 'l' :: 's' :: 'e' :: rest) (by decide)).trans rfl
  | true =>
    exact (readValue_plain (c := 't') (t := 'r' :: 'u' :: 'e' :: rest) (by decide)).trans rfl

theorem int {i : Int} (hlimit : (Number.digits i.natAbs).length ≤ Number.maxDigits) :
    ReadBack depth (.int i) := by
  refine of_succ (.int hlimit) fun onLines level fuel rest _ hrest => ?_
  have hplain := readPlain_decimal hlimit hrest
  obtain ⟨c, figures, hdecimal, hc⟩ := Number.exists_decimal_eq_cons i
  change readValue (fuel + 1) depth (Number.decimal i ++ rest) = _
  rw [hdecimal] at hplain ⊢
  exact (readValue_plain ⟨ne_of_startsNumber hc (by decide), ne_of_startsNumber hc (by decide),
    ne_of_startsNumber hc (by decide)⟩).trans hplain

theorem text (t : Text) : ReadBack depth (.text t) := by
  refine of_succ (.text t) fun onLines level fuel rest _ _ => ?_
  change readValue (fuel + 1) depth ('"' :: (t.flatMap stringChar ++ ['"'] ++ rest)) = _
  rw [readValue, List.append_assoc, List.singleton_append, readString_string]
  dsimp only
  rw [textOf_raw]

theorem list {items : List Value} (hdepth : depth < maxDepth)
    (hreadable : ∀ item ∈ items, Readable (depth + 1) item)
    (hback : ∀ item ∈ items, ReadBack (depth + 1) item) : ReadBack depth (.list items) := by
  refine of_succ (.list hdepth hreadable) fun onLines level fuel rest hfuel _ => ?_
  cases items with
  | nil =>
    change readValue (fuel + 1) depth ('[' :: ']' :: rest) = _
    rw [readValue_bracket, if_neg (Nat.not_le.mpr hdepth)]
    rfl
  | cons item items =>
    rw [printAt_list_cons, printItems_cons] at hfuel ⊢
    simp only [List.length_cons, List.length_append] at hfuel
    obtain ⟨fuel, rfl⟩ : ∃ n, fuel = n + 1 := ⟨fuel - 1, by omega⟩
    have hlength : (printAt onLines (level + 1) item).length +
        (behindItem onLines (level + 1) (printAt onLines (level + 1)) items).length ≤ fuel := by
      omega
    have hitems := (readsEach_items onLines (level + 1) level hreadable hback).read_all
      onLines (level + 1) [] rest hlength
    obtain ⟨c, t, hprint, hstarts⟩ :=
      exists_printAt_eq_cons onLines (level + 1) (hreadable item List.mem_cons_self)
    have hc : c ≠ ']' := by
      rintro rfl
      cases hstarts
    have hskip := skipSpace_printAt onLines (level + 1) (hreadable item List.mem_cons_self)
      (behindItem onLines (level + 1) (printAt onLines (level + 1)) items ++
        (lineBreak onLines level ++ ']' :: rest))
    rw [← skipSpace_lineBreak onLines (level + 1), hprint, List.cons_append] at hskip
    rw [hprint, List.cons_append] at hitems
    simp only [hprint, List.append_assoc, List.cons_append, List.nil_append]
    rw [readValue_list hdepth hskip hc, hitems]
    rfl

theorem mapping {entries : Entries} (hdepth : depth < maxDepth) (honce : entries.Distinct)
    (hkeys : ∀ entry ∈ entries, ∃ name, entry.1 = .text name)
    (hreadable : ∀ entry ∈ entries, Readable (depth + 1) entry.2)
    (hback : ∀ entry ∈ entries, ReadBack (depth + 1) entry.2) :
    ReadBack depth (.mapping entries) := by
  refine of_succ (.mapping hdepth honce hkeys hreadable) fun onLines level fuel rest hfuel _ => ?_
  cases entries with
  | nil =>
    change readValue (fuel + 1) depth ('\x7b' :: '\x7d' :: rest) = _
    rw [readValue_brace, if_neg (Nat.not_le.mpr hdepth)]
    rfl
  | cons entry entries =>
    rw [printAt_mapping_cons, printEntries_cons] at hfuel ⊢
    simp only [List.length_cons, List.length_append] at hfuel
    obtain ⟨fuel, rfl⟩ : ∃ n, fuel = n + 1 := ⟨fuel - 1, by omega⟩
    have hmembers := readsEach_members onLines (level + 1) level hkeys hreadable hback
    have hlength : (entryText onLines (level + 1) entry).length +
        (behindItem onLines (level + 1) (entryText onLines (level + 1)) entries).length ≤ fuel := by
      omega
    have hread := hmembers.read_all onLines (level + 1) [] rest hlength
    obtain ⟨t, hprint⟩ : ∃ t, entryText onLines (level + 1) entry = '"' :: t := by
      obtain ⟨name, hname⟩ := hkeys entry List.mem_cons_self
      exact ⟨_, by rw [entryText, hname]; rfl⟩
    have hskip := hmembers.start entry List.mem_cons_self
      (behindItem onLines (level + 1) (entryText onLines (level + 1)) entries ++
        (lineBreak onLines level ++ '\x7d' :: rest))
    rw [← skipSpace_lineBreak onLines (level + 1), hprint, List.cons_append] at hskip
    rw [hprint, List.cons_append] at hread
    simp only [hprint, List.append_assoc, List.cons_append, List.nil_append]
    rw [readValue_mapping hdepth hskip (by decide), hread]
    change Except.ok (Value.mapping (Entries.ofList (entry :: entries)), rest) = _
    rw [Entries.ofList_of_distinct honce]

end ReadBack

theorem readBack_of_readable {depth : Nat} {value : Value} (h : Readable depth value) :
    ReadBack depth value := by
  induction h with
  | null => exact .null
  | bool b => exact .bool b
  | int hlimit => exact .int hlimit
  | text t => exact .text t
  | list hdepth hitems ih => exact .list hdepth hitems ih
  | mapping hdepth honce hkeys hvalues ih => exact .mapping hdepth honce hkeys hvalues ih

theorem read_printAt {value : Value} (h : Readable 0 value) (onLines : Bool) :
    read (printAt onLines 0 value) = .ok value := by
  have hskip := skipSpace_printAt onLines 0 h []
  have hback := readBack_of_readable h onLines 0 ((printAt onLines 0 value).length + 1) []
    (Nat.le_succ _) nofun
  rw [List.append_nil] at hskip hback
  unfold read
  rw [hskip, hback]
  rfl

theorem read_indented {value : Value} (h : Readable 0 value) : read (indented value) = .ok value :=
  read_printAt h true

end CorpusSearch.Json
