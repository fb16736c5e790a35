-- Places in settings, and what a fault says of the value at a place. Every such fault names the
-- place it is about, and is a wrong type or a wrong value; only a whole number that is too large to
-- be converted is refused without a name.
import CorpusSearch.Proofs.Number.Whole
import CorpusSearch.Proofs.Settings.Mapping
import CorpusSearch.Settings.Source

namespace CorpusSearch.Settings

/-! ## Places -/

/-- A place in settings: a section, an entry of a mapping or an item of a list. -/
inductive Place where
  | top (name : Text)
  | field (place : Place) (name : Text)
  | item (place : Place) (index : Nat)
  deriving DecidableEq, Repr

def Place.dotted : Place → Text
  | .top name => name
  | .field place name => place.dotted ++ ['.'] ++ name
  | .item place index => place.dotted ++ ['['] ++ Number.digits index ++ [']']

/-- The place of a key of a section. -/
def Place.of (owner key : Text) : Place := .field (.top owner) key

@[simp] theorem Place.dotted_of (owner key : Text) :
    (Place.of owner key).dotted = owner ++ '.' :: key := by
  simp [Place.of, Place.dotted]

inductive Stands (raw : Entries) : Place → Value → Prop
  | top {name : Text} {value : Value} (h : (.text name, value) ∈ raw) : Stands raw (.top name) value
  | field {place : Place} {entries : Entries} {name : Text} {value : Value}
      (h : Stands raw place (.mapping entries)) (hvalue : (.text name, value) ∈ entries) :
      Stands raw (.field place name) value
  | item {place : Place} {items : List Value} {index : Nat} {value : Value}
      (h : Stands raw place (.list items)) (hvalue : items[index]? = some value) :
      Stands raw (.item place index) value

theorem mem_of_field? {entries : Entries} {name : Text} {value : Value}
    (h : entries.field? name = some value) : (Key.text name, value) ∈ entries := by
  obtain ⟨⟨key, _⟩, hentry, rfl⟩ := Option.map_eq_some_iff.mp h
  have hkey := Key.eq_text_of_same
    (List.find?_some (p := fun e : Key × Value => e.1.same (.text name)) hentry)
  exact hkey ▸ List.mem_of_find?_eq_some hentry

/-! ## Faults at places -/

/-- A value is a list of texts, or one text that counts as such a list. -/
def IsTexts (value : Value) (texts : List Text) : Prop :=
  value = .list (texts.map .text) ∨ ∃ text, value = .text text ∧ texts = [text]

/-- A fault is true of what stands at a place. -/
inductive Blames (raw : Entries) : Place → Fault → Prop
  | noSection {name : Text} (hname : '.' ∉ name)
      (h : raw.field? name = none ∨ raw.field? name = some .null) :
      Blames raw (.top name) (.missing name)
  | noField {owner key : Text} {entries : Entries} (h : Stands raw (.top owner) (.mapping entries))
      (hnone : entries.field? key = none) :
      Blames raw (.of owner key) (.missing (Place.of owner key).dotted)
  | notObject {place : Place} {value : Value} (h : Stands raw place value)
      (hvalue : ∀ entries, value ≠ .mapping entries) : Blames raw place (.notObject place.dotted)
  | notText {place : Place} {value : Value} (h : Stands raw place value)
      (hvalue : ∀ text, value ≠ .text text) : Blames raw place (.notText place.dotted)
  | notTruth {place : Place} {value : Value} (h : Stands raw place value)
      (hvalue : ∀ truth, value ≠ .bool truth) : Blames raw place (.notTruth place.dotted)
  | notWhole {place : Place} {value : Value} (h : Stands raw place value)
      (hvalue : ∀ whole, value ≠ .int whole) : Blames raw place (.notWhole place.dotted)
  | notNumber {place : Place} {value : Value} (h : Stands raw place value)
      (hwhole : ∀ whole, value ≠ .int whole) (hnumber : ∀ number, value ≠ .float number) :
      Blames raw place (.notNumber place.dotted)
  | notList {place : Place} {value : Value} (h : Stands raw place value)
      (hvalue : ∀ items, value ≠ .list items) : Blames raw place (.notList place.dotted)
  | keyNotText {place : Place} {entries : Entries} {entry : Key × Value}
      (h : Stands raw place (.mapping entries)) (hentry : entry ∈ entries)
      (hkey : ∀ text, entry.1 ≠ .text text) : Blames raw place (.keyNotText place.dotted)
  | tooLarge {whole : Int} (h : Stands raw (.of "search" "fetch_timeout") (.int whole))
      (hpast : Double.past ≤ whole.natAbs) : Blames raw (.of "search" "fetch_timeout") .tooLarge
  | notPositive {place : Place} {whole : Int} (h : Stands raw place (.int whole))
      (hwhole : whole ≤ 0) : Blames raw place (.notPositive place.dotted)
  | notPositiveNumber {place : Place} {number : Double} (h : Stands raw place (.float number))
      (hnumber : number.isAtMostZero) : Blames raw place (.notPositive place.dotted)
  | negative {place : Place} {whole : Int} (h : Stands raw place (.int whole))
      (hwhole : whole < 0) : Blames raw place (.negative place.dotted)
  | blank {place : Place} {text : Text} (h : Stands raw place (.text text))
      (hblank : ∀ c ∈ text, Text.isBlank c) : Blames raw place (.blank place.dotted)
  | unknownLevel {level : Text} (h : Stands raw (.of "log" "level") (.text level))
      (hlevel : Logging.levelName level ∉ Logging.levels) :
      Blames raw (.of "log" "level") (.unknownLevel Logging.levels)
  | noCatalog
      (h : ∀ kind : Corpus.Kind, ∃ url, Stands raw (.of "catalogs" kind.settingsKey) (.text url) ∧
        url.strip = []) : Blames raw (.top "catalogs") .noCatalog
  | notWeb {place : Place} {url : Text} (h : Stands raw place (.text url)) (hurl : url.strip ≠ [])
      (hweb : Catalog.isWebAddress url.strip = false) : Blames raw place (.notWeb place.dotted)
  | emptyTerm {name : Text} {value : Value} (h : Stands raw (.of "synonyms" name) value)
      (hname : name.strip.normalize = []) : Blames raw (.top "synonyms") .emptyTerm
  | noSynonyms {name : Text} (h : Stands raw (.of "synonyms" name) (.list [])) :
      Blames raw (.top "synonyms") (.noSynonyms name.strip.normalize)
  | noFormat {value : Value} {names : List Text} (h : Stands raw (.of "output" "formats") value)
      (hnames : IsTexts value names) (hblank : ∀ name ∈ names, name.strip = []) :
      Blames raw (.of "output" "formats") .noFormat
  | unknownFormats {value : Value} {names unknown : List Text}
      (h : Stands raw (.of "output" "formats") value) (hnames : IsTexts value names)
      (hsome : unknown ≠ [])
      (hunknown : ∀ name ∈ unknown, Report.Format.ofName? name = none ∧
        ∃ written ∈ names, written.strip.lower = name) :
      Blames raw (.of "output" "formats")
        (.unknownFormats unknown (Report.Format.all.map Report.Format.name))
  | namesFolder {path : Text} (h : Stands raw (.of "storage" "db_path") (.text path))
      (hpath : path.strip.getLast? = some '/' ∨ path.strip.getLast? = some '\\') :
      Blames raw (.of "storage" "db_path") .namesFolder

/-- A fault at a place is a wrong type or a wrong value, and its message names the place, unless a
whole number is too large. -/
theorem Blames.named {raw : Entries} {place : Place} {fault : Fault} (h : Blames raw place fault)
    (hfault : fault ≠ .tooLarge) :
    place.dotted <:+: fault.message ∧ (fault.kind = .type ∨ fault.kind = .value) := by
  cases h with
  | tooLarge => exact absurd rfl hfault
  | noSection | noField =>
    exact ⟨⟨"Missing required config: ".toList, [], List.append_nil _⟩, .inr rfl⟩
  | notObject | notText | notTruth | notWhole | notNumber | notList | keyNotText =>
    exact ⟨⟨[], _, rfl⟩, .inl rfl⟩
  | _ => exact ⟨⟨[], _, rfl⟩, .inr rfl⟩

end CorpusSearch.Settings
