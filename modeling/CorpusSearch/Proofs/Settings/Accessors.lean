-- What the accessors of settings give: the value that stands at the place, or another one when
-- nothing stands there; and where they refuse a value, the fault is true of it. The checks refuse
-- only what the fault says.
import CorpusSearch.Proofs.Settings.Place
import CorpusSearch.Proofs.Text.Blank

namespace CorpusSearch.Settings

variable {α β : Type} {raw : Entries}

/-! ## Results -/

/-- A result is a value with a property, or a fault that is true of a place in the settings. -/
def Gives (raw : Entries) (post : α → Prop) : Except Fault α → Prop
  | .ok value => post value
  | .error fault => ∃ place, Blames raw place fault

theorem Gives.imp {post post' : α → Prop} {result : Except Fault α} (h : Gives raw post result)
    (himp : ∀ value, post value → post' value) : Gives raw post' result := by
  cases result with
  | ok value => exact himp value h
  | error => exact h

theorem Gives.bind {post : α → Prop} {post' : β → Prop} {result : Except Fault α}
    {next : α → Except Fault β} (h : Gives raw post result)
    (hnext : ∀ value, post value → Gives raw post' (next value)) :
    Gives raw post' (result >>= next) := by
  cases result with
  | ok value => exact hnext value h
  | error => exact h

theorem Gives.map {post : α → Prop} {post' : β → Prop} {result : Except Fault α} {f : α → β}
    (h : Gives raw post result) (hf : ∀ value, post value → post' (f value)) :
    Gives raw post' (result.map f) := by
  cases result with
  | ok value => exact hf value h
  | error => exact h

theorem gives_refusal {post : α → Prop} {cond : Prop} [Decidable cond] {fault : Fault}
    {refused next : Except Fault α} (hrefused : refused = .error fault)
    (h : cond → ∃ place, Blames raw place fault) (hnext : ¬ cond → Gives raw post next) :
    Gives raw post (if cond then refused else next) := by
  split
  · rename_i hcond
    rw [hrefused]
    exact h hcond
  · rename_i hcond
    exact hnext hcond

/-! ## Sections -/

/-- Entries are those of a section, or the section is absent and there are none. -/
def AreOf (raw : Entries) (owner : Text) (entries : Entries) : Prop :=
  Stands raw (.top owner) (.mapping entries) ∨ entries = []

theorem gives_sectionOf (required : Bool) (owner : Text) (howner : '.' ∉ owner) :
    Gives raw (fun entries => Stands raw (.top owner) (.mapping entries) ∨
      required = false ∧ entries = []) (sectionOf required owner raw) := by
  unfold sectionOf
  split
  · rename_i habsent
    cases required with
    | true => exact ⟨_, .noSection howner (.inl habsent)⟩
    | false => exact .inr ⟨rfl, rfl⟩
  · rename_i hnull
    cases required with
    | true => exact ⟨_, .noSection howner (.inr hnull)⟩
    | false => exact .inr ⟨rfl, rfl⟩
  · rename_i entries hfield
    exact .inl (.top (mem_of_field? hfield))
  · rename_i value hmapping hfield
    exact ⟨_, .notObject (.top (mem_of_field? hfield)) fun entries h => hmapping entries (h ▸ rfl)⟩

theorem gives_required {owner key dotted : Text} {entries : Entries}
    (hdotted : (Place.of owner key).dotted = dotted)
    (h : Stands raw (.top owner) (.mapping entries)) :
    Gives raw (Stands raw (.of owner key)) (required entries key dotted) := by
  subst hdotted
  unfold required
  split
  · rename_i hnone
    exact ⟨_, .noField h hnone⟩
  · rename_i value hfield
    exact .field h (mem_of_field? hfield)

theorem stands_optional {owner : Text} {entries : Entries} (h : AreOf raw owner entries)
    (key : Text) (other : Value) :
    Stands raw (.of owner key) (optional entries key other) ∨
      optional entries key other = other := by
  unfold optional
  cases hfield : entries.field? key with
  | none => exact .inr rfl
  | some value =>
    rcases h with h | rfl
    · exact .inl (.field h (mem_of_field? hfield))
    · cases hfield

/-! ## Values of one kind -/

/-- An accessor takes the values of one kind and refuses every other value with a fault that is
true of it. -/
structure IsAccessor (read : Text → Value → Except Fault α) (wrap : α → Value)
    (fault : Text → Fault) : Prop where
  ok : ∀ key a, read key (wrap a) = .ok a
  error : ∀ key value, (∀ a, value ≠ wrap a) → read key value = .error (fault key)
  blames : ∀ {raw place value}, Stands raw place value → (∀ a, value ≠ wrap a) →
    Blames raw place (fault place.dotted)

theorem isAccessor_asText : IsAccessor asText .text .notText where
  ok _ _ := rfl
  error _ value h := by
    cases value with
    | text t => exact absurd rfl (h t)
    | _ => rfl
  blames := .notText

theorem isAccessor_asTruth : IsAccessor asTruth .bool .notTruth where
  ok _ _ := rfl
  error _ value h := by
    cases value with
    | bool b => exact absurd rfl (h b)
    | _ => rfl
  blames := .notTruth

theorem isAccessor_asWhole : IsAccessor asWhole .int .notWhole where
  ok _ _ := rfl
  error _ value h := by
    cases value with
    | int i => exact absurd rfl (h i)
    | _ => rfl
  blames := .notWhole

/-- A value stands at a place, or it is the one that is taken when nothing stands there. -/
def Comes (raw : Entries) (place : Place) (wrap : α → Value) (other value : α) : Prop :=
  Stands raw place (wrap value) ∨ value = other

section
variable {read : Text → Value → Except Fault α} {wrap : α → Value} {fault : Text → Fault}

theorem IsAccessor.gives (h : IsAccessor read wrap fault) {place : Place} {value : Value}
    (hvalue : Stands raw place value) :
    Gives raw (fun a => value = wrap a) (read place.dotted value) := by
  by_cases hkind : ∃ a, value = wrap a
  · obtain ⟨a, rfl⟩ := hkind
    rw [h.ok]
    exact rfl
  · have hkind : ∀ a, value ≠ wrap a := fun a ha => hkind ⟨a, ha⟩
    rw [h.error _ _ hkind]
    exact ⟨place, h.blames hvalue hkind⟩

theorem IsAccessor.gives_optional (h : IsAccessor read wrap fault) {owner key dotted : Text}
    {entries : Entries} (hdotted : (Place.of owner key).dotted = dotted)
    (hentries : AreOf raw owner entries) (other : α) :
    Gives raw (Comes raw (.of owner key) wrap other)
      (read dotted (optional entries key (wrap other))) := by
  subst hdotted
  rcases stands_optional hentries key (wrap other) with hstands | hother
  · exact (h.gives hstands).imp fun _ hvalue => .inl (hvalue ▸ hstands)
  · rw [hother, h.ok]
    exact .inr rfl

end

/-! ## Lists -/

theorem gives_asTexts {place : Place} {items : List Value} (h : Stands raw place (.list items))
    {index : Nat} {rest : List Value} (hrest : items.drop index = rest) :
    Gives raw (fun texts => rest = texts.map .text) (asTexts place.dotted index rest) := by
  induction rest generalizing index with
  | nil => exact rfl
  | cons item rest ih =>
    have hitem : items[index]? = some item := by
      rw [← List.head?_drop, hrest]
      rfl
    have hnext : items.drop (index + 1) = rest := by
      rw [← List.tail_drop, hrest]
      rfl
    refine (isAccessor_asText.gives (.item h hitem)).bind fun text htext => ?_
    refine (ih hnext).bind fun texts htexts => ?_
    exact htext ▸ htexts ▸ rfl

theorem gives_asTextList {place : Place} {value : Value} (h : Stands raw place value) :
    Gives raw (fun texts => value = .list (texts.map .text)) (asTextList place.dotted value) := by
  cases value with
  | list items => exact (gives_asTexts h rfl).imp fun _ => congrArg Value.list
  | _ => exact ⟨place, .notList h nofun⟩

theorem gives_asTextOrList {place : Place} {value : Value} (h : Stands raw place value) :
    Gives raw (IsTexts value) (asTextOrList place.dotted value) := by
  cases value with
  | text t => exact .inr ⟨t, rfl, rfl⟩
  | _ => exact (gives_asTextList h).imp fun _ => .inl

/-- Lists of texts as they stand in a mapping. -/
def ListsOf (raw : Entries) (place : Place) (lists : List (Text × List Text)) : Prop :=
  ∀ list ∈ lists, ∃ value, Stands raw (.field place list.1) value ∧ IsTexts value list.2

theorem gives_asTextListEntries {place : Place} {all : Entries}
    (h : Stands raw place (.mapping all)) {entries : List (Key × Value)}
    (hentries : ∀ entry ∈ entries, entry ∈ all) :
    Gives raw (ListsOf raw place) (asTextListEntries place.dotted entries) := by
  induction entries with
  | nil => exact fun _ hmem => nomatch hmem
  | cons entry entries ih =>
    obtain ⟨hentry, hrest⟩ := List.forall_mem_cons.mp hentries
    obtain ⟨key, value⟩ := entry
    cases key with
    | text name =>
      have hvalue : Stands raw (.field place name) value := .field h hentry
      refine (gives_asTextOrList hvalue).bind fun texts htexts => ?_
      refine (ih hrest).bind fun lists hlists => ?_
      exact List.forall_mem_cons.mpr ⟨⟨value, hvalue, htexts⟩, hlists⟩
    | _ => exact ⟨place, .keyNotText h hentry nofun⟩

theorem gives_asTextListMapping {place : Place} {value : Value} (h : Stands raw place value) :
    Gives raw (ListsOf raw place) (asTextListMapping place.dotted value) := by
  cases value with
  | mapping entries => exact gives_asTextListEntries h fun _ => id
  | _ => exact ⟨place, .notObject h nofun⟩

/-! ## Checks -/

theorem gives_checkPositive {place : Place} {dotted : Text} (hdotted : place.dotted = dotted)
    {other whole : Int} (hother : 0 < other) (h : Comes raw place .int other whole) :
    Gives raw (fun _ => 0 < whole) (checkPositive dotted whole) := by
  subst hdotted
  refine gives_refusal rfl (fun hwhole => ?_) Int.not_le.mp
  rcases h with h | rfl
  · exact ⟨place, .notPositive h hwhole⟩
  · exact absurd hother (Int.not_lt.mpr hwhole)

theorem gives_checkNotBlank {place : Place} {dotted : Text} (hdotted : place.dotted = dotted)
    {other written text : Text} (hother : other.strip ≠ [])
    (h : Comes raw place .text other written)
    (htext : (∀ c ∈ text, Text.isBlank c) → ∀ c ∈ written, Text.isBlank c) :
    Gives raw (fun _ => text.strip ≠ []) (checkNotBlank dotted text) := by
  subst hdotted
  refine gives_refusal rfl (fun hempty => ?_) fun hsome => mt List.isEmpty_iff.mpr hsome
  have hblank := htext (Text.strip_eq_nil_iff.mp (List.isEmpty_iff.mp hempty))
  rcases h with h | rfl
  · exact ⟨place, .blank h hblank⟩
  · exact absurd (Text.strip_eq_nil_iff.mpr hblank) hother

end CorpusSearch.Settings
