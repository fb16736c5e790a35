-- What a file of results says of them: every field of every result, their order, and whether there
-- is one result or a list. Only the kind of a record is not written; its group tells it.
import CorpusSearch.Proofs.Json.RoundTrip
import CorpusSearch.Report.Json

namespace CorpusSearch.Report

open Corpus

/-! ## Reading data -/

def textOf? : Value → Option Text
  | .text t => some t
  | _ => none

/-- The whole number that a value is. -/
def numberOf? : Value → Option Int
  | .int i => some i
  | _ => none

/-- The truth value that a value is. -/
def flagOf? : Value → Option Bool
  | .bool b => some b
  | _ => none

/-- The items of a list, each read on its own. -/
def itemsOf? {α : Type} (read : Value → Option α) : Value → Option (List α)
  | .list items => items.mapM read
  | _ => none

def fieldOf? {α : Type} (name : Text) (read : Value → Option α) : Value → Option α
  | .mapping entries => (Entries.field? name entries).bind read
  | _ => none

/-- The record of a group that a value is. -/
def recordOf? (kind : Kind) (value : Value) : Option Record := do
  let title ← fieldOf? "title" textOf? value
  let url ← fieldOf? "url" textOf? value
  let hash ← fieldOf? "hash" textOf? value
  let size ← fieldOf? "size" numberOf? value
  let snippets ← fieldOf? "snippets" (itemsOf? textOf?) value
  let strict ← fieldOf? "strict" flagOf? value
  return { kind, title, url, hash, size, snippets, strict }

/-- The work of a search that a value is. -/
def statsOf? (value : Value) : Option Stats := do
  let documents ← fieldOf? "docs" numberOf? value
  let bytes ← fieldOf? "bytes" numberOf? value
  let hits ← fieldOf? "hits" numberOf? value
  return { documents, bytes, hits }

def resultOf? (value : Value) : Option Result := do
  let query ← fieldOf? "query" textOf? value
  let mode ← fieldOf? "mode" textOf? value
  let needles ← fieldOf? "needles" (itemsOf? textOf?) value
  let textbooks ← fieldOf? "textbooks" (itemsOf? (recordOf? .textbook)) value
  let laws ← fieldOf? "laws" (itemsOf? (recordOf? .law)) value
  let rules ← fieldOf? "rules" (itemsOf? (recordOf? .rule)) value
  let stats ← fieldOf? "stats" statsOf? value
  return { query, mode, needles, textbooks, laws, rules, stats }

/-- The results that a file holds: those of a list, or the one that stands alone. -/
def resultsOf? : Value → Option (List Result)
  | .list items => items.mapM resultOf?
  | value => (resultOf? value).map fun result => [result]

/-! ## Kinds of groups -/

/-- A result whose records have the kinds of their groups. -/
def byGroup (result : Result) : Result :=
  { result with
    textbooks := result.textbooks.map fun record => { record with kind := .textbook }
    laws := result.laws.map fun record => { record with kind := .law }
    rules := result.rules.map fun record => { record with kind := .rule } }

/-- Every record has the kind of its group. -/
def IsGrouped (result : Result) : Prop :=
  ∀ kind, ∀ record ∈ result.group kind, record.kind = kind

theorem byGroup_of_isGrouped {result : Result} (h : IsGrouped result) :
    byGroup result = result := by
  have hgroup : ∀ kind, (result.group kind).map (fun record => { record with kind }) =
      result.group kind := by
    intro kind
    refine (List.map_congr_left fun record hrecord => ?_).trans (List.map_id _)
    rw [← h kind record hrecord]
    rfl
  have htextbooks := hgroup .textbook
  have hlaws := hgroup .law
  have hrules := hgroup .rule
  simp only [Result.group] at htextbooks hlaws hrules
  simp only [byGroup, htextbooks, hlaws, hrules]

/-! ## Data -/

theorem fieldOf?_fields {α : Type} (name : Text) (read : Value → Option α)
    (entries : List (Text × Value)) :
    fieldOf? name read (fields entries) = (entries.lookup name).bind read := by
  unfold fields fieldOf? Entries.field?
  induction entries with
  | nil => rfl
  | cons entry entries ih =>
    obtain ⟨key, value⟩ := entry
    dsimp only at ih ⊢
    rw [List.map_cons, Entries.get?_cons, List.lookup_cons]
    by_cases hname : name = key
    · rw [if_pos (Key.same_text_iff.mpr hname.symm), beq_iff_eq.mpr hname]
    · rw [if_neg fun hsame => hname (Key.same_text_iff.mp hsame).symm,
        beq_eq_false_iff_ne.mpr hname, ih]

theorem mapM_map {α : Type} {write : α → Value} {read : Value → Option α} {f : α → α}
    (h : ∀ a, read (write a) = some (f a)) (list : List α) :
    (list.map write).mapM read = some (list.map f) := by
  induction list with
  | nil => rfl
  | cons a list ih =>
    rw [List.map_cons, List.mapM_cons, h, ih]
    rfl

theorem itemsOf?_listOf (texts : List Text) : itemsOf? textOf? (listOf texts) = some texts :=
  (@mapM_map Text .text textOf? id (fun _ => rfl) texts).trans
    (congrArg some (List.map_id texts))

theorem recordOf?_recordData (kind : Kind) (record : Record) :
    recordOf? kind (recordData record) = some { record with kind } := by
  unfold recordOf? recordData
  simp [fieldOf?_fields, List.lookup_cons, itemsOf?_listOf, textOf?, numberOf?, flagOf?]

theorem itemsOf?_groupData (kind : Kind) (records : List Record) :
    itemsOf? (recordOf? kind) (groupData records) =
      some (records.map fun record => { record with kind }) :=
  mapM_map (recordOf?_recordData kind) records

theorem statsOf?_statsData (stats : Stats) : statsOf? (statsData stats) = some stats := by
  unfold statsOf? statsData
  simp [fieldOf?_fields, List.lookup_cons, numberOf?]

theorem resultOf?_data (result : Result) : resultOf? (data result) = some (byGroup result) := by
  unfold resultOf? data
  simp [fieldOf?_fields, List.lookup_cons, itemsOf?_listOf, itemsOf?_groupData, statsOf?_statsData,
    textOf?, byGroup]

theorem resultsOf?_payload (results : List Result) :
    resultsOf? (payload (results.map data)) = some (results.map byGroup) := by
  rcases results with - | ⟨result, - | ⟨next, results⟩⟩
  · rfl
  · change (resultOf? (data result)).map _ = _
    rw [resultOf?_data]
    rfl
  · exact mapM_map resultOf?_data (result :: next :: results)

/-- Different results whose records have the kinds of their groups are in different files. -/
theorem payload_injective {results results' : List Result}
    (h : ∀ result ∈ results, IsGrouped result) (h' : ∀ result ∈ results', IsGrouped result)
    (hsame : payload (results.map data) = payload (results'.map data)) : results = results' := by
  have hkept : ∀ results : List Result, (∀ result ∈ results, IsGrouped result) →
      results.map byGroup = results := fun results hgrouped =>
    (List.map_congr_left fun result hresult => byGroup_of_isGrouped (hgrouped result hresult)).trans
      (List.map_id results)
  have hread := congrArg resultsOf? hsame
  rw [resultsOf?_payload, resultsOf?_payload, hkept results h, hkept results' h'] at hread
  exact Option.some.inj hread

/-! ## Texts -/

/-- A whole number with no more digits than are read. -/
def IsShort (i : Int) : Prop := (Number.digits i.natAbs).length ≤ Number.maxDigits

instance instDecidableIsShort (i : Int) : Decidable (IsShort i) := Nat.decLe _ _

/-- The numbers of a result have no more digits than are read. -/
structure HasShortNumbers {τ : Type} (result : Result τ) : Prop where
  documents : IsShort result.stats.documents
  bytes : IsShort result.stats.bytes
  hits : IsShort result.stats.hits
  sizes : ∀ kind, ∀ record ∈ result.group kind, IsShort record.size

theorem HasShortNumbers.of_map {τ σ : Type} {f : τ → σ} {result : Result τ}
    (h : HasShortNumbers (result.map f)) : HasShortNumbers result := by
  refine ⟨h.documents, h.bytes, h.hits, fun kind record hrecord => ?_⟩
  refine h.sizes kind (record.map f) ?_
  cases kind <;> exact List.mem_map_of_mem hrecord

variable {depth : Nat}

theorem readable_fields (hdepth : depth < Json.maxDepth) {entries : List (Text × Value)}
    (honce : (entries.map (·.1)).Nodup)
    (hvalues : ∀ entry ∈ entries, Json.Readable (depth + 1) entry.2) :
    Json.Readable depth (fields entries) := by
  refine .mapping hdepth ?_ ?_ ?_
  · refine List.pairwise_map.mpr ((List.pairwise_map.mp honce).imp fun hne => ?_)
    rw [Bool.eq_false_iff]
    exact fun hsame => hne (Key.same_text_iff.mp hsame)
  · intro entry hentry
    obtain ⟨⟨name, value⟩, -, rfl⟩ := List.mem_map.mp hentry
    exact ⟨name, rfl⟩
  · intro entry hentry
    obtain ⟨⟨name, value⟩, hmem, rfl⟩ := List.mem_map.mp hentry
    exact hvalues _ hmem

theorem readable_listOf (hdepth : depth < Json.maxDepth) (texts : List Text) :
    Json.Readable depth (listOf texts) := by
  refine .list hdepth fun item hitem => ?_
  obtain ⟨t, -, rfl⟩ := List.mem_map.mp hitem
  exact .text t

theorem readable_recordData (hdepth : depth + 1 < Json.maxDepth) {record : Record}
    (hsize : IsShort record.size) : Json.Readable depth (recordData record) := by
  refine readable_fields (by omega) (by simp) ?_
  simp only [List.forall_mem_cons]
  exact ⟨.text _, .text _, .text _, .int hsize, readable_listOf hdepth _, .bool _, nofun⟩

theorem readable_groupData (hdepth : depth + 2 < Json.maxDepth) {records : List Record}
    (hsizes : ∀ record ∈ records, IsShort record.size) :
    Json.Readable depth (groupData records) := by
  refine .list (by omega) fun item hitem => ?_
  obtain ⟨record, hrecord, rfl⟩ := List.mem_map.mp hitem
  exact readable_recordData (by omega) (hsizes record hrecord)

theorem readable_data (hdepth : depth + 3 < Json.maxDepth) {result : Result}
    (h : HasShortNumbers result) : Json.Readable depth (data result) := by
  have hgroup : ∀ kind, Json.Readable (depth + 1) (groupData (result.group kind)) :=
    fun kind => readable_groupData (by omega) (h.sizes kind)
  have hstats : Json.Readable (depth + 1) (statsData result.stats) := by
    refine readable_fields (by omega) (by simp) ?_
    simp only [List.forall_mem_cons]
    exact ⟨.int h.documents, .int h.bytes, .int h.hits, nofun⟩
  refine readable_fields (by omega) (by simp) ?_
  simp only [List.forall_mem_cons]
  exact ⟨.text _, .text _, readable_listOf (by omega) _, hgroup .textbook, hgroup .law,
    hgroup .rule, hstats, nofun⟩

theorem read_indented_payload {results : List Result}
    (h : ∀ result ∈ results, HasShortNumbers result) :
    Json.read (Json.indented (payload (results.map data))) = .ok (payload (results.map data)) := by
  refine Json.read_indented ?_
  have hlist : ∀ results : List Result, (∀ result ∈ results, HasShortNumbers result) →
      Json.Readable 0 (.list (results.map data)) := by
    intro results h
    refine .list (by decide) fun item hitem => ?_
    obtain ⟨result, hresult, rfl⟩ := List.mem_map.mp hitem
    exact readable_data (by decide) (h result hresult)
  rcases results with - | ⟨result, - | ⟨next, results⟩⟩
  · exact hlist [] h
  · exact readable_data (by decide) (h result List.mem_cons_self)
  · exact hlist (result :: next :: results) h

end CorpusSearch.Report
