-- The laws of merging: the empty mapping and a mapping itself change nothing, what is merged a
-- second time changes nothing more, and three layers may be merged from either side. The last law
-- asks that no path holds a mapping in one layer and something else in the next.
import CorpusSearch.Proofs.Settings.Layers

namespace CorpusSearch

/-! ## Mappings by their keys and their look-ups -/

theorem Key.same_refl (k : Key) : k.same k = true := Key.same_iff.mpr rfl

namespace Entries

theorem get?_ne_none_of_mem {entry : Key × Value} {entries : Entries} (h : entry ∈ entries) :
    get? entry.1 entries ≠ none := by
  intro hnone
  have hself := get?_eq_none_iff.mp hnone entry h
  rw [Key.same_refl] at hself
  cases hself

/-- Two mappings with the same keys in the same order, and the same value behind each, are one. -/
theorem ext_get? {entries entries' : Entries} (hdistinct : entries.Distinct)
    (hkeys : entries.map (·.1) = entries'.map (·.1))
    (hget : ∀ key, get? key entries = get? key entries') : entries = entries' := by
  induction entries generalizing entries' with
  | nil => exact (List.map_eq_nil_iff.mp hkeys.symm).symm
  | cons entry entries ih =>
    obtain ⟨k, v⟩ := entry
    cases entries' with
    | nil => cases hkeys
    | cons entry' entries' =>
      obtain ⟨k', v'⟩ := entry'
      obtain ⟨rfl, htail⟩ := List.cons.inj hkeys
      have hdistinct' : Distinct ((k, v') :: entries') := by
        rwa [distinct_iff, ← hkeys, ← distinct_iff]
      have hvalue : v = v' := by
        have hfirst := hget k
        rw [get?_cons, get?_cons, if_pos (Key.same_refl k), if_pos (Key.same_refl k)] at hfirst
        exact Option.some.inj hfirst
      have hrest : entries = entries' := by
        refine ih (List.pairwise_cons.mp hdistinct).2 htail fun key => ?_
        have hkey := hget key
        rw [get?_cons, get?_cons] at hkey
        by_cases hsame : k.same key = true
        · rw [hdistinct.get?_tail hsame, hdistinct'.get?_tail hsame]
        · rwa [if_neg hsame, if_neg hsame] at hkey
      rw [hvalue, hrest]

end Entries

namespace Settings

/-! ## Keys of a merge -/

/-- The keys of the lower mapping come first, and behind them those that only the upper one has. -/
theorem keys_merge (base : Entries) {override : Entries} (h : override.Distinct) :
    (merge base override).map (·.1) =
      base.map (·.1) ++ (override.map (·.1)).filter fun key => (base.get? key).isNone := by
  unfold merge
  induction override generalizing base with
  | nil => rw [mergeInto, List.map_nil, List.filter_nil, List.append_nil]
  | cons entry override ih =>
    obtain ⟨k, v⟩ := entry
    obtain ⟨hapart, hrest⟩ := List.pairwise_cons.mp h
    -- The other keys of the upper mapping are found below exactly when they were before.
    have hsame : ∀ value, ((override.map (·.1)).filter fun key =>
        ((Entries.put k value base).get? key).isNone) =
          (override.map (·.1)).filter fun key => (base.get? key).isNone := by
      intro value
      refine List.filter_congr fun key hkey => ?_
      obtain ⟨entry, hentry, rfl⟩ := List.mem_map.mp hkey
      rw [Entries.get?_put, hapart entry hentry, if_neg Bool.false_ne_true]
    rw [mergeInto, ih _ hrest, hsame, List.map_cons, List.filter_cons]
    cases hfound : base.get? k with
    | none =>
      rw [Entries.put_of_get?_eq_none hfound, List.map_append, if_pos Option.isNone_none,
        List.append_assoc]
      rfl
    | some value =>
      have hpresent : base.get? k ≠ none := hfound ▸ Option.some_ne_none value
      rw [Entries.map_put_of_get?_ne_none hpresent, Option.isNone_some, if_neg Bool.false_ne_true]

theorem distinct_merge {base : Entries} (h : base.Distinct) (override : Entries) :
    (merge base override).Distinct := by
  unfold merge
  induction override generalizing base with
  | nil => rwa [mergeInto]
  | cons entry override ih =>
    rw [mergeInto]
    exact ih (Entries.distinct_put h _ _)

theorem layOver_mapping (base entries : Entries) :
    layOver (some (.mapping base)) (.mapping entries) = .mapping (merge base entries) := by
  rw [layOver, merge]

/-! ## The empty mapping -/

theorem merge_nil (entries : Entries) : merge entries [] = entries := by rw [merge, mergeInto]

theorem nil_merge {entries : Entries} (h : entries.Distinct) : merge [] entries = entries := by
  refine Entries.ext_get? (distinct_merge .nil _) ?_ fun key => ?_
  · rw [keys_merge [] h]
    exact List.filter_eq_self.mpr fun _ _ => rfl
  · rw [get?_merge [] h, Entries.get?_nil]
    cases entries.get? key with
    | none => rfl
    | some value => exact congrArg some (layOver_none value)

/-- What is no mapping counts as the empty one for a mapping that is laid over it. -/
theorem exists_layOver_eq {current : Option Value}
    (hcurrent : ∀ value, current = some value → value.Keyed) {entries : Entries}
    (h : entries.Distinct) :
    ∃ base, (Value.mapping base).Keyed ∧
      layOver current (.mapping entries) = .mapping (merge base entries) := by
  by_cases hmapping : ∃ base, current = some (.mapping base)
  · obtain ⟨base, rfl⟩ := hmapping
    exact ⟨base, hcurrent _ rfl, layOver_mapping base entries⟩
  · refine ⟨[], .mapping .nil nofun, ?_⟩
    rw [nil_merge h]
    exact layOver_of_not_mapping (.inl fun base heq => hmapping ⟨base, heq⟩)

/-! ## A layer laid over a second time -/

/-- An upper mapping is already in the merge when the value of each of its keys is. -/
theorem merge_again_of_values {base override : Entries} (hbase : base.Distinct)
    (hoverride : override.Distinct)
    (hvalues : ∀ key value, override.get? key = some value →
      layOver (some (layOver (base.get? key) value)) value = layOver (base.get? key) value) :
    merge (merge base override) override = merge base override := by
  have hget := get?_merge base hoverride
  refine Entries.ext_get? (distinct_merge (distinct_merge hbase _) _) ?_ fun key => ?_
  · have hfound : ((override.map (·.1)).filter fun key =>
        ((merge base override).get? key).isNone) = [] := by
      refine List.filter_eq_nil_iff.mpr fun key hkey hisNone => ?_
      obtain ⟨entry, hentry, rfl⟩ := List.mem_map.mp hkey
      obtain ⟨value, hvalue⟩ := Option.ne_none_iff_exists'.mp (Entries.get?_ne_none_of_mem hentry)
      rw [hget, hvalue] at hisNone
      cases hisNone
    rw [keys_merge _ hoverride, hfound, List.append_nil]
  · rw [get?_merge _ hoverride, hget]
    cases hvalue : override.get? key with
    | none => rfl
    | some value => exact congrArg some (hvalues key value hvalue)

/-- Down the upper value: a leaf replaces what is there both times, and a mapping is merged key by
key. -/
theorem layOver_again {value : Value} (hvalue : value.Keyed) {current : Option Value}
    (hcurrent : ∀ present, current = some present → present.Keyed) :
    layOver (some (layOver current value)) value = layOver current value := by
  induction hvalue generalizing current with
  | leaf hleaf => rw [layOver_of_not_mapping (.inr hleaf), layOver_of_not_mapping (.inr hleaf)]
  | @mapping entries honce hinner ih =>
    obtain ⟨base, hbase, hlaid⟩ := exists_layOver_eq hcurrent honce
    rw [hlaid, layOver_mapping]
    refine congrArg Value.mapping
      (merge_again_of_values (Value.keyed_mapping_iff.mp hbase).1 honce fun key value hfound => ?_)
    obtain ⟨entry, hentry, rfl⟩ := Entries.exists_mem_of_get? hfound
    exact ih entry hentry fun present hpresent => hbase.of_get? hpresent

theorem merge_again {base override : Entries} (hbase : (Value.mapping base).Keyed)
    (hoverride : (Value.mapping override).Keyed) :
    merge (merge base override) override = merge base override := by
  have hcurrent : ∀ present, some (Value.mapping base) = some present → present.Keyed :=
    fun present hpresent => Option.some.inj hpresent ▸ hbase
  have hagain := layOver_again hoverride hcurrent
  rw [layOver_mapping, layOver_mapping] at hagain
  exact Value.mapping.inj hagain

theorem merge_self {entries : Entries} (h : (Value.mapping entries).Keyed) :
    merge entries entries = entries := by
  have hagain := merge_again (.mapping .nil nofun) h
  rwa [nil_merge (Value.keyed_mapping_iff.mp h).1] at hagain

/-- A file laid over itself is the file: nothing is lost where the second reading is left out. -/
theorem load_of_same (disk : Files.Disk) (path : Files.Path) (environment : Environment) :
    load disk path path environment = (do
      let raw ← readFile disk path
      let merged ← (readFile disk path).map (merge raw)
      (ofEntries (withEnvironment environment merged)).mapError .content) := by
  cases hread : readFile disk path with
  | error fault =>
    unfold load
    rw [hread]
    rfl
  | ok raw =>
    have hload : load disk path path environment =
        (ofEntries (withEnvironment environment (merge raw []))).mapError .content :=
      load_eq_ofEntries environment hread (by rw [if_pos rfl])
    rw [hload, merge_nil]
    change _ = (ofEntries (withEnvironment environment (merge raw raw))).mapError _
    rw [merge_self (keyed_readFile hread)]

end Settings

/-! ## Shapes -/

namespace Value

def isMapping : Value → Bool
  | .mapping _ => true
  | _ => false

theorem isMapping_iff {value : Value} :
    value.isMapping = true ↔ ∃ entries : Entries, value = .mapping entries := by
  cases value with
  | mapping entries => exact ⟨fun _ => ⟨entries, rfl⟩, fun _ => rfl⟩
  | _ => exact ⟨nofun, nofun⟩

/-- The value at the end of a path of keys. -/
def at? : List Key → Value → Option Value
  | [], value => some value
  | key :: path, .mapping entries => (Entries.get? key entries).bind (at? path)
  | _ :: _, _ => none

/-- No path of keys holds a mapping in one value and something else in the other. -/
def Compatible (value other : Value) : Prop :=
  ∀ path present present', value.at? path = some present → other.at? path = some present' →
    present.isMapping = present'.isMapping

theorem Compatible.of_get? {entries entries' : Entries}
    (h : Compatible (.mapping entries) (.mapping entries')) {key : Key} {value value' : Value}
    (hvalue : entries.get? key = some value) (hvalue' : entries'.get? key = some value') :
    Compatible value value' := by
  intro path present present' hpresent hpresent'
  refine h (key :: path) present present' ?_ ?_
  · rwa [at?, hvalue, Option.bind_some]
  · rwa [at?, hvalue', Option.bind_some]

theorem compatible_of_leaves {value value' : Value} (h : value.isMapping = false)
    (h' : value'.isMapping = false) : Compatible value value' := by
  intro path present present' hpresent hpresent'
  cases path with
  | nil =>
    cases hpresent
    cases hpresent'
    rw [h, h']
  | cons key path => cases value <;> first | cases hpresent | cases h

theorem compatible_of_entries {entries entries' : Entries}
    (h : ∀ entry ∈ entries, ∀ value', entries'.get? entry.1 = some value' →
      Compatible entry.2 value') : Compatible (.mapping entries) (.mapping entries') := by
  intro path present present' hpresent hpresent'
  cases path with
  | nil =>
    cases hpresent
    cases hpresent'
    rfl
  | cons key path =>
    obtain ⟨value, hvalue, hat⟩ := Option.bind_eq_some_iff.mp hpresent
    obtain ⟨value', hvalue', hat'⟩ := Option.bind_eq_some_iff.mp hpresent'
    obtain ⟨entry, hfound, rfl⟩ := Option.map_eq_some_iff.mp hvalue
    have hsame := List.find?_some hfound
    rw [← Entries.get?_congr hsame] at hvalue'
    exact h entry (List.mem_of_find?_eq_some hfound) value' hvalue' path present present' hat hat'

end Value

namespace Settings

/-! ## Three layers -/

/-- The keys of a merge of three come in the same order from either side. -/
theorem keys_merge_assoc (a : Entries) {b c : Entries} (hb : b.Distinct) (hc : c.Distinct) :
    (merge (merge a b) c).map (·.1) = (merge a (merge b c)).map (·.1) := by
  rw [keys_merge _ hc, keys_merge _ hb, keys_merge _ (distinct_merge hb c), keys_merge _ hc,
    List.filter_append, List.filter_filter, List.append_assoc]
  congr 2
  refine List.filter_congr fun key _ => ?_
  rw [get?_merge a hb]
  cases a.get? key <;> cases b.get? key <;> rfl

/-- Down the uppermost value: over a leaf nothing below counts, and three mappings are merged key by
key. -/
theorem layOver_assoc {x y z : Value} (hx : x.Keyed) (hy : y.Keyed) (hz : z.Keyed)
    (hxy : x.Compatible y) (hyz : y.Compatible z) :
    layOver (some (layOver (some x) y)) z = layOver (some x) (layOver (some y) z) := by
  induction hz generalizing x y with
  | leaf hleaf => simp only [layOver_of_not_mapping (.inr hleaf)]
  | @mapping c hc _ ih =>
    obtain ⟨b, rfl⟩ := Value.isMapping_iff.mp (hyz [] y (.mapping c) rfl rfl)
    obtain ⟨a, rfl⟩ := Value.isMapping_iff.mp (hxy [] x (.mapping b) rfl rfl)
    have ha : Entries.Distinct a := (Value.keyed_mapping_iff.mp hx).1
    have hb : Entries.Distinct b := (Value.keyed_mapping_iff.mp hy).1
    simp only [layOver_mapping]
    refine congrArg Value.mapping (Entries.ext_get? (distinct_merge (distinct_merge ha b) c)
      (keys_merge_assoc a hb hc) fun key => ?_)
    rw [get?_merge _ hc, get?_merge _ hb, get?_merge _ (distinct_merge hb c), get?_merge _ hc]
    cases hupper : c.get? key with
    | none => rfl
    | some w =>
      cases hmiddle : b.get? key with
      | none => simp only [layOver_none]
      | some v =>
        cases hlower : a.get? key with
        | none => simp only [layOver_none]
        | some u =>
          obtain ⟨entry, hentry, rfl⟩ := Entries.exists_mem_of_get? hupper
          exact congrArg some (ih entry hentry (hx.of_get? hlower) (hy.of_get? hmiddle)
            (hxy.of_get? hlower hmiddle) (hyz.of_get? hmiddle hupper))

/-! ## Laws -/

/-- The laws of merging, for mappings that have each key once at every depth. The empty mapping
changes nothing on either side. A mapping merged with itself is itself, so a file that is its own
lower layer need not be read twice. What is merged a second time changes nothing more. Three layers
may be merged from either side unless a path holds a mapping in one of them and something else in
another; of these clashes only those between neighbours count. -/
theorem merge_laws {a b c : Entries} (ha : (Value.mapping a).Keyed) (hb : (Value.mapping b).Keyed)
    (hc : (Value.mapping c).Keyed) :
    merge a [] = a ∧ merge [] a = a ∧ merge a a = a ∧
      (∀ disk path environment, load disk path path environment = (do
        let raw ← readFile disk path
        let merged ← (readFile disk path).map (merge raw)
        (ofEntries (withEnvironment environment merged)).mapError .content)) ∧
      merge (merge a b) b = merge a b ∧
      ((Value.mapping a).Compatible (.mapping b) → (Value.mapping b).Compatible (.mapping c) →
        merge (merge a b) c = merge a (merge b c)) := by
  refine ⟨merge_nil a, nil_merge (Value.keyed_mapping_iff.mp ha).1, merge_self ha, load_of_same,
    merge_again ha hb, fun hab hbc => ?_⟩
  have hassoc := layOver_assoc ha hb hc hab hbc
  simp only [layOver_mapping] at hassoc
  exact Value.mapping.inj hassoc

/-- A lower file, an upper one and one over both, with a section in common. -/
theorem merge_laws_of_sections :
    let lower : Entries :=
      [(.text "log", .mapping [(.text "level", .text "INFO"), (.text "to_file", .bool true)]),
        (.text "synonyms", .mapping [(.text "trusts", .text "trust")])]
    let upper : Entries := [(.text "log", .mapping [(.text "level", .text "DEBUG")])]
    let last : Entries :=
      [(.text "search", .mapping [(.text "max_workers", .int 1)]),
        (.text "log", .mapping [(.text "to_file", .bool false), (.text "level", .text "ERROR")])]
    merge lower lower = lower ∧ merge (merge lower upper) upper = merge lower upper ∧
      merge (merge lower upper) last = merge lower (merge upper last) ∧
      merge (merge lower upper) last =
        [(.text "log", .mapping [(.text "level", .text "ERROR"), (.text "to_file", .bool false)]),
          (.text "synonyms", .mapping [(.text "trusts", .text "trust")]),
          (.text "search", .mapping [(.text "max_workers", .int 1)])] := by
  intro lower upper last
  have hlower : (Value.mapping lower).Keyed := by
    refine .mapping (by decide) (List.forall_mem_cons.mpr ⟨?_, List.forall_mem_singleton.mpr ?_⟩)
    · exact .mapping (by decide)
        (List.forall_mem_cons.mpr ⟨.leaf nofun, List.forall_mem_singleton.mpr (.leaf nofun)⟩)
    · exact .mapping (by decide) (List.forall_mem_singleton.mpr (.leaf nofun))
  have hupper : (Value.mapping upper).Keyed := by
    refine .mapping (by decide) (List.forall_mem_singleton.mpr ?_)
    exact .mapping (by decide) (List.forall_mem_singleton.mpr (.leaf nofun))
  have hlast : (Value.mapping last).Keyed := by
    refine .mapping (by decide) (List.forall_mem_cons.mpr ⟨?_, List.forall_mem_singleton.mpr ?_⟩)
    · exact .mapping (by decide) (List.forall_mem_singleton.mpr (.leaf nofun))
    · exact .mapping (by decide)
        (List.forall_mem_cons.mpr ⟨.leaf nofun, List.forall_mem_singleton.mpr (.leaf nofun)⟩)
  have hab : (Value.mapping lower).Compatible (.mapping upper) := by
    refine Value.compatible_of_entries (List.forall_mem_cons.mpr
      ⟨fun value hvalue => ?_, List.forall_mem_singleton.mpr fun value hvalue => ?_⟩)
    · cases hvalue
      refine Value.compatible_of_entries (List.forall_mem_cons.mpr
        ⟨fun value hvalue => ?_, List.forall_mem_singleton.mpr fun value hvalue => ?_⟩)
      · cases hvalue
        exact Value.compatible_of_leaves rfl rfl
      · cases hvalue
    · cases hvalue
  have hbc : (Value.mapping upper).Compatible (.mapping last) := by
    refine Value.compatible_of_entries (List.forall_mem_singleton.mpr fun value hvalue => ?_)
    cases hvalue
    refine Value.compatible_of_entries (List.forall_mem_singleton.mpr fun value hvalue => ?_)
    cases hvalue
    exact Value.compatible_of_leaves rfl rfl
  obtain ⟨-, -, hself, -, hagain, hassoc⟩ := merge_laws hlower hupper hlast
  exact ⟨hself, hagain, hassoc hab hbc, rfl⟩

/-- Between a mapping and a mapping, something else makes the side count: what is merged first
forgets the lower mapping, or keeps it. -/
example :
    let lower : Entries := [(.text "log", .mapping [(.text "level", .text "INFO")])]
    let upper : Entries := [(.text "log", .null)]
    let last : Entries := [(.text "log", .mapping [(.text "to_file", .bool true)])]
    merge (merge lower upper) last = last ∧
      merge lower (merge upper last) =
        [(.text "log", .mapping [(.text "level", .text "INFO"), (.text "to_file", .bool true)])] :=
  ⟨rfl, rfl⟩

end Settings

end CorpusSearch
