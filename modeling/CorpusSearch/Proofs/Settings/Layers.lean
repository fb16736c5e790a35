-- Layers of settings, key by key. Of a key that is no mapping in the layers the value of the
-- environment counts, else that of the upper file, else that of the lower one; and a key that none
-- of them has is absent. No layer disturbs a key that it does not have.
import CorpusSearch.Proofs.Settings.Mapping
import CorpusSearch.Proofs.Yaml.Keys
import CorpusSearch.Settings.Section
import CorpusSearch.Settings.Source

namespace CorpusSearch.Settings

/-! ## Keys of sections -/

/-- The value of a key of a section. -/
def settingAt? (owner key : Text) (raw : Entries) : Option Value :=
  match raw.field? owner with
  | some (.mapping entries) => Entries.field? key entries
  | _ => none

/-- A section is absent or a mapping. -/
def IsSection (owner : Text) (raw : Entries) : Prop :=
  ∀ value, raw.field? owner = some value → ∃ entries, value = .mapping entries

/-- A section that is absent or a mapping is read without a fault, unless it is required and absent,
and its keys are those found in the whole. -/
theorem sectionOf_of_isSection {owner : Text} {raw : Entries} (h : IsSection owner raw) :
    ∃ entries, sectionOf false owner raw = .ok entries ∧
      (∀ key, entries.field? key = settingAt? owner key raw) ∧
      ∀ key, (settingAt? owner key raw).isSome → sectionOf true owner raw = .ok entries := by
  unfold sectionOf settingAt?
  cases hfield : raw.field? owner with
  | none => exact ⟨[], rfl, fun _ => rfl, fun _ hsome => nomatch hsome⟩
  | some value =>
    obtain ⟨entries, rfl⟩ := h value hfield
    exact ⟨entries, rfl, fun _ => rfl, fun _ _ => rfl⟩

/-- No key stands twice in a mapping or in one of its sections. -/
def KeysOnce (raw : Entries) : Prop :=
  raw.Distinct ∧ ∀ entry ∈ raw, ∀ entries, entry.2 = .mapping entries → Entries.Distinct entries

theorem KeysOnce.of_field? {raw : Entries} (h : KeysOnce raw) {owner : Text} {entries : Entries}
    (hfield : raw.field? owner = some (.mapping entries)) : entries.Distinct := by
  obtain ⟨entry, hentry, hvalue⟩ := Entries.exists_mem_of_get? hfield
  exact h.2 entry hentry entries hvalue

/-! ## Two layers -/

/-- A merge of two sections is a section, and a key that the upper one has gets its value from there
while every other key keeps the value of the lower one. -/
theorem merge_sections {owner : Text} {base override : Entries} (hbase : IsSection owner base)
    (hoverride : IsSection owner override) (honce : KeysOnce override) :
    IsSection owner (merge base override) ∧
      ∀ key, settingAt? owner key (merge base override) =
        match settingAt? owner key override with
        | none => settingAt? owner key base
        | some value => some (layOver (settingAt? owner key base) value) := by
  have hfield := get?_merge base honce.1 (.text owner)
  have hsection : ∀ entries : Entries, override.field? owner = some (.mapping entries) →
      entries.Distinct := fun _ => honce.of_field?
  unfold IsSection settingAt? Entries.field? at *
  cases ho : override.get? (.text owner) with
  | none =>
    rw [ho] at hfield
    rw [hfield]
    exact ⟨hbase, fun _ => rfl⟩
  | some upper =>
    obtain ⟨entries, rfl⟩ := hoverride upper ho
    cases hb : base.get? (.text owner) with
    | none =>
      simp only [ho, hb, layOver] at hfield
      rw [hfield]
      refine ⟨fun _ hvalue => ⟨entries, (Option.some.inj hvalue).symm⟩, fun key => ?_⟩
      simp only
      cases Entries.get? (.text key) entries with
      | none => rfl
      | some value => exact congrArg some (layOver_none value).symm
    | some lower =>
      obtain ⟨below, rfl⟩ := hbase lower hb
      simp only [ho, hb, layOver] at hfield
      rw [hfield]
      exact ⟨fun _ hvalue => ⟨_, (Option.some.inj hvalue).symm⟩,
        fun key => get?_merge below (hsection entries ho) (.text key)⟩

theorem settingAt?_merge {owner key : Text} {base override : Entries}
    (hbase : IsSection owner base) (hoverride : IsSection owner override)
    (honce : KeysOnce override)
    (hplain : (∀ entries, settingAt? owner key base ≠ some (.mapping entries)) ∨
      ∀ entries, settingAt? owner key override ≠ some (.mapping entries)) :
    settingAt? owner key (merge base override) =
      (settingAt? owner key override).or (settingAt? owner key base) := by
  rw [(merge_sections hbase hoverride honce).2 key]
  cases hvalue : settingAt? owner key override with
  | none => rfl
  | some value =>
    rw [hvalue] at hplain
    dsimp only
    rw [layOver_of_not_mapping, Option.some_or]
    exact hplain.imp_right fun h entries heq => h entries (congrArg some heq)

/-! ## The environment -/

/-- The text of a variable without the blanks around it, empty when the variable is absent. -/
def variableText (environment : Environment) (name : Text) : Text :=
  Text.strip ((environment.lookup name).getD [])

/-- The value that the environment gives to a key, none when no variable stands for the key or the
variable is blank. For the formats of the output it is the list of the parts between commas that are
not blank, and else the text of the variable. -/
def environmentAt? (environment : Environment) (owner key : Text) : Option Value :=
  (overrides.find? fun origin => origin.2 = (owner, key)).bind fun origin =>
    let text := variableText environment origin.1
    if text = [] then none
    else if (owner, key) = ("output".toList, "formats".toList) then
      some (.list ((((Text.splitAt (· == ',') text).map Text.strip).filter (· ≠ [])).map .text))
    else some (.text text)

/-- The value of a variable, with the section and the key it stands for. -/
def variableValue? (environment : Environment) (origin : Text × Text × Text) : Option Value :=
  let text := variableText environment origin.1
  if text = [] then none else some (variableValue origin.2.2 text)

/-- The section of a variable that is not blank. -/
def variableSection? (environment : Environment) (origin : Text × Text × Text) :
    Option (Key × Value) :=
  (variableValue? environment origin).map fun value =>
    (.text origin.2.1, .mapping [(.text origin.2.2, value)])

theorem overrides_apart :
    overrides.Pairwise fun origin other => origin.2.1 ≠ other.2.1 := by
  decide

/-- Only one variable stands for a key named formats, and it is the one of the output. -/
theorem formats_of_output : ∀ origin ∈ overrides,
    origin.2.2 = "formats".toList ↔ origin.2 = ("output".toList, "formats".toList) := by
  decide

variable (environment : Environment)

/-- The layer of the environment has one section for each variable that is not blank. -/
theorem environmentLayer_eq :
    environmentLayer environment = overrides.filterMap (variableSection? environment) ∧
      Entries.Distinct (overrides.filterMap (variableSection? environment)) := by
  have hlayers : variableLayer? environment =
      fun origin => (variableSection? environment origin).map fun entry => [entry] := by
    funext ⟨name, owner, key⟩
    unfold variableLayer? variableSection? variableValue? variableText
    simp only [List.isEmpty_iff]
    split <;> rfl
  have hdistinct : Entries.Distinct (overrides.filterMap (variableSection? environment)) := by
    refine overrides_apart.filterMap _ fun origin other hne entry hentry entry' hentry' => ?_
    obtain ⟨_, _, rfl⟩ := Option.map_eq_some_iff.mp hentry
    obtain ⟨_, _, rfl⟩ := Option.map_eq_some_iff.mp hentry'
    rw [Bool.eq_false_iff, Ne, Key.same_text_iff]
    exact hne
  rw [environmentLayer, hlayers, ← List.map_filterMap]
  exact ⟨foldl_merge_singletons [] (overrides.filterMap (variableSection? environment)) hdistinct,
    hdistinct⟩

/-- Every entry of the layer of the environment is a section with one key. -/
theorem of_mem_environmentLayer {entry : Key × Value}
    (h : entry ∈ environmentLayer environment) :
    ∃ key value, entry.2 = .mapping [(.text key, value)] := by
  rw [(environmentLayer_eq environment).1, List.mem_filterMap] at h
  obtain ⟨origin, -, horigin⟩ := h
  obtain ⟨value, -, rfl⟩ := Option.map_eq_some_iff.mp horigin
  exact ⟨origin.2.2, value, rfl⟩

theorem keysOnce_environmentLayer : KeysOnce (environmentLayer environment) := by
  constructor
  · rw [(environmentLayer_eq environment).1]
    exact (environmentLayer_eq environment).2
  · intro entry hentry entries hvalue
    obtain ⟨key, value, hmapping⟩ := of_mem_environmentLayer environment hentry
    rw [hmapping] at hvalue
    cases hvalue
    exact Entries.distinct_singleton _

theorem isSection_environmentLayer (owner : Text) :
    IsSection owner (environmentLayer environment) := by
  intro value hvalue
  obtain ⟨entry, hentry, rfl⟩ := Option.map_eq_some_iff.mp hvalue
  obtain ⟨key, value, hmapping⟩ :=
    of_mem_environmentLayer environment (List.mem_of_find?_eq_some hentry)
  exact ⟨_, hmapping⟩

theorem settingAt?_cons (owner key section' field : Text) (value : Value) (raw : Entries) :
    settingAt? owner key ((.text section', .mapping [(.text field, value)]) :: raw) =
      if section' = owner then (if field = key then some value else none)
      else settingAt? owner key raw := by
  simp only [settingAt?, Entries.field?, Entries.get?_cons, Key.same_text_iff]
  by_cases h : section' = owner
  · rw [if_pos h, if_pos h]
    simp only [Entries.get?_cons, Key.same_text_iff, Entries.get?_nil]
  · rw [if_neg h, if_neg h]

/-- Of variables that stand for keys of different sections, the one for a key gives the value. -/
theorem settingAt?_variables (owner key : Text) {origins : List (Text × Text × Text)}
    (h : origins.Pairwise fun origin other => origin.2.1 ≠ other.2.1) :
    settingAt? owner key (origins.filterMap (variableSection? environment)) =
      (origins.find? fun origin => origin.2 = (owner, key)).bind (variableValue? environment) := by
  induction origins with
  | nil => rfl
  | cons origin origins ih =>
    obtain ⟨hapart, hrest⟩ := List.pairwise_cons.mp h
    have ih := ih hrest
    obtain ⟨name, section', field⟩ := origin
    have hentry : variableSection? environment (name, section', field) =
        (variableValue? environment (name, section', field)).map fun value =>
          (.text section', .mapping [(.text field, value)]) := rfl
    rw [List.filterMap_cons, hentry, List.find?_cons]
    by_cases howner : section' = owner
    · -- No other variable stands for a key of this section.
      have hothers : origins.find? (fun origin => origin.2 = (owner, key)) = none := by
        rw [List.find?_eq_none]
        intro other hother hsame
        exact hapart other hother
          (howner.trans (congrArg Prod.fst (of_decide_eq_true hsame)).symm)
      rw [hothers] at ih ⊢
      cases hvalue : variableValue? environment (name, section', field) with
      | none =>
        refine ih.trans ?_
        split
        · exact hvalue.symm
        · rfl
      | some value =>
        rw [Option.map_some]
        refine (settingAt?_cons ..).trans ?_
        by_cases hkey : field = key
        · simp [howner, hkey, ← hvalue]
        · simp [howner, hkey]
    · have hsection : ¬ (section', field) = (owner, key) := fun h => howner (congrArg Prod.fst h)
      simp only [hsection, decide_false]
      rw [← ih]
      cases variableValue? environment (name, section', field) with
      | none => rfl
      | some value => exact (settingAt?_cons ..).trans (if_neg howner)

theorem settingAt?_environmentLayer (owner key : Text) :
    settingAt? owner key (environmentLayer environment) = environmentAt? environment owner key := by
  rw [(environmentLayer_eq environment).1,
    settingAt?_variables environment owner key overrides_apart]
  refine Option.bind_congr fun origin horigin => ?_
  have howned : origin.2 = (owner, key) := of_decide_eq_true
    (List.find?_some (p := fun origin : Text × Text × Text => origin.2 = (owner, key)) horigin)
  have hformats := formats_of_output origin (List.mem_of_find?_eq_some horigin)
  rw [howned] at hformats
  have hblank : (fun part : Text => !part.isEmpty) = fun part => decide (part ≠ []) := by
    funext part
    cases part <;> rfl
  unfold variableValue? variableValue
  rw [howned, hblank]
  simp only [hformats, ← apply_ite some]

theorem environmentAt?_not_mapping (owner key : Text) (entries : Entries) :
    environmentAt? environment owner key ≠ some (.mapping entries) := by
  unfold environmentAt?
  intro h
  obtain ⟨origin, -, horigin⟩ := Option.bind_eq_some_iff.mp h
  dsimp only at horigin
  split at horigin
  · cases horigin
  · split at horigin <;> cases horigin

/-- The environment gives the keys of its variables a value and leaves every other key alone. -/
theorem settingAt?_withEnvironment {owner : Text} {raw : Entries} (h : IsSection owner raw) :
    IsSection owner (withEnvironment environment raw) ∧
      ∀ key, settingAt? owner key (withEnvironment environment raw) =
        (environmentAt? environment owner key).or (settingAt? owner key raw) := by
  have hlayer := isSection_environmentLayer environment owner
  have honce := keysOnce_environmentLayer environment
  refine ⟨(merge_sections h hlayer honce).1, fun key => ?_⟩
  rw [← settingAt?_environmentLayer]
  refine settingAt?_merge h hlayer honce (Or.inr fun entries => ?_)
  rw [settingAt?_environmentLayer]
  exact environmentAt?_not_mapping environment owner key entries

/-! ## All layers -/

theorem keyed_readFile {disk : Files.Disk} {path : Files.Path} {raw : Entries}
    (h : readFile disk path = .ok raw) : (Value.mapping raw).Keyed := by
  unfold readFile at h
  cases htext : disk.readText path with
  | error =>
    rw [htext] at h
    cases h
  | ok text =>
    rw [htext] at h
    change (entriesOf (lineFeeds text)).mapError LoadFault.content = .ok raw at h
    unfold entriesOf at h
    split at h
    · cases h
    · rename_i entries hread
      cases h
      exact Yaml.keyed_of_read hread
    · split at h <;> cases h
      exact .mapping .nil nofun

/-- The settings of two files are those of the one laid over the other; a file that is its own
lower layer has nothing laid over it. -/
theorem load_eq_ofEntries {disk : Files.Disk} {path place : Files.Path} {base override : Entries}
    (hbase : readFile disk place = .ok base)
    (hoverride : if path = place then override = [] else readFile disk path = .ok override) :
    load disk path place environment =
      (ofEntries (withEnvironment environment (merge base override))).mapError .content := by
  unfold load
  rw [hbase]
  by_cases h : path = place
  · rw [if_pos h] at hoverride
    subst hoverride
    exact if_pos h
  · rw [if_neg h] at hoverride
    refine (if_neg h).trans ?_
    rw [hoverride]
    rfl

/-- The sections of one mapping are handed to the loaders, and a key of a section that is not a
mapping in both files has in it the value of the environment, else that of the upper file, else that
of the lower one. A key that none of them has is absent, and its loader takes a default of its own
or asks for the key. The environment changes no key without a variable, and the upper file none that
it does not have. -/
theorem layered_setting {owner : Text} {base override : Entries} (hbase : IsSection owner base)
    (hoverride : IsSection owner override) (honce : KeysOnce override) :
    let merged := merge base override
    let raw := withEnvironment environment merged
    (∀ disk path place, readFile disk place = .ok base →
      (if path = place then override = [] else readFile disk path = .ok override) →
      load disk path place environment = (ofEntries raw).mapError .content) ∧
    ∃ entries, sectionOf false owner raw = .ok entries ∧
      (∀ key, ((∀ lower, settingAt? owner key base ≠ some (.mapping lower)) ∨
          ∀ upper, settingAt? owner key override ≠ some (.mapping upper)) →
        let value := ((environmentAt? environment owner key).or (settingAt? owner key override)).or
          (settingAt? owner key base)
        entries.field? key = value ∧
        (value.isSome → sectionOf true owner raw = .ok entries) ∧
        (∀ other, optional entries key other = value.getD other) ∧
        ∀ dotted, required entries key dotted = value.elim (.error (.missing dotted)) .ok) ∧
      (∀ key, environmentAt? environment owner key = none →
        entries.field? key = settingAt? owner key merged) ∧
      ∀ key, settingAt? owner key override = none →
        settingAt? owner key merged = settingAt? owner key base := by
  have hmerged := merge_sections hbase hoverride honce
  have henvironment := settingAt?_withEnvironment environment hmerged.1
  obtain ⟨entries, hentries, hfield, hrequired⟩ := sectionOf_of_isSection henvironment.1
  refine ⟨fun _ _ _ => load_eq_ofEntries environment, entries, hentries, fun key hplain => ?_,
    fun key hvariable => ?_, fun key habsent => ?_⟩
  · have hvalue := henvironment.2 key
    rw [settingAt?_merge hbase hoverride honce hplain, ← Option.or_assoc] at hvalue
    rw [← hvalue, ← hfield]
    refine ⟨rfl, fun hsome => hrequired key (hfield key ▸ hsome), fun _ => rfl, fun dotted => ?_⟩
    unfold required
    cases entries.field? key <;> rfl
  · rw [hfield, henvironment.2, hvariable, Option.none_or]
  · rw [hmerged.2, habsent]

/-- A level in two files and in the environment, next to a key of the upper file, one of the lower
file and one that is nowhere; and an empty file under the same environment. -/
theorem layered_setting_level :
    let base : Entries := [(.text "log", .mapping
      [(.text "level", .text "INFO"), (.text "dir", .text "logs")])]
    let override : Entries := [(.text "log", .mapping
      [(.text "to_file", .bool true), (.text "level", .text "DEBUG")])]
    let environment : Environment := [("LAWSEARCH_LOG_LEVEL", " warn "), ("LAWSEARCH_DB_PATH", " ")]
    let empty : Files.Path := { names := ["empty.yml"] }
    (∃ entries,
      sectionOf true "log" (withEnvironment environment (merge base override)) = .ok entries ∧
      required entries "level" "log.level" = .ok (.text "warn") ∧
      optional entries "to_file" (.bool false) = .bool true ∧
      optional entries "dir" (.text "log") = .text "logs" ∧
      optional entries "colour" .null = .null) ∧
    load { nodes := [(["empty.yml"], .file "")] } empty empty environment =
      (ofEntries [(.text "log", .mapping [(.text "level", .text "warn")])]).mapError .content := by
  intro base override environment empty
  have hbase : IsSection "log" base := fun _ h => ⟨_, (Option.some.inj h).symm⟩
  have hoverride : IsSection "log" override := fun _ h => ⟨_, (Option.some.inj h).symm⟩
  have honce : KeysOnce override := by
    refine ⟨by decide, fun entry hentry entries hentries => ?_⟩
    rw [List.mem_singleton.mp hentry] at hentries
    cases hentries
    decide
  constructor
  · obtain ⟨-, entries, -, hkeys, -⟩ := layered_setting environment hbase hoverride honce
    have hlevel := hkeys "level" (.inl fun _ h => nomatch h)
    have htoFile := hkeys "to_file" (.inl fun _ h => nomatch h)
    have hdir := hkeys "dir" (.inl fun _ h => nomatch h)
    have hcolour := hkeys "colour" (.inl fun _ h => nomatch h)
    exact ⟨entries, hlevel.2.1 rfl, hlevel.2.2.2 _, htoFile.2.2.1 _, hdir.2.2.1 _,
      hcolour.2.2.1 _⟩
  · have hnothing : IsSection "log" [] := fun _ h => nomatch h
    exact (layered_setting environment hnothing hnothing ⟨.nil, nofun⟩).1 _ empty empty rfl rfl

end CorpusSearch.Settings
