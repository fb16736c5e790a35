-- Mappings by their look-ups: what is found behind a change of one key, and behind a merge of two
-- mappings. Keys that name the same entry are one key here.
import CorpusSearch.Settings.Layers

namespace CorpusSearch

/-! ## Keys -/

theorem Key.same_iff {k k' : Key} : k.same k' = true ↔ k.plain = k'.plain := beq_iff_eq

theorem Key.same_text_iff {t t' : Text} : (Key.text t).same (.text t') = true ↔ t = t' := by
  rw [Key.same_iff]
  exact Key.text.injEq t t' ▸ Iff.rfl

theorem Key.same_comm (k k' : Key) : k.same k' = k'.same k := by
  rw [Bool.eq_iff_iff, Key.same_iff, Key.same_iff, eq_comm]

theorem Key.eq_text_of_same {k : Key} {t : Text} (h : k.same (.text t) = true) : k = .text t := by
  have hplain : k.plain = .text t := Key.same_iff.mp h
  cases k with
  | float d =>
    unfold Key.plain at hplain
    dsimp only at hplain
    split at hplain <;> cases hplain
  | text t' => exact hplain
  | _ => cases hplain

theorem Key.same_congr {k k' : Key} (h : k.same k' = true) (key : Key) :
    k.same key = k'.same key ∧ key.same k = key.same k' := by
  unfold Key.same
  rw [Key.same_iff.mp h]
  exact ⟨rfl, rfl⟩

namespace Entries

/-! ## Look-ups -/

@[simp] theorem get?_nil (key : Key) : get? key [] = none := rfl

theorem get?_cons (key k : Key) (v : Value) (entries : Entries) :
    get? key ((k, v) :: entries) = if k.same key then some v else get? key entries := by
  unfold get?
  rw [List.find?_cons]
  cases k.same key <;> rfl

theorem get?_congr {key key' : Key} (h : key.same key' = true) (entries : Entries) :
    get? key entries = get? key' entries := by
  unfold get?
  simp only [(Key.same_congr h _).2]

theorem get?_eq_none_iff {key : Key} {entries : Entries} :
    get? key entries = none ↔ ∀ entry ∈ entries, entry.1.same key = false := by
  unfold get?
  rw [Option.map_eq_none_iff, List.find?_eq_none]
  simp only [Bool.not_eq_true]

theorem get?_put (key sought : Key) (value : Value) (entries : Entries) :
    get? sought (put key value entries) =
      if key.same sought then some value else get? sought entries := by
  induction entries with
  | nil => rw [put, get?_cons]
  | cons entry entries ih =>
    obtain ⟨k, v⟩ := entry
    unfold put
    by_cases hk : k.same key = true
    · rw [if_pos hk, get?_cons, get?_cons, (Key.same_congr hk sought).1]
      split <;> rfl
    · rw [if_neg hk, get?_cons, get?_cons, ih]
      by_cases hsought : k.same sought = true
      · have hkey : ¬ key.same sought = true := by
          intro hsame
          rw [(Key.same_congr hsame k).2] at hk
          exact hk hsought
        rw [if_pos hsought, if_pos hsought, if_neg hkey]
      · rw [if_neg hsought, if_neg hsought]

theorem put_of_get?_eq_none {key : Key} {entries : Entries} (h : get? key entries = none)
    (value : Value) : put key value entries = entries ++ [(key, value)] := by
  induction entries with
  | nil => rfl
  | cons entry entries ih =>
    obtain ⟨k, v⟩ := entry
    rw [get?_cons] at h
    split at h
    · cases h
    · rename_i hk
      rw [put, if_neg hk, ih h, List.cons_append]

/-! ## Each key once -/

/-- No two entries of a mapping have the same key. -/
def Distinct (entries : Entries) : Prop :=
  entries.Pairwise fun entry other => entry.1.same other.1 = false

instance instDecidableDistinct (entries : Entries) : Decidable entries.Distinct :=
  inferInstanceAs (Decidable (List.Pairwise _ _))

theorem distinct_iff {entries : Entries} :
    entries.Distinct ↔ (entries.map (·.1)).Pairwise fun k k' => k.same k' = false := by
  rw [List.pairwise_map]
  rfl

theorem distinct_singleton (entry : Key × Value) : Distinct [entry] := List.pairwise_singleton ..

theorem Distinct.get?_tail {key k : Key} {v : Value} {entries : Entries}
    (h : Distinct ((k, v) :: entries)) (hk : k.same key = true) : get? key entries = none := by
  rw [get?_eq_none_iff]
  intro entry hentry
  rw [← (Key.same_congr hk entry.1).2, Key.same_comm]
  exact (List.pairwise_cons.mp h).1 entry hentry

theorem map_put_of_get?_ne_none {key : Key} {entries : Entries} (h : get? key entries ≠ none)
    (value : Value) : (put key value entries).map (·.1) = entries.map (·.1) := by
  induction entries with
  | nil => exact absurd rfl h
  | cons entry entries ih =>
    obtain ⟨k, v⟩ := entry
    rw [get?_cons] at h
    unfold put
    split
    · rfl
    · rename_i hk
      rw [if_neg hk] at h
      rw [List.map_cons, List.map_cons, ih h]

theorem distinct_put {entries : Entries} (h : entries.Distinct) (key : Key) (value : Value) :
    (put key value entries).Distinct := by
  by_cases hnone : get? key entries = none
  · rw [put_of_get?_eq_none hnone]
    refine List.pairwise_append.mpr ⟨h, distinct_singleton _, fun entry hentry other hother => ?_⟩
    rw [List.mem_singleton.mp hother]
    exact get?_eq_none_iff.mp hnone entry hentry
  · rwa [distinct_iff, map_put_of_get?_ne_none hnone, ← distinct_iff]

theorem mem_put {key : Key} {value : Value} {entries : Entries} {entry : Key × Value}
    (h : entry ∈ put key value entries) : entry.2 = value ∨ entry ∈ entries := by
  induction entries with
  | nil => exact .inl (congrArg Prod.snd (List.mem_singleton.mp h))
  | cons first entries ih =>
    obtain ⟨k, v⟩ := first
    unfold put at h
    split at h
    · rcases List.mem_cons.mp h with rfl | hmem
      · exact .inl rfl
      · exact .inr (List.mem_cons_of_mem _ hmem)
    · rcases List.mem_cons.mp h with rfl | hmem
      · exact .inr List.mem_cons_self
      · exact (ih hmem).imp_right (List.mem_cons_of_mem _)

/-- Entries that are read one after another make a mapping with each key once, and with no other
values. -/
theorem distinct_ofList (entries : List (Key × Value)) :
    (ofList entries).Distinct ∧ ∀ entry ∈ ofList entries, ∃ read ∈ entries, entry.2 = read.2 := by
  refine List.foldlRecOn entries _
    (motive := fun done : Entries =>
      done.Distinct ∧ ∀ entry ∈ done, ∃ read ∈ entries, entry.2 = read.2)
    ⟨.nil, nofun⟩ fun done hdone read hread => ?_
  refine ⟨distinct_put hdone.1 read.1 read.2, fun entry hentry => ?_⟩
  rcases mem_put hentry with hvalue | hold
  · exact ⟨read, hread, hvalue⟩
  · exact hdone.2 entry hold

theorem Distinct.get?_before {done entries : Entries} {entry : Key × Value}
    (h : Distinct (done ++ entry :: entries)) : get? entry.1 done = none := by
  rw [get?_eq_none_iff]
  intro present hpresent
  exact (List.pairwise_append.mp h).2.2 present hpresent entry List.mem_cons_self

/-- Entries with different keys stay as they are when they are read. -/
theorem foldl_put_of_distinct {done entries : Entries} (h : Distinct (done ++ entries)) :
    entries.foldl (fun done entry => put entry.1 entry.2 done) done = done ++ entries := by
  induction entries generalizing done with
  | nil => exact (List.append_nil done).symm
  | cons entry entries ih =>
    rw [List.foldl_cons, put_of_get?_eq_none h.get?_before, ih (by simpa using h),
      List.append_assoc, List.singleton_append]

theorem ofList_of_distinct {entries : List (Key × Value)} (h : Distinct entries) :
    ofList entries = entries := by
  unfold ofList
  rw [foldl_put_of_distinct (by simpa using h), List.nil_append]

theorem exists_mem_of_get? {key : Key} {value : Value} {entries : Entries}
    (h : get? key entries = some value) : ∃ entry ∈ entries, entry.2 = value := by
  obtain ⟨entry, hfound, hvalue⟩ := Option.map_eq_some_iff.mp h
  exact ⟨entry, List.mem_of_find?_eq_some hfound, hvalue⟩

end Entries

/-! ## Each key once at every depth -/

namespace Value

/-- No key stands twice in a mapping that is reached through mappings alone. -/
inductive Keyed : Value → Prop
  | leaf {value : Value} (hleaf : ∀ entries, value ≠ .mapping entries) : Keyed value
  | mapping {entries : Entries} (honce : entries.Distinct)
      (hinner : ∀ entry ∈ entries, Keyed entry.2) : Keyed (.mapping entries)

theorem keyed_mapping_iff {entries : Entries} :
    Keyed (.mapping entries) ↔ entries.Distinct ∧ ∀ entry ∈ entries, Keyed entry.2 := by
  constructor
  · intro h
    cases h with
    | leaf hleaf => exact absurd rfl (hleaf entries)
    | mapping honce hinner => exact ⟨honce, hinner⟩
  · intro ⟨honce, hinner⟩
    exact .mapping honce hinner

theorem Keyed.of_get? {entries : Entries} (h : Keyed (.mapping entries)) {key : Key}
    {value : Value} (hvalue : entries.get? key = some value) : Keyed value := by
  obtain ⟨entry, hentry, rfl⟩ := Entries.exists_mem_of_get? hvalue
  exact (keyed_mapping_iff.mp h).2 entry hentry

/-- A property that a mapping hands on to its values, and that no mapping with a key twice has. -/
theorem keyed_of_inherited {P : Value → Prop}
    (hP : ∀ entries, P (.mapping entries) → Entries.Distinct entries ∧ ∀ entry ∈ entries, P entry.2)
    (value : Value) (h : P value) : Keyed value := by
  by_cases hmapping : ∃ entries, value = .mapping entries
  · obtain ⟨entries, rfl⟩ := hmapping
    exact .mapping (hP entries h).1 fun entry hentry =>
      keyed_of_inherited hP entry.2 ((hP entries h).2 entry hentry)
  · exact .leaf fun entries heq => hmapping ⟨entries, heq⟩
termination_by sizeOf value
decreasing_by
  subst_vars
  have hsize := List.sizeOf_lt_of_mem hentry
  obtain ⟨key, inner⟩ := entry
  simp only [Prod.mk.sizeOf_spec, mapping.sizeOf_spec] at hsize ⊢
  omega

end Value

/-! ## Merges -/

namespace Settings

@[simp] theorem layOver_none (value : Value) : layOver none value = value := by
  cases value <;> rfl

theorem layOver_of_not_mapping {current : Option Value} {value : Value}
    (h : (∀ entries, current ≠ some (.mapping entries)) ∨ ∀ entries, value ≠ .mapping entries) :
    layOver current value = value := by
  cases value with
  | mapping entries =>
    rcases h with hcurrent | hvalue
    · unfold layOver
      split
      · exact absurd rfl (hcurrent _)
      · rfl
    · exact absurd rfl (hvalue entries)
  | _ => rfl

/-- A key of the upper mapping has its value laid over the one below; every other key is as it is
below. -/
theorem get?_merge (base : Entries) {override : Entries} (h : override.Distinct) (key : Key) :
    (merge base override).get? key =
      match override.get? key with
      | none => base.get? key
      | some value => some (layOver (base.get? key) value) := by
  unfold merge
  induction override generalizing base with
  | nil => rw [mergeInto, Entries.get?_nil]
  | cons entry override ih =>
    obtain ⟨k, v⟩ := entry
    rw [mergeInto, ih _ (List.pairwise_cons.mp h).2, Entries.get?_cons, Entries.get?_put]
    by_cases hk : k.same key = true
    · rw [h.get?_tail hk, if_pos hk, if_pos hk, Entries.get?_congr hk]
    · rw [if_neg hk, if_neg hk]

/-- Entries with keys of their own, merged one by one, are the entries of one mapping. -/
theorem foldl_merge_singletons (done entries : Entries) (h : (done ++ entries).Distinct) :
    (entries.map fun entry => [entry]).foldl merge done = done ++ entries := by
  induction entries generalizing done with
  | nil => rw [List.map_nil, List.foldl_nil, List.append_nil]
  | cons entry entries ih =>
    have hmerge : merge done [entry] = done ++ [entry] := by
      rw [merge, mergeInto, mergeInto, h.get?_before, layOver_none,
        Entries.put_of_get?_eq_none h.get?_before]
    rw [List.map_cons, List.foldl_cons, hmerge, ih _ (by simpa using h), List.append_assoc,
      List.singleton_append]

end Settings

end CorpusSearch
