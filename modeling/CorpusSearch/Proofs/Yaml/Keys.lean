-- The mapping that a YAML text holds has each key once, and so has every mapping that is a value in
-- it, at any depth: entries of one key are put together as they are read.
import CorpusSearch.Proofs.Settings.Mapping
import CorpusSearch.Yaml.Reader

namespace CorpusSearch.Yaml

theorem ok_of_map {ε α β : Type} {result : Except ε α} {f : α → β} {b : β}
    (h : result.map f = .ok b) : ∃ a, result = .ok a ∧ f a = b := by
  cases result with
  | ok a => exact ⟨a, rfl, Except.ok.inj h⟩
  | error => cases h

theorem ok_of_both {α β : Type} {left : Judged α} {right : Judged β} {pair : α × β}
    (h : left.both right = .ok pair) : left = .ok pair.1 ∧ right = .ok pair.2 := by
  cases left <;> cases right <;> cases h
  exact ⟨rfl, rfl⟩

theorem scalarValue_ne_mapping {tag : Tag} {text : Text} {entries : Entries} :
    scalarValue tag text ≠ .ok (.mapping entries) := by
  intro h
  unfold scalarValue at h
  cases tag with
  | bool | int | float | moment =>
    obtain ⟨_, -, hvalue⟩ := ok_of_map h
    cases hvalue
  | binary =>
    dsimp only at h
    split at h <;> cases h
  | _ => cases h

namespace Node

theorem plainValue_ne_mapping {depth : Nat} {node : Node} {entries : Entries} :
    node.plainValue depth ≠ .ok (.mapping entries) := by
  intro h
  unfold plainValue Judged.at at h
  split at h
  · rename_i text _
    cases hscalar : scalarValue node.tag text with
    | ok value =>
      rw [hscalar] at h
      cases h
      exact scalarValue_ne_mapping hscalar
    | error =>
      rw [hscalar] at h
      cases h
  · cases h

theorem ofList_of_valueAt {depth : Nat} {node : Node} {entries : Entries}
    (h : node.valueAt depth = .ok (.mapping entries)) :
    ∃ nodes read, entriesAt (depth + 1) nodes = .ok read ∧ entries = .ofList read := by
  cases node with
  | scalar tag text =>
    unfold valueAt at h
    exact absurd h plainValue_ne_mapping
  | sequence tag items =>
    unfold valueAt at h
    split at h
    · obtain ⟨_, -, hvalue⟩ := ok_of_map h
      cases hvalue
    · split at h
      · obtain ⟨_, -, hvalue⟩ := ok_of_map h
        cases hvalue
      · cases h
  | mapping tag nodes =>
    unfold valueAt at h
    split at h
    · obtain ⟨read, hread, hvalue⟩ := ok_of_map h
      cases hvalue
      exact ⟨nodes, read, hread, rfl⟩
    · split at h
      · obtain ⟨_, -, hvalue⟩ := ok_of_map h
        cases hvalue
      · split at h
        · cases h
        · exact absurd h plainValue_ne_mapping
  | around =>
    unfold valueAt at h
    cases h

theorem exists_valueAt_of_entriesAt {depth : Nat} {nodes : List (Node × Node)}
    {read : List (Key × Value)} (h : entriesAt depth nodes = .ok read) :
    ∀ entry ∈ read, ∃ node : Node, node.valueAt depth = .ok entry.2 := by
  induction nodes generalizing read with
  | nil =>
    unfold entriesAt at h
    cases h
    exact nofun
  | cons pair nodes ih =>
    obtain ⟨key, value⟩ := pair
    unfold entriesAt at h
    obtain ⟨⟨first, rest⟩, hboth, rfl⟩ := ok_of_map h
    obtain ⟨hfirst, hrest⟩ := ok_of_both hboth
    exact List.forall_mem_cons.mpr ⟨⟨value, (ok_of_both hfirst).2⟩, ih hrest⟩

/-- What a node holds has each key once, and so has what its entries hold. -/
theorem keyed_of_valueAt {depth : Nat} {node : Node} {value : Value}
    (h : node.valueAt depth = .ok value) : value.Keyed := by
  refine Value.keyed_of_inherited
    (P := fun value => ∃ (node : Node) (depth : Nat), node.valueAt depth = .ok value)
    (fun entries hentries => ?_) value ⟨node, depth, h⟩
  obtain ⟨node, depth, hnode⟩ := hentries
  obtain ⟨nodes, read, hread, rfl⟩ := ofList_of_valueAt hnode
  refine ⟨(Entries.distinct_ofList read).1, fun entry hentry => ?_⟩
  obtain ⟨source, hsource, hsame⟩ := (Entries.distinct_ofList read).2 entry hentry
  obtain ⟨inner, hinner⟩ := exists_valueAt_of_entriesAt hread source hsource
  exact ⟨inner, depth + 1, hsame ▸ hinner⟩

end Node

/-- The value of a text has each key once in every mapping. -/
theorem keyed_of_read {text : Text} {value : Value} (h : read text = .ok value) : value.Keyed := by
  unfold read at h
  cases hnode : Node.ofTokens (tokensOf text) with
  | error =>
    rw [hnode] at h
    cases h
  | ok node =>
    rw [hnode] at h
    change node.value = .ok value at h
    unfold Node.value at h
    cases hmerged : node.merged.valueAt 0 with
    | ok found =>
      rw [hmerged] at h
      cases h
      exact Node.keyed_of_valueAt hmerged
    | error =>
      rw [hmerged] at h
      cases h

end CorpusSearch.Yaml
