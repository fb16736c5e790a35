-- Lists without their repetitions: of equal items the first one stays.
import Mathlib.Data.Finset.Card

namespace CorpusSearch.Query

variable {α β : Type} [BEq α] [LawfulBEq α] [BEq β] [LawfulBEq β]

theorem eraseDups_concat (items : List α) (x : α) :
    (items ++ [x]).eraseDups = if x ∈ items then items.eraseDups else items.eraseDups ++ [x] := by
  rw [List.eraseDups_append]
  by_cases h : x ∈ items <;> simp [List.removeAll, h, List.eraseDups_cons]

theorem foldl_eq_eraseDups (items : List α) :
    items.foldl (fun done x => if done.contains x then done else done ++ [x]) [] =
      items.eraseDups := by
  induction items using List.reverseRecOn with
  | nil => rfl
  | append_singleton items x ih =>
    rw [List.foldl_append, ih, List.foldl_cons, List.foldl_nil, eraseDups_concat]
    simp only [List.contains_iff_mem, List.mem_eraseDups]

theorem pairwise_idxOf_eraseDups (items : List α) :
    items.eraseDups.Pairwise fun x y => items.idxOf x < items.idxOf y := by
  induction items using List.reverseRecOn with
  | nil => exact .nil
  | append_singleton items x ih =>
    have hkept : items.eraseDups.Pairwise fun y z =>
        (items ++ [x]).idxOf y < (items ++ [x]).idxOf z := by
      refine ih.imp_of_mem fun hy hz hlt => ?_
      rwa [List.idxOf_append_of_mem (List.mem_eraseDups.mp hy),
        List.idxOf_append_of_mem (List.mem_eraseDups.mp hz)]
    rw [eraseDups_concat]
    split
    · exact hkept
    · rename_i hx
      refine List.pairwise_append.mpr ⟨hkept, List.pairwise_singleton _ _, ?_⟩
      intro y hy z hz
      obtain rfl := List.mem_singleton.mp hz
      have hmem := List.mem_eraseDups.mp hy
      rw [List.idxOf_append_of_mem hmem, List.idxOf_append_of_notMem hx]
      exact Nat.lt_add_right _ (List.idxOf_lt_length_of_mem hmem)

theorem nodup_eraseDups (items : List α) : items.eraseDups.Nodup := by
  refine (pairwise_idxOf_eraseDups items).imp ?_
  rintro x _ hlt rfl
  exact Nat.lt_irrefl _ hlt

theorem eraseDups_eq_nil_iff {items : List α} : items.eraseDups = [] ↔ items = [] := by
  simp only [List.eq_nil_iff_forall_not_mem, List.mem_eraseDups]

theorem all_eraseDups (p : α → Bool) (items : List α) : items.eraseDups.all p = items.all p := by
  rw [Bool.eq_iff_iff, List.all_eq_true, List.all_eq_true]
  constructor
  · intro h x hx
    exact h x (List.mem_eraseDups.mpr hx)
  · intro h x hx
    exact h x (List.mem_eraseDups.mp hx)

/-- A map that keeps items apart repeats an image only where an item is repeated. -/
theorem eraseDups_map {f : α → β} {items : List α}
    (h : ∀ x ∈ items, ∀ y ∈ items, f x = f y → x = y) :
    (items.map f).eraseDups = items.eraseDups.map f := by
  induction items using List.reverseRecOn with
  | nil => rfl
  | append_singleton items x ih =>
    have hitems := ih fun y hy z hz =>
      h y (List.mem_append_left _ hy) z (List.mem_append_left _ hz)
    have hmem : f x ∈ items.map f ↔ x ∈ items := by
      constructor
      · intro hfx
        obtain ⟨y, hy, hfy⟩ := List.mem_map.mp hfx
        rwa [← h y (List.mem_append_left _ hy) x (by simp) hfy]
      · exact List.mem_map_of_mem
    rw [List.map_append, List.map_singleton, eraseDups_concat, eraseDups_concat, hitems]
    by_cases hx : x ∈ items
    · rw [if_pos hx, if_pos (hmem.mpr hx)]
    · rw [if_neg hx, if_neg (mt hmem.mp hx), List.map_append, List.map_singleton]

/-- A map leaves the first occurrences as they are exactly when it changes no item: it cannot merge
items, since as many would have to be left. -/
theorem eraseDups_map_eq_iff {f : α → α} {items : List α} :
    (items.map f).eraseDups = items.eraseDups ↔ ∀ x ∈ items, f x = x := by
  constructor
  · intro h
    classical
    have himage : items.toFinset.image f = items.toFinset := by
      ext y
      rw [Finset.mem_image, List.mem_toFinset, ← List.mem_eraseDups, ← h, List.mem_eraseDups,
        List.mem_map]
      simp only [List.mem_toFinset]
    have hinj : Set.InjOn f items.toFinset := Finset.card_image_iff.mp (by rw [himage])
    have hmap : items.eraseDups.map f = items.eraseDups := by
      rw [← eraseDups_map, h]
      exact fun x hx y hy => hinj (List.mem_toFinset.mpr hx) (List.mem_toFinset.mpr hy)
    intro x hx
    exact List.map_inj_left.mp (hmap.trans (List.map_id _).symm) x (List.mem_eraseDups.mpr hx)
  · intro h
    rw [List.map_congr_left h, List.map_id'']
    exact fun _ => rfl

/-! ## Lists behind each other -/

theorem eraseDups_append_of_subset {items others : List α} (h : others ⊆ items) :
    (items ++ others).eraseDups = items.eraseDups := by
  have hnone : others.removeAll items = [] := by
    rw [List.removeAll, List.filter_eq_nil_iff]
    intro x hx
    simp [h hx]
  rw [List.eraseDups_append, hnone, List.eraseDups_nil, List.append_nil]

theorem eraseDups_eraseDups (items : List α) : items.eraseDups.eraseDups = items.eraseDups := by
  induction items using List.reverseRecOn with
  | nil => rfl
  | append_singleton items x ih =>
    rw [eraseDups_concat]
    split
    · exact ih
    · rename_i hx
      rw [eraseDups_concat, if_neg (mt List.mem_eraseDups.mp hx), ih]

/-- The first occurrences of two lists are those among the first occurrences of each. -/
theorem eraseDups_append_eraseDups (items others : List α) :
    (items.eraseDups ++ others.eraseDups).eraseDups = (items ++ others).eraseDups := by
  induction others using List.reverseRecOn with
  | nil => rw [List.eraseDups_nil, List.append_nil, List.append_nil, eraseDups_eraseDups]
  | append_singleton others x ih =>
    rw [← List.append_assoc, eraseDups_concat, eraseDups_concat]
    by_cases hx : x ∈ others
    · rw [if_pos hx, if_pos (List.mem_append_right _ hx), ih]
    · rw [if_neg hx, ← List.append_assoc, eraseDups_concat, ih]
      simp only [List.mem_append, List.mem_eraseDups]

theorem eraseDups_append_congr {items items' others others' : List α}
    (h : items.eraseDups = items'.eraseDups) (h' : others.eraseDups = others'.eraseDups) :
    (items ++ others).eraseDups = (items' ++ others').eraseDups := by
  rw [← eraseDups_append_eraseDups, h, h', eraseDups_append_eraseDups]

/-- Only the first occurrences count in each of the lists that items are replaced by. -/
theorem eraseDups_flatMap_congr {γ : Type} {f g : γ → List α} {items : List γ}
    (h : ∀ x ∈ items, (f x).eraseDups = (g x).eraseDups) :
    (items.flatMap f).eraseDups = (items.flatMap g).eraseDups := by
  induction items with
  | nil => rfl
  | cons x items ih =>
    have hrest := ih fun y hy => h y (List.mem_cons_of_mem _ hy)
    rw [List.flatMap_cons, List.flatMap_cons]
    exact eraseDups_append_congr (h x List.mem_cons_self) hrest

/-- Only the first occurrences of the items that are replaced count. -/
theorem eraseDups_flatMap_eraseDups (f : β → List α) (items : List β) :
    (items.eraseDups.flatMap f).eraseDups = (items.flatMap f).eraseDups := by
  induction items using List.reverseRecOn with
  | nil => rfl
  | append_singleton items x ih =>
    rw [eraseDups_concat, List.flatMap_append, List.flatMap_singleton]
    split
    · rename_i hx
      have hin : f x ⊆ items.flatMap f := fun y hy => List.mem_flatMap.mpr ⟨x, hx, hy⟩
      rw [ih, eraseDups_append_of_subset hin]
    · rw [List.flatMap_append, List.flatMap_singleton]
      exact eraseDups_append_congr ih rfl

end CorpusSearch.Query
