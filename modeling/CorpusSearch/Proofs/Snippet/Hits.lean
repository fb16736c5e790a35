-- The hits of needles in a text: each of them stands at its position, a needle that occurs has a
-- hit whatever the other needles have, and up to the limit all occurrences of all needles are hits.
import CorpusSearch.Proofs.Query.Repetitions
import CorpusSearch.Proofs.Snippet.Centres
import CorpusSearch.Proofs.Text.Occurrences
import Mathlib.Algebra.GroupWithZero.Nat

namespace CorpusSearch.Snippet

variable {text : Text} {needles others : List Text} {hits : List Hit} {hit : Hit}

/-! ## Needle by needle -/

/-- A hit for each occurrence of a needle. -/
def hitsOf (text needle : Text) : List Hit :=
  (Text.occurrences needle text).map fun position => ⟨position, needle⟩

theorem addHits_eq (text : Text) (hits : List Hit) (needle : Text) :
    addHits text hits needle =
      hits ++ (hitsOf text needle).take (max 1 (maxOccurrences + 1 - hits.length)) := by
  unfold addHits hitsOf
  dsimp only
  rw [List.map_take]

theorem mem_foldl_addHits (h : hit ∈ needles.foldl (addHits text) hits) :
    hit ∈ hits ∨ hit.needle ∈ needles ∧ hit ∈ hitsOf text hit.needle := by
  induction needles generalizing hits with
  | nil => exact Or.inl h
  | cons needle needles ih =>
    rcases ih h with hfirst | ⟨hneedle, hhit⟩
    · rw [addHits_eq, List.mem_append] at hfirst
      rcases hfirst with hold | hnew
      · exact Or.inl hold
      · have hhit : hit ∈ hitsOf text needle := List.mem_of_mem_take hnew
        obtain ⟨position, -, rfl⟩ := List.mem_map.mp hhit
        exact Or.inr ⟨List.mem_cons_self .., hhit⟩
    · exact Or.inr ⟨List.mem_cons_of_mem _ hneedle, hhit⟩

/-- There is a hit as soon as one of the needles occurs: however many hits there are, the next
needle adds one. -/
theorem foldl_addHits_eq_nil_iff : needles.foldl (addHits text) hits = [] ↔
    hits = [] ∧ ∀ needle ∈ needles, Text.occurrences needle text = [] := by
  induction needles generalizing hits with
  | nil => simp
  | cons needle needles ih =>
    have hfirst : addHits text hits needle = [] ↔
        hits = [] ∧ Text.occurrences needle text = [] := by
      have hroom : max 1 (maxOccurrences + 1 - hits.length) ≠ 0 := by omega
      simp [addHits_eq, hitsOf, List.take_eq_nil_iff, hroom]
    rw [List.foldl_cons, ih, hfirst, List.forall_mem_cons, and_assoc]

theorem foldl_addHits_of_le
    (h : hits.length + (needles.map fun needle => (Text.occurrences needle text).length).sum ≤
      maxOccurrences) :
    needles.foldl (addHits text) hits = hits ++ needles.flatMap (hitsOf text) := by
  induction needles generalizing hits with
  | nil => simp
  | cons needle needles ih =>
    rw [List.map_cons, List.sum_cons] at h
    have hlength : (hitsOf text needle).length = (Text.occurrences needle text).length :=
      List.length_map ..
    have hfirst : addHits text hits needle = hits ++ hitsOf text needle := by
      rw [addHits_eq, List.take_of_length_le (by omega)]
    rw [List.foldl_cons, hfirst, ih, List.flatMap_cons, List.append_assoc]
    rw [List.length_append]
    omega

/-! ## All needles -/

theorem mem_distinctNeedles {needle : Text} :
    needle ∈ distinctNeedles needles ↔ needle ∈ needles ∧ needle ≠ [] := by
  simp [distinctNeedles, List.mem_eraseDups]

theorem nodup_distinctNeedles (needles : List Text) : (distinctNeedles needles).Nodup :=
  (Query.nodup_eraseDups needles).filter _

theorem findOccurrences_perm (text : Text) (needles : List Text) :
    (findOccurrences text needles).Perm ((distinctNeedles needles).foldl (addHits text) []) := by
  unfold findOccurrences
  rw [sortHits_eq_insertionSort]
  exact List.perm_insertionSort _ _

/-- How often the needles occur in a text, all of them together. -/
def occurrenceCount (text : Text) (needles : List Text) : Nat :=
  ((distinctNeedles needles).map fun needle => (Text.occurrences needle text).length).sum

theorem findOccurrences_perm_hitsOf (h : occurrenceCount text needles ≤ maxOccurrences) :
    (findOccurrences text needles).Perm ((distinctNeedles needles).flatMap (hitsOf text)) := by
  have hperm := findOccurrences_perm text needles
  rwa [foldl_addHits_of_le (by rwa [List.length_nil, Nat.zero_add]), List.nil_append] at hperm

theorem of_mem_findOccurrences (h : hit ∈ findOccurrences text needles) :
    hit.needle ∈ needles ∧ hit.needle ≠ [] ∧ hit.needle <+: text.drop hit.position := by
  have hmem := (findOccurrences_perm text needles).mem_iff.mp h
  rcases mem_foldl_addHits hmem with hnone | ⟨hneedle, hhit⟩
  · cases hnone
  · obtain ⟨position, hposition, heq⟩ := List.mem_map.mp hhit
    have hplace : position = hit.position := congrArg Hit.position heq
    rw [hplace] at hposition
    exact ⟨(mem_distinctNeedles.mp hneedle).1, (mem_distinctNeedles.mp hneedle).2,
      Text.prefix_of_mem_occurrences hposition⟩

theorem findOccurrences_ne_nil_iff : findOccurrences text needles ≠ [] ↔
    ∃ needle ∈ needles, needle ≠ [] ∧ needle <:+: text := by
  have hnil : findOccurrences text needles = [] ↔
      (distinctNeedles needles).foldl (addHits text) [] = [] :=
    ⟨fun h => (h ▸ findOccurrences_perm text needles).nil_eq.symm,
      fun h => (h ▸ findOccurrences_perm text needles).eq_nil⟩
  rw [Ne, hnil, foldl_addHits_eq_nil_iff]
  simp only [mem_distinctNeedles, true_and, and_imp]
  constructor
  · intro h
    by_contra hnone
    exact h fun needle hneedle hne =>
      (Text.occurrences_eq_nil_iff hne).mpr fun hin => hnone ⟨needle, hneedle, hne, hin⟩
  · rintro ⟨needle, hneedle, hne, hin⟩ hnone
    exact (Text.occurrences_eq_nil_iff hne).mp (hnone needle hneedle hne) hin

/-! ## Excerpts -/

theorem centres_ne_nil_iff {window maxSnippets : Int} (hmax : 1 ≤ maxSnippets) :
    centres window maxSnippets hits ≠ [] ↔ hits ≠ [] := by
  obtain ⟨room, hroom⟩ : ∃ room, maxSnippets.toNat = room + 1 := ⟨maxSnippets.toNat - 1, by omega⟩
  unfold centres
  rw [hroom]
  cases hits with
  | nil => simp [centresFrom]
  | cons hit hits => simp [centresFrom]

/-- Where there is room for an excerpt, a text has one exactly when a nonempty needle occurs in it.
-/
theorem extract_ne_nil_iff {window maxSnippets : Int} (hmax : 1 ≤ maxSnippets) :
    extract window maxSnippets text needles ≠ [] ↔
      ∃ needle ∈ needles, needle ≠ [] ∧ needle <:+: text := by
  unfold extract
  rw [Ne, List.map_eq_nil_iff, ← Ne, centres_ne_nil_iff hmax, findOccurrences_ne_nil_iff]

end CorpusSearch.Snippet
