-- The hits of each needle for itself. They are the first ones of its places in the text from left
-- to right, one of them at least and all of them up to the limit, and behind the limit every needle
-- adds one hit at most. Hits at one position stand in the order of their needles.
import CorpusSearch.Proofs.Snippet.Hits

namespace CorpusSearch.Snippet

variable {text : Text} {needles : List Text} {hits : List Hit} {hit : Hit} {needle : Text}

def positionsOf (needle : Text) (hits : List Hit) : List Nat :=
  (hits.filter fun hit => hit.needle = needle).map Hit.position

/-! ## Before they are sorted -/

theorem needle_of_mem_hitsOf (h : hit ∈ hitsOf text needle) : hit.needle = needle := by
  obtain ⟨position, -, rfl⟩ := List.mem_map.mp h
  rfl

theorem positions_hitsOf (text needle : Text) :
    (hitsOf text needle).map Hit.position = Text.occurrences needle text := by
  unfold hitsOf
  rw [List.map_map]
  exact List.map_id _

/-- The hits of different needles are those of the first one, then those of the next one and so on,
and each needle has room for one hit or more. -/
theorem exists_room_foldl_addHits (text : Text) (hneedles : needles.Nodup) (hits : List Hit) :
    ∃ room : Text → Nat, (∀ needle, 1 ≤ room needle) ∧
      needles.foldl (addHits text) hits =
        hits ++ needles.flatMap fun needle => (hitsOf text needle).take (room needle) := by
  induction needles generalizing hits with
  | nil => exact ⟨fun _ => 1, fun _ => Nat.le_refl 1, (List.append_nil hits).symm⟩
  | cons first needles ih =>
    obtain ⟨hfirst, hrest⟩ := List.nodup_cons.mp hneedles
    obtain ⟨room, hroom, hhits⟩ := ih hrest (addHits text hits first)
    refine ⟨Function.update room first (max 1 (maxOccurrences + 1 - hits.length)), ?_, ?_⟩
    · intro needle
      rw [Function.update_apply]
      split
      · exact Nat.le_max_left ..
      · exact hroom needle
    · rw [List.foldl_cons, hhits, addHits_eq, List.append_assoc, List.flatMap_cons,
        Function.update_self]
      congr 2
      refine List.flatMap_congr fun needle hneedle => ?_
      rw [Function.update_of_ne (ne_of_mem_of_not_mem hneedle hfirst)]

/-- A needle passes the limit by one hit at most, and so does every needle behind it. -/
theorem length_foldl_addHits_le (text : Text) (needles : List Text) (hits : List Hit) :
    (needles.foldl (addHits text) hits).length ≤
      max hits.length maxOccurrences + needles.length := by
  induction needles generalizing hits with
  | nil => exact Nat.le_max_left ..
  | cons needle needles ih =>
    have hrest := ih (addHits text hits needle)
    have hfirst : (addHits text hits needle).length ≤ max hits.length maxOccurrences + 1 := by
      rw [addHits_eq, List.length_append, List.length_take]
      omega
    rw [List.foldl_cons, List.length_cons]
    omega

/-- In hits that are put together needle by needle, each needle finds its own ones again. -/
theorem positionsOf_flatMap {hitsFor : Text → List Hit} (hneedles : needles.Nodup)
    (hneedle : needle ∈ needles) (hown : ∀ needle, ∀ hit ∈ hitsFor needle, hit.needle = needle) :
    positionsOf needle (needles.flatMap hitsFor) = (hitsFor needle).map Hit.position := by
  have hself : (hitsFor needle).filter (fun hit => hit.needle = needle) = hitsFor needle :=
    List.filter_eq_self.mpr fun hit hhit => decide_eq_true (hown needle hit hhit)
  have hnone : ∀ others : List Text, needle ∉ others →
      (others.flatMap hitsFor).filter (fun hit => hit.needle = needle) = [] := by
    intro others hothers
    refine List.filter_eq_nil_iff.mpr fun hit hhit => ?_
    obtain ⟨other, hother, hhit⟩ := List.mem_flatMap.mp hhit
    rw [hown other hit hhit, decide_eq_true_iff]
    exact ne_of_mem_of_not_mem hother hothers
  obtain ⟨before, behind, rfl⟩ := List.append_of_mem hneedle
  have hapart := (List.nodup_cons.mp (List.nodup_middle.mp hneedles)).1
  unfold positionsOf
  rw [List.flatMap_append, List.flatMap_cons, List.filter_append, List.filter_append, hself,
    hnone before fun h => hapart (List.mem_append_left _ h),
    hnone behind fun h => hapart (List.mem_append_right _ h), List.nil_append, List.append_nil]

/-! ## Sorted by position -/

theorem mem_insertHit {other : Hit} : other ∈ insertHit hit hits ↔ other = hit ∨ other ∈ hits := by
  rw [insertHit_eq_orderedInsert, List.mem_orderedInsert]

/-- The order by position, in which hits at one position keep the order that they had. -/
def Hit.Precedes (before : Hit → Hit → Prop) (hit other : Hit) : Prop :=
  hit.position < other.position ∨ hit.position = other.position ∧ before hit other

theorem Hit.Precedes.position_le {before : Hit → Hit → Prop} {other : Hit}
    (h : hit.Precedes before other) : hit.position ≤ other.position := by
  rcases h with hlt | ⟨heq, -⟩
  · exact Nat.le_of_lt hlt
  · exact Nat.le_of_eq heq

theorem pairwise_insertHit {before : Hit → Hit → Prop} (hhits : hits.Pairwise (Hit.Precedes before))
    (hhit : ∀ other ∈ hits, before hit other) :
    (insertHit hit hits).Pairwise (Hit.Precedes before) := by
  induction hits with
  | nil => exact List.pairwise_singleton _ _
  | cons other hits ih =>
    obtain ⟨hother, hrest⟩ := List.pairwise_cons.mp hhits
    rw [insertHit]
    split
    · rename_i hle
      refine List.pairwise_cons.mpr ⟨fun next hnext => ?_, hhits⟩
      have hposition : hit.position ≤ next.position := by
        rcases List.mem_cons.mp hnext with rfl | hnext
        · exact hle
        · exact Nat.le_trans hle (hother next hnext).position_le
      exact (Nat.lt_or_eq_of_le hposition).imp_right fun heq => ⟨heq, hhit next hnext⟩
    · rename_i hle
      refine List.pairwise_cons.mpr ⟨fun next hnext => ?_,
        ih hrest fun next hnext => hhit next (List.mem_cons_of_mem _ hnext)⟩
      rcases mem_insertHit.mp hnext with rfl | hnext
      · exact Or.inl (Nat.lt_of_not_le hle)
      · exact hother next hnext

theorem pairwise_sortHits {before : Hit → Hit → Prop} (h : hits.Pairwise before) :
    (sortHits hits).Pairwise (Hit.Precedes before) := by
  induction hits with
  | nil => exact .nil
  | cons hit hits ih =>
    obtain ⟨hhit, hrest⟩ := List.pairwise_cons.mp h
    have hmem : ∀ other, other ∈ sortHits hits ↔ other ∈ hits := by
      intro other
      rw [sortHits_eq_insertionSort, List.mem_insertionSort]
    exact pairwise_insertHit (ih hrest) fun other hother => hhit other ((hmem other).mp hother)

/-- The hits of a needle come out as they went in, if they went in from left to right. -/
theorem positionsOf_findOccurrences {places : List Nat}
    (h : positionsOf needle ((distinctNeedles needles).foldl (addHits text) []) = places)
    (hplaces : places.Pairwise (· ≤ ·)) :
    positionsOf needle (findOccurrences text needles) = places := by
  have hsorted : (positionsOf needle (findOccurrences text needles)).Pairwise (· ≤ ·) :=
    List.pairwise_map.mpr ((pairwise_findOccurrences text needles).filter _)
  subst h
  exact List.Perm.eq_of_pairwise (fun _ _ _ _ => Nat.le_antisymm) hsorted hplaces
    (((findOccurrences_perm text needles).filter _).map _)

/-! ## The needles that are looked for -/

theorem pairwise_idxOf_distinctNeedles (needles : List Text) :
    (distinctNeedles needles).Pairwise fun needle other =>
      needles.idxOf needle < needles.idxOf other :=
  (Query.pairwise_idxOf_eraseDups needles).filter _

/-- One needle after another, and each needle from left to right. -/
def Hit.IsBefore (needles : List Text) (hit other : Hit) : Prop :=
  needles.idxOf hit.needle < needles.idxOf other.needle ∨
    hit.needle = other.needle ∧ hit.position < other.position

theorem pairwise_isBefore (text : Text) (needles : List Text) (room : Text → Nat) :
    ((distinctNeedles needles).flatMap fun needle =>
      (hitsOf text needle).take (room needle)).Pairwise (Hit.IsBefore needles) := by
  have hneedle : ∀ {needle : Text} {hit : Hit}, hit ∈ (hitsOf text needle).take (room needle) →
      hit.needle = needle := fun h => needle_of_mem_hitsOf (List.mem_of_mem_take h)
  refine List.pairwise_flatMap.mpr ⟨fun needle hmem => ?_, ?_⟩
  · have hplaces := Text.pairwise_lt_occurrences (mem_distinctNeedles.mp hmem).2 text
    have hhits : (hitsOf text needle).Pairwise fun hit other => hit.position < other.position := by
      rw [← List.pairwise_map, positions_hitsOf]
      exact hplaces
    refine (hhits.sublist (List.take_sublist ..)).imp_of_mem fun hhit hother hlt => Or.inr ⟨?_, hlt⟩
    rw [hneedle hhit, hneedle hother]
  · refine (pairwise_idxOf_distinctNeedles needles).imp fun hlt hit hhit other hother => ?_
    rw [Hit.IsBefore, hneedle hhit, hneedle hother]
    exact Or.inl hlt

/-- Hits stand in the order of their positions and, at one position, of their needles. -/
theorem pairwise_position_needle (text : Text) (needles : List Text) :
    (findOccurrences text needles).Pairwise fun hit other => hit.position < other.position ∨
      hit.position = other.position ∧ needles.idxOf hit.needle < needles.idxOf other.needle := by
  obtain ⟨room, -, hhits⟩ :=
    exists_room_foldl_addHits text (nodup_distinctNeedles needles) []
  have hsorted : (findOccurrences text needles).Pairwise (Hit.Precedes (Hit.IsBefore needles)) := by
    refine pairwise_sortHits ?_
    rw [hhits]
    exact pairwise_isBefore text needles room
  -- At one position no needle has two hits, so it is the needles that tell hits there apart.
  refine hsorted.imp fun hprecedes => hprecedes.imp_right fun ⟨heq, hbefore⟩ => ⟨heq, ?_⟩
  exact hbefore.resolve_right fun ⟨_, hlt⟩ => Nat.ne_of_lt hlt heq

/-- The hits of a needle are the first ones of its places, and there is room for one. -/
theorem exists_positionsOf_eq_take (text : Text) (hneedle : needle ∈ distinctNeedles needles) :
    ∃ room, 1 ≤ room ∧ positionsOf needle (findOccurrences text needles) =
      (Text.occurrences needle text).take room := by
  obtain ⟨room, hroom, hhits⟩ :=
    exists_room_foldl_addHits text (nodup_distinctNeedles needles) []
  have hpositions : positionsOf needle ((distinctNeedles needles).foldl (addHits text) []) =
      (Text.occurrences needle text).take (room needle) := by
    rw [hhits, List.nil_append, positionsOf_flatMap (nodup_distinctNeedles needles) hneedle
      fun _ _ hhit => needle_of_mem_hitsOf (List.mem_of_mem_take hhit), List.map_take,
      positions_hitsOf]
  exact ⟨room needle, hroom needle, positionsOf_findOccurrences hpositions
    ((Text.pairwise_occurrences needle text).sublist (List.take_sublist ..))⟩

theorem positionsOf_of_few (hneedle : needle ∈ distinctNeedles needles)
    (hfew : occurrenceCount text needles ≤ maxOccurrences) :
    positionsOf needle (findOccurrences text needles) = Text.occurrences needle text := by
  have hpositions : positionsOf needle ((distinctNeedles needles).foldl (addHits text) []) =
      Text.occurrences needle text := by
    rw [foldl_addHits_of_le (by rwa [List.length_nil, Nat.zero_add]), List.nil_append,
      positionsOf_flatMap (nodup_distinctNeedles needles) hneedle
        fun _ _ hhit => needle_of_mem_hitsOf hhit, positions_hitsOf]
  exact positionsOf_findOccurrences hpositions (Text.pairwise_occurrences needle text)

/-! ## The law -/

/-- The needles that are looked for are the nonempty ones, each once and in the order of their first
appearance. The hits stand in the order of their positions and, at one position, of their needles.
The hits of each needle are the first of its places from left to right: one at least if the needle
occurs at all, and every one if all needles together have no more places than the limit. There are
never more hits than the limit and one for each needle. -/
theorem findOccurrences_by_needle (text : Text) (needles : List Text) :
    let sought := distinctNeedles needles
    let hits := findOccurrences text needles
    (sought.Nodup ∧ (∀ needle, needle ∈ sought ↔ needle ∈ needles ∧ needle ≠ []) ∧
      sought.Pairwise fun needle other => needles.idxOf needle < needles.idxOf other) ∧
    (∀ needle ∈ sought, ∀ places,
      Text.IsGreedy needle text 0 places ↔ places = Text.occurrences needle text) ∧
    (∀ hit ∈ hits, hit.needle ∈ sought) ∧
    (hits.Pairwise fun hit other => hit.position < other.position ∨
      hit.position = other.position ∧ needles.idxOf hit.needle < needles.idxOf other.needle) ∧
    (∀ needle ∈ sought, positionsOf needle hits <+: Text.occurrences needle text ∧
      (needle <:+: text → positionsOf needle hits ≠ [])) ∧
    hits.length ≤ maxOccurrences + sought.length ∧
    ((sought.map fun needle => (Text.occurrences needle text).length).sum ≤ maxOccurrences →
      ∀ needle ∈ sought, positionsOf needle hits = Text.occurrences needle text) := by
  intro sought hits
  refine ⟨⟨nodup_distinctNeedles needles, fun _ => mem_distinctNeedles,
      pairwise_idxOf_distinctNeedles needles⟩,
    fun needle hneedle places => Text.isGreedy_iff (mem_distinctNeedles.mp hneedle).2,
    fun hit hhit => ?_, pairwise_position_needle text needles, fun needle hneedle => ?_, ?_,
    fun hfew needle hneedle => positionsOf_of_few hneedle hfew⟩
  · obtain ⟨hmem, hne, -⟩ := of_mem_findOccurrences hhit
    exact mem_distinctNeedles.mpr ⟨hmem, hne⟩
  · obtain ⟨room, hroom, hpositions⟩ := exists_positionsOf_eq_take text hneedle
    rw [hpositions]
    refine ⟨List.take_prefix .., fun hoccurs hnone => ?_⟩
    have hplaces : Text.occurrences needle text ≠ [] := fun h =>
      (Text.occurrences_eq_nil_iff (mem_distinctNeedles.mp hneedle).2).mp h hoccurs
    exact (List.take_eq_nil_iff.mp hnone).elim (Nat.ne_of_gt hroom) hplaces
  · have hlength := length_foldl_addHits_le text sought []
    rwa [List.length_nil, Nat.zero_max, ← (findOccurrences_perm text needles).length_eq] at hlength

/-- The second needle is found behind the limit, and the bound is reached. -/
example : (findOccurrences (List.replicate 300 'a' ++ ['b']) ["a", "b"]).length =
    maxOccurrences + 2 := by decide +kernel

end CorpusSearch.Snippet
