-- Whether the entries of a catalog are loaded each by itself. An entry without a link is left out
-- and changes nothing. A link that cannot be resolved does more than that: the whole catalog is
-- lost.
import CorpusSearch.Proofs.Catalog.Load

namespace CorpusSearch.Catalog

open Corpus

/-- Whether an entry is a mapping that has a link. -/
def isLinked : Value → Bool
  | .mapping fields => (link? fields).isSome
  | _ => false

variable {kind : Kind} {base : Text} {entry : Value}

theorem document?_of_not_linked (h : isLinked entry = false) :
    document? kind base entry = .ok none := by
  unfold document?
  cases entry with
  | mapping fields =>
    unfold isLinked at h
    dsimp only at h ⊢
    rw [Option.isSome_eq_false_iff, Option.isNone_iff_eq_none] at h
    rw [h]
  | _ => rfl

theorem isRefused_of_not_linked (h : isLinked entry = false) : isRefused base entry = false := by
  rw [← isNone_toOption_document? .law, document?_of_not_linked h]
  rfl

theorem ownDocument?_of_not_linked (h : isLinked entry = false) :
    ownDocument? kind base entry = none := by
  unfold ownDocument?
  rw [document?_of_not_linked h]
  rfl

theorem ownDocument?_of_refused (h : isRefused base entry = true) :
    ownDocument? kind base entry = none := by
  rw [← isNone_toOption_document? kind, Option.isNone_iff_eq_none] at h
  unfold ownDocument?
  rw [h]
  rfl

theorem answered_single (kind : Kind) (base : Text) (entry : Value) :
    answered kind base (.ok (.list [entry])) = (ownDocument? kind base entry).toList := by
  show (if [entry].any (isRefused base) then [] else [entry].filterMap (ownDocument? kind base)) = _
  rw [List.any_cons, List.any_nil, Bool.or_false, List.filterMap_cons, List.filterMap_nil]
  cases hrefused : isRefused base entry with
  | true =>
    rw [ownDocument?_of_refused hrefused]
    rfl
  | false => cases ownDocument? kind base entry <;> rfl

theorem answered_filter_isLinked (kind : Kind) (base : Text) (catalog : Value) :
    answered kind base (.ok (.list ((entries catalog).filter isLinked))) =
      answered kind base (.ok catalog) := by
  have hrefused : ((entries catalog).filter isLinked).any (isRefused base) =
      (entries catalog).any (isRefused base) := by
    rw [List.any_filter]
    refine congrArg (List.any _) (funext fun entry => ?_)
    cases hlinked : isLinked entry with
    | true => rw [Bool.true_and]
    | false => rw [isRefused_of_not_linked hlinked, Bool.and_false]
  have hdocuments : ((entries catalog).filter isLinked).filterMap (ownDocument? kind base) =
      (entries catalog).filterMap (ownDocument? kind base) := by
    rw [List.filterMap_filter]
    refine List.filterMap_congr fun entry _ => ?_
    cases hlinked : isLinked entry with
    | true => rfl
    | false => rw [ownDocument?_of_not_linked hlinked, ite_self]
  show (if ((entries catalog).filter isLinked).any (isRefused base) then []
    else ((entries catalog).filter isLinked).filterMap (ownDocument? kind base)) = _
  rw [hrefused, hdocuments]
  rfl

/-- A catalog whose links can all be resolved gives, in its order, what its entries give each by
itself; with one link that cannot be resolved it gives nothing. So it gives what its entries give
exactly when all links can be resolved or no entry gives anything. Entries that are no mapping or
have no link, and by itself also an entry whose link cannot be resolved, give nothing; the former
change nothing for the others. -/
theorem load_entry_by_entry {source : Source} {places : Places} {kind : Kind} {url : Text}
    {catalog : Value} (hplace : places.url? kind = some url) (hanswer : source url = .ok catalog) :
    let whole := (load source places kind).value
    let loaded := fun entries => (load (fun _ => .ok (.list entries)) places kind).value
    let alone := fun entry => loaded [entry]
    let refused := isRefused places.base
    whole = (if (entries catalog).any refused then [] else (entries catalog).flatMap alone) ∧
      (whole = (entries catalog).flatMap alone ↔
        (∀ entry ∈ entries catalog, refused entry = false) ∨
          ∀ entry ∈ entries catalog, alone entry = []) ∧
      (∀ entry, isLinked entry = false ∨ refused entry = true → alone entry = []) ∧
      loaded ((entries catalog).filter isLinked) = whole := by
  intro whole loaded alone refused
  have hloaded : ∀ entries, loaded entries = answered kind places.base (.ok (.list entries)) :=
    fun entries => value_load hplace _
  have halone : ∀ entry, alone entry = (ownDocument? kind places.base entry).toList := by
    intro entry
    simp only [alone, hloaded, answered_single]
  have hown : (entries catalog).flatMap alone =
      (entries catalog).filterMap (ownDocument? kind places.base) := by
    rw [List.filterMap_eq_flatMap_toList]
    exact List.flatMap_congr fun entry _ => halone entry
  have hwhole : whole = answered kind places.base (.ok catalog) := by
    rw [← hanswer]
    exact value_load hplace source
  have hcases : whole =
      if (entries catalog).any refused then [] else (entries catalog).flatMap alone := by
    rw [hwhole, hown]
    rfl
  refine ⟨hcases, ?_, ?_, ?_⟩
  · rw [hcases]
    split
    · rename_i hany
      obtain ⟨entry, hmem, hentry⟩ := List.any_eq_true.mp hany
      constructor
      · intro hnothing
        exact Or.inr (List.flatMap_eq_nil_iff.mp hnothing.symm)
      · rintro (hnone | hnothing)
        · rw [hnone entry hmem] at hentry
          cases hentry
        · exact (List.flatMap_eq_nil_iff.mpr hnothing).symm
    · rename_i hany
      rw [Bool.not_eq_true, List.any_eq_false] at hany
      simp only [true_iff]
      exact Or.inl fun entry hmem => by simpa using hany entry hmem
  · rintro entry (hlinked | hrefused)
    · rw [halone, ownDocument?_of_not_linked hlinked]
      rfl
    · rw [halone, ownDocument?_of_refused hrefused]
      rfl
  · rw [hloaded, hwhole]
    exact answered_filter_isLinked kind places.base catalog

/-- A catalog of laws under a base address, with an entry that is no mapping and one without a
link. -/
theorem load_entry_by_entry_laws :
    let places : Places :=
      { urls := [(.law, "https://example.test/laws.json")], base := "https://example.test" }
    let catalog : Value := .mapping [(.text "items", .list [.text "draft",
      .mapping [(.text "url", .text "./a.txt"), (.text "title", .text "Act")],
      .mapping [(.text "title", .text "Repealed")],
      .mapping [(.text "txt", .text "b.txt"), (.text "id", .int 7)]])]
    let source : Source := fun url =>
      if url = "https://example.test/laws.json".toList then .ok catalog else .error "gone"
    let alone := fun entry => (load (fun _ => .ok (.list [entry])) places .law).value
    (load source places .law).value = (entries catalog).flatMap alone ∧
      (load source places .law).value =
        [⟨.law, "Act", "https://example.test/a.txt"⟩,
          ⟨.law, "7", "https://example.test/b.txt"⟩] := by
  intro places catalog source alone
  have hplace : places.url? .law = some "https://example.test/laws.json" := rfl
  have hanswer : source "https://example.test/laws.json" = .ok catalog := rfl
  obtain ⟨-, hiff, -⟩ := load_entry_by_entry hplace hanswer
  exact ⟨hiff.mpr (Or.inl (by decide)), by decide⟩

/-- A link with an unclosed bracket takes the law beside it away. -/
theorem load_loses_entries :
    let places : Places :=
      { urls := [(.law, "https://example.test/laws.json")], base := "https://example.test" }
    let catalog : Value := .list [.mapping [(.text "url", .text "//[x")],
      .mapping [(.text "title", .text "ok"), (.text "url", .text "ok.txt")]]
    let loaded := fun catalog => (load (fun _ => .ok catalog) places .law).value
    loaded catalog = [] ∧
      (entries catalog).flatMap (fun entry => loaded (.list [entry])) =
        [⟨.law, "ok", "https://example.test/ok.txt"⟩] := by
  decide

end CorpusSearch.Catalog
