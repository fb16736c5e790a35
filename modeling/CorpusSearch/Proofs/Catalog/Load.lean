-- What loading gives. A catalog gives the documents of its entries, each entry by itself, unless
-- one of its links cannot be resolved; then it gives none, and so does a catalog that cannot be
-- fetched. The catalogs stand in the order of the kinds, whichever load completes first.
import CorpusSearch.Catalog.Loader
import CorpusSearch.Proofs.Log.Traced
import CorpusSearch.Proofs.Match.Workers

namespace CorpusSearch.Catalog

open Corpus

/-! ## Entries -/

/-- Whether the link of an entry cannot be resolved. -/
def isRefused (base : Text) : Value → Bool
  | .mapping fields => match link? fields with
    | none => false
    | some link => (resolve base link).toOption.isNone
  | _ => false

/-- The document that an entry gives by itself, if it gives one. -/
def ownDocument? (kind : Kind) (base : Text) (entry : Value) : Option Document :=
  (document? kind base entry).toOption.join

theorem isNone_toOption_document? (kind : Kind) (base : Text) (entry : Value) :
    (document? kind base entry).toOption.isNone = isRefused base entry := by
  cases entry with
  | mapping fields =>
    unfold isRefused document?
    dsimp only
    cases link? fields with
    | none => rfl
    | some link =>
      dsimp only
      cases resolve base link <;> rfl
  | _ => rfl

/-- Tasks that may fail, done one after another: one failure fails them all. -/
theorem toOption_mapM {α β ε : Type} (f : α → Except ε β) (tasks : List α) :
    (tasks.mapM f).toOption =
      if tasks.any fun task => (f task).toOption.isNone then none
      else some (tasks.filterMap fun task => (f task).toOption) := by
  induction tasks with
  | nil => rfl
  | cons task rest ih =>
    rw [List.mapM_cons, List.any_cons, List.filterMap_cons]
    cases f task with
    | error fault => rfl
    | ok result =>
      have hstep : ((Except.ok result >>= fun r => rest.mapM f >>= fun rs => pure (r :: rs)) :
          Except ε (List β)).toOption = (rest.mapM f).toOption.map (result :: ·) := by
        cases rest.mapM f <;> rfl
      rw [hstep, ih]
      cases rest.any fun other => (f other).toOption.isNone <;> rfl

/-- A catalog gives the documents of its entries, unless one of its links cannot be resolved. -/
theorem toOption_documents (kind : Kind) (base : Text) (catalog : Value) :
    (documents kind base catalog).toOption =
      if (entries catalog).any (isRefused base) then none
      else some ((entries catalog).filterMap (ownDocument? kind base)) := by
  have hmap : (documents kind base catalog).toOption =
      ((entries catalog).mapM (document? kind base)).toOption.map fun found =>
        found.filterMap id := by
    unfold documents
    cases (entries catalog).mapM (document? kind base) <;> rfl
  simp only [hmap, toOption_mapM, isNone_toOption_document?]
  split
  · rfl
  · rw [Option.map_some, List.filterMap_filterMap]
    rfl

/-! ## Loads -/

/-- The documents that a load gives for what its source answers: none for a failure, and none for a
catalog with a link that cannot be resolved. -/
def answered (kind : Kind) (base : Text) : Except Text Value → List Document
  | .error _ => []
  | .ok catalog =>
    if (entries catalog).any (isRefused base) then []
    else (entries catalog).filterMap (ownDocument? kind base)

/-- Reading an answer gives the documents of its catalog, or nothing. -/
theorem answered_eq (kind : Kind) (base : Text) (answer : Except Text Value) :
    answered kind base answer =
      (answer.toOption.bind fun catalog => (documents kind base catalog).toOption).getD [] := by
  cases answer with
  | error failure => rfl
  | ok catalog =>
    show answered kind base (.ok catalog) = (documents kind base catalog).toOption.getD []
    rw [toOption_documents]
    unfold answered
    dsimp only
    split <;> rfl

/-- A load gives what can be read of the answer at the address of the catalog. -/
theorem value_load {places : Places} {kind : Kind} {url : Text} (h : places.url? kind = some url)
    (source : Source) :
    (load source places kind).value = answered kind places.base (source url) := by
  rw [answered_eq]
  unfold load
  rw [h]
  dsimp only
  rw [Traced.value_bind]
  cases source url with
  | error failure => rfl
  | ok catalog =>
    dsimp only [bind, Except.bind, Except.toOption, Option.bind]
    cases documents kind places.base catalog <;> rfl

end CorpusSearch.Catalog
