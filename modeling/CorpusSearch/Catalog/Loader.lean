-- Loading the catalogs. A catalog that cannot be fetched or read has no documents, and the others
-- are not touched by that.
import CorpusSearch.Catalog.Entry
import CorpusSearch.Log.Entry
import CorpusSearch.Match.Workers

namespace CorpusSearch.Catalog

open Corpus

/-- Where catalogs come from: the catalog at an address, or why there is none. -/
abbrev Source := Text → Except Text Value

/-- Where the catalogs are, and the base address of relative links in them. -/
structure Places where
  urls : List (Kind × Text)
  base : Text := []

/-- The address of the catalog of a kind; an empty address is none. -/
def Places.url? (places : Places) (kind : Kind) : Option Text :=
  match places.urls.lookup kind with
  | some [] => none
  | found => found

def load (source : Source) (places : Places) (kind : Kind) : Traced (List Document) := do
  match places.url? kind with
  | none =>
    Traced.log .debug ("No catalog configured for kind=" ++ kind.name)
    return []
  | some url =>
    Traced.request url
    match source url >>= fun catalog =>
      (documents kind places.base catalog).mapError Url.Fault.message with
    | .error failure =>
      Traced.log .warning
        ("Catalog unavailable: kind=" ++ kind.name ++ " url=" ++ url ++ " error=" ++ failure)
      return []
    | .ok found =>
      Traced.log .info
        ("Catalog loaded: kind=" ++ kind.name ++ " documents=" ++ Number.digits found.length)
      return found

/-- Loads all catalogs, `order` listing their numbers as the loads complete. Each catalog has a
source of its own, since of two requests for one address one may fail. The catalogs stand in the
order of the kinds. -/
def loadAllInOrder (sources : Kind → Source) (places : Places) (order : List Nat) :
    Traced (List (Kind × List Document)) := do
  let arrivals ← order.filterMapM fun number => do
    match Kind.all[number]? with
    | none => return none
    | some kind => return some (number, kind, ← load (sources kind) places kind)
  return Match.inSlots Kind.all.length arrivals

/-- Loads all catalogs from one source, one after another. -/
def loadAll (source : Source) (places : Places) : Traced (List (Kind × List Document)) :=
  loadAllInOrder (fun _ => source) places (List.range Kind.all.length)

end CorpusSearch.Catalog
