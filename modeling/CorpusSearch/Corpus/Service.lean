-- The search over all catalogs: they are loaded, their documents matched, and the records put into
-- the groups of their kinds.
import CorpusSearch.Catalog.Loader
import CorpusSearch.Corpus.Document
import CorpusSearch.Match.Simple
import CorpusSearch.Report.Summary
import CorpusSearch.Settings.Source

namespace CorpusSearch.Corpus

/-- A search service: where the catalogs are, how documents are scanned, and the synonyms. -/
structure Service where
  places : Catalog.Places
  plan : Match.Plan := {}
  synonyms : Query.Synonyms := .default

namespace Service

def ofSettings (settings : Settings) : Service :=
  { places := settings.catalogs.places
    plan := settings.search.plan
    synonyms := settings.search.synonyms }

/-! ## Searching -/

/-- The documents of all catalogs in the order of the kinds, `order` listing the numbers of the
catalogs as their loads complete. -/
def candidatesInOrder (service : Service) (sources : Kind → Catalog.Source) (order : List Nat) :
    Traced (List Document) := do
  return (← Catalog.loadAllInOrder sources service.places order).flatMap (·.2)

def candidates (service : Service) (source : Catalog.Source) : Traced (List Document) :=
  service.candidatesInOrder (fun _ => source) (List.range Kind.all.length)

/-- Matches candidates in a mode. Gives the records, the work done and the needles to mark;
`order` lists the numbers of that many documents as the workers finish them. -/
def matchIn (service : Service) (fetch : Match.Fetcher) (query : Text) (mode : Mode)
    (order : Nat → List Nat) (documents : List Document) :
    Traced ((List Record × Stats) × List Text) :=
  match mode with
  | .fullText => do
    let compiled := Query.Compiled.build service.synonyms query
    Traced.log .debug ("Query tree: " ++ compiled.tree.shown)
    return (← service.plan.matchInOrder fetch compiled order documents, compiled.needles)
  | .simple => do
    return (← Match.simpleMatch service.plan.maxDocuments fetch query documents,
      Match.splitTerms query)

/-- Searches all catalogs, the loads and the workers finishing in the given orders. -/
def searchInOrder (service : Service) (sources : Kind → Catalog.Source) (fetch : Match.Fetcher)
    (loads : List Nat) (order : Nat → List Nat) (query : Text) (mode : Mode) : Traced Result := do
  let documents ← service.candidatesInOrder sources loads
  Traced.log .info
    ("Scanning " ++ Number.digits documents.length ++ " candidate documents (mode=" ++
      mode.name ++ ")")
  let ((records, stats), needles) ← service.matchIn fetch query mode order documents
  Traced.log .info (Report.summary stats)
  return {
    query, needles, stats
    textbooks := ofKind .textbook records
    laws := ofKind .law records
    rules := ofKind .rule records
    mode := mode.name }

def search (service : Service) (source : Catalog.Source) (fetch : Match.Fetcher) (query : Text)
    (mode : Mode) : Traced Result :=
  service.searchInOrder (fun _ => source) fetch (List.range Kind.all.length) List.range query mode

/-! ## Closing -/

/-- Something that a service has to do with, and what comes of closing it; some things cannot be
closed. -/
structure Resource where
  name : Text
  close? : Option (Except Text Unit)
  deriving Repr

def catalogResource (close : Except Text Unit) : Resource := ⟨"CatalogAggregator", some close⟩

def textResource (close : Except Text Unit) : Resource := ⟨"TextApiClient", some close⟩

/-- Closes resources in turn. A failure is logged and keeps no other one from being closed. -/
def closeAll : List Resource → Traced Unit
  | [] => return ()
  | resource :: resources => do
    match resource.close? with
    | some (.error failure) =>
      Traced.log .warning
        ("Search resource close failed: resource=" ++ resource.name ++ " error=" ++ failure)
    | _ => return ()
    closeAll resources

end Service

end CorpusSearch.Corpus
