-- The groups of a search. They hold the records of the matcher in the order of the candidates, each
-- record under its kind. Where the cap leaves out no candidate, a group is what matching its own
-- catalog gives; so a catalog that cannot be had empties its own group and touches no other.
import CorpusSearch.Corpus.Service
import CorpusSearch.Proofs.Catalog.Load
import CorpusSearch.Proofs.Match.Outcomes

namespace CorpusSearch.Corpus

open Match

/-! ## Kinds -/

namespace Service

/-! ## One document in either mode -/

/-- What becomes of a document in a mode. A simple search without terms asks for no document. -/
def outcome (service : Service) (fetch : Fetcher) (query : Text) (mode : Mode)
    (document : Document) : Outcome :=
  match mode with
  | .fullText =>
    (service.plan.process fetch (Query.Compiled.build service.synonyms query) document).value
  | .simple =>
    if splitTerms query = [] then .unavailable
    else (simpleProcess fetch (splitTerms query) document).value

variable {service : Service} {fetch : Fetcher} {query : Text} {mode : Mode}

/-- The documents that the catalog of a kind lists. -/
def listed (service : Service) (sources : Kind → Catalog.Source) (kind : Kind) : List Document :=
  (Catalog.load (sources kind) service.places kind).value

end Service

end CorpusSearch.Corpus
