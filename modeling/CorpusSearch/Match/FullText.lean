-- The full-text search over documents: each one is fetched, brought into normal form and tested
-- against the query, and where that fails against the relaxed form. A text that cannot be encoded
-- is out of reach for it.
import CorpusSearch.Corpus.Document
import CorpusSearch.Digest.Sha256
import CorpusSearch.Log.Entry
import CorpusSearch.Match.Workers
import CorpusSearch.Query.Compiled
import CorpusSearch.Snippet.Window

namespace CorpusSearch.Match

open Corpus

/-- Where texts come from: the text at an address, or why there is none. -/
abbrev Fetcher := Text → Except Text Text

abbrev RawFetcher := Text → Except Text RawText

namespace RawFetcher

/-- Where the text at an address cannot be encoded. -/
def fault? (fetch : RawFetcher) (url : Text) : Option RawText.Fault :=
  match fetch url with
  | .error _ => none
  | .ok text => match text.encode with
    | .error fault => some fault
    | .ok _ => none

/-- The texts that can be encoded; for every other one the fault is the reason why there is none. -/
def encoded (fetch : RawFetcher) : Fetcher := fun url =>
  match fetch url with
  | .error failure => .error failure
  | .ok text => text.encode.mapError RawText.Fault.message

end RawFetcher

/-- The hash of a text, taken of its bytes in UTF-8. -/
def contentHash (text : Text) : Text := Sha256.hash text.utf8

/-- The cap on documents when none is configured. -/
def defaultMaxDocuments : Int := 9999

/-- The count of workers when none is configured. -/
def defaultMaxWorkers : Int := 4

/-- How documents are scanned. `excerpts` takes the excerpts from a text in normal form and may
fail. -/
structure Plan where
  maxDocuments : Int := defaultMaxDocuments
  maxWorkers : Int := defaultMaxWorkers
  relaxedFallback : Bool := true
  excerpts : Text → List Text → Except Text (List Text) :=
    Snippet.extract? Snippet.defaultWindow Snippet.defaultMaxSnippets

/-- What became of a document: it could not be fetched, or its bytes were read and it has a record
or none. -/
inductive Outcome where
  | unavailable
  | scanned (size : Nat) (record : Option Record)
  deriving DecidableEq, Repr

namespace Plan

/-- The record of a document with its text, if the query admits it. -/
def evaluate (plan : Plan) (query : Query.Compiled) (document : Document) (text : Text) :
    Traced (Except Text (Option Record)) := do
  let normal := text.normalize
  let strict := query.strict normal
  if !strict && !(plan.relaxedFallback && query.relaxed normal) then
    return .ok none
  else
    if !strict then Traced.log .debug ("Relaxed match: title=" ++ document.title)
    return (plan.excerpts normal query.needles).map fun snippets =>
      some { document with
        hash := contentHash text, size := (text.byteSize : Int), snippets, strict }

/-- Fetches and tests one document. -/
def process (plan : Plan) (fetch : Fetcher) (query : Query.Compiled) (document : Document) :
    Traced Outcome := do
  Traced.request document.url
  match fetch document.url with
  | .error failure =>
    Traced.log .debug
      ("Document unavailable, skipped: url=" ++ document.url ++ " error=" ++ failure)
    return .unavailable
  | .ok text =>
    match ← plan.evaluate query document text with
    | .error failure =>
      Traced.log .warning
        ("Document processing failed: url=" ++ document.url ++ " error=" ++ failure)
      return .scanned text.byteSize none
    | .ok record => return .scanned text.byteSize record

end Plan

def Outcome.record? : Outcome → Option Record
  | .unavailable => none
  | .scanned _ record => record

/-- The size of a document that was fetched. -/
def Outcome.size? : Outcome → Option Nat
  | .unavailable => none
  | .scanned size _ => some size

def total (sizes : List Nat) : Nat := sizes.foldr (· + ·) 0

/-- The records of outcomes in order, and their sums. -/
def collect (outcomes : List Outcome) : List Record × Stats :=
  let records := outcomes.filterMap Outcome.record?
  let sizes := outcomes.filterMap Outcome.size?
  (records,
    { documents := sizes.length, bytes := total sizes, hits := records.length })

/-- Processes the candidates in the order of `schedule`, which lists their numbers as the workers
finish them, and puts the outcomes into the order of the candidates. -/
def Plan.scan (plan : Plan) (fetch : Fetcher) (query : Query.Compiled)
    (candidates : List Document) (schedule : List Nat) : Traced (List Outcome) := do
  let arrivals ← schedule.filterMapM fun number => do
    match candidates[number]? with
    | none => return none
    | some document => return some (number, ← plan.process fetch query document)
  return inSlots candidates.length arrivals

/-- Matches documents against a query, `order` being the order in which the workers finish that
many documents. -/
def Plan.matchInOrder (plan : Plan) (fetch : Fetcher) (query : Query.Compiled)
    (order : Nat → List Nat) (documents : List Document) : Traced (List Record × Stats) := do
  let candidates := withinCap plan.maxDocuments documents
  if candidates.length < documents.length then
    Traced.log .warning
      ("Candidate cap reached: scanning " ++ Number.digits candidates.length ++ " of " ++
        Number.digits documents.length ++ " documents")
  return collect (← plan.scan fetch query candidates (order candidates.length))

/-- Matches documents against a query, one after another. -/
def Plan.matchDocuments (plan : Plan) (fetch : Fetcher) (query : Query.Compiled)
    (documents : List Document) : Traced (List Record × Stats) :=
  plan.matchInOrder fetch query List.range documents

end CorpusSearch.Match
