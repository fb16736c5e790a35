-- The sections `search`, `snippets` and `synonyms`: how documents are fetched and matched.
import CorpusSearch.Match.FullText
import CorpusSearch.Net.Client
import CorpusSearch.Query.Synonyms
import CorpusSearch.Settings.Section

namespace CorpusSearch.Settings

structure Search where
  maxDocuments : Int
  maxWorkers : Int
  fetchTimeout : Double
  fetchAttempts : Int
  relaxedFallback : Bool
  snippetWindow : Int
  maxSnippets : Int
  synonyms : Query.Synonyms
  deriving DecidableEq, Repr

namespace Search

/-- The synonyms of the section, or those that are built in when it is absent or null. -/
def readSynonyms (raw : Entries) : Except Fault Query.Synonyms :=
  match raw.field? "synonyms" with
  | none | some .null => .ok (.build Query.Synonyms.default)
  | some value => (asTextListMapping "synonyms" value).map Query.Synonyms.build

/-- Reads the sections. -/
def read (raw : Entries) : Except Fault Search := do
  let entries ← sectionOf false "search" raw
  let snippets ← sectionOf false "snippets" raw
  let synonyms ← readSynonyms raw
  let maxDocuments ← asWhole "search.max_documents"
    (optional entries "max_documents" (.int Match.defaultMaxDocuments))
  let maxWorkers ← asWhole "search.max_workers"
    (optional entries "max_workers" (.int Match.defaultMaxWorkers))
  let fetchTimeout ← asNumber "search.fetch_timeout"
    (optional entries "fetch_timeout" (.float Net.defaultTimeout))
  let fetchAttempts ← asWhole "search.fetch_attempts"
    (optional entries "fetch_attempts" (.int Net.defaultAttempts))
  let relaxedFallback ← asTruth "search.relaxed_fallback"
    (optional entries "relaxed_fallback" (.bool true))
  let snippetWindow ← asWhole "snippets.window"
    (optional snippets "window" (.int Snippet.defaultWindow))
  let maxSnippets ← asWhole "snippets.max_snippets"
    (optional snippets "max_snippets" (.int Snippet.defaultMaxSnippets))
  return {
    maxDocuments, maxWorkers, fetchTimeout, fetchAttempts, relaxedFallback, snippetWindow,
    maxSnippets, synonyms }

/-- Checks that terms and their lists of synonyms are not empty. -/
def checkSynonyms : List (Text × List Text) → Except Fault Unit
  | [] => .ok ()
  | (term, phrases) :: entries =>
    if term.isEmpty then .error .emptyTerm
    else if phrases.isEmpty then .error (.noSynonyms term)
    else checkSynonyms entries

def check (search : Search) : Except Fault Unit := do
  checkPositive "search.max_documents" search.maxDocuments
  checkPositive "search.max_workers" search.maxWorkers
  checkPositiveNumber "search.fetch_timeout" search.fetchTimeout
  checkPositive "search.fetch_attempts" search.fetchAttempts
  checkPositive "snippets.window" search.snippetWindow
  if search.maxSnippets < 0 then .error (.negative "snippets.max_snippets")
  checkSynonyms search.synonyms

/-- How the documents of a full-text search are scanned. -/
def plan (search : Search) : Match.Plan :=
  { maxDocuments := search.maxDocuments
    maxWorkers := search.maxWorkers
    relaxedFallback := search.relaxedFallback
    excerpts := Snippet.extract? search.snippetWindow search.maxSnippets }

end Search

end CorpusSearch.Settings
