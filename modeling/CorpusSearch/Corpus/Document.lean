-- Documents, the records of those that a query finds, the work that a search did, and its result:
-- the records in their groups, and what was searched for.
import CorpusSearch.Corpus.Kind
import CorpusSearch.Text.Raw

namespace CorpusSearch.Corpus

/-- A document that a catalog lists. -/
structure Document where
  kind : Kind
  title : Text
  url : Text
  deriving DecidableEq, Repr, Inhabited

/-- A document that a query finds. `strict` says that the query itself holds of it, and not only
the relaxed form. Writers take records with raw texts as well; a hash, which is made here, is never
raw. -/
structure Record (τ : Type := Text) where
  kind : Kind
  title : τ
  url : τ
  hash : Text
  size : Int
  snippets : List τ := []
  strict : Bool := true
  deriving DecidableEq, Repr, Inhabited

/-- The work of a search: documents and bytes that were read, and records. -/
structure Stats where
  documents : Int := 0
  bytes : Int := 0
  hits : Int := 0
  deriving DecidableEq, Repr, Inhabited

/-- The documents within a cap; a negative cap leaves out that many at the end. -/
def withinCap (cap : Int) (documents : List Document) : List Document :=
  documents.take (Text.place documents.length cap)

/-- How a query is read: as a full-text query with operators and phrases, or as plain words. -/
inductive Mode where
  | fullText
  | simple
  deriving DecidableEq, Repr, Inhabited

def Mode.name : Mode → Text
  | .fullText => "fulltext"
  | .simple => "simple"

/-- The result of a search; writers take results with raw texts as well, but for the name of the
mode. -/
structure Result (τ : Type := Text) where
  query : τ
  needles : List τ := []
  textbooks : List (Record τ) := []
  laws : List (Record τ) := []
  rules : List (Record τ) := []
  stats : Stats := {}
  mode : Text := Mode.fullText.name
  deriving DecidableEq, Repr, Inhabited

def Record.map {τ σ : Type} (f : τ → σ) (record : Record τ) : Record σ :=
  { record with
    title := f record.title, url := f record.url, snippets := record.snippets.map f }

namespace Result

variable {τ σ : Type}

/-- The records of the group of a kind. -/
def group (result : Result τ) : Kind → List (Record τ)
  | .textbook => result.textbooks
  | .law => result.laws
  | .rule => result.rules

def map (f : τ → σ) (result : Result τ) : Result σ :=
  { result with
    query := f result.query, needles := result.needles.map f
    textbooks := result.textbooks.map (Record.map f)
    laws := result.laws.map (Record.map f)
    rules := result.rules.map (Record.map f) }

def raw (result : Result) : Result RawText := result.map Text.raw

end Result

/-- A result may stand where a raw one is wanted. -/
instance instCoeResult : Coe Result (Result RawText) := ⟨Result.raw⟩

def ofKind (kind : Kind) (records : List Record) : List Record :=
  records.filter fun record => record.kind = kind

end CorpusSearch.Corpus
