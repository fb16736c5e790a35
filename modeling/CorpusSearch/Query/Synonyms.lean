-- Synonyms: a table from terms to phrases, and tokens with the phrases of their terms behind them.
import CorpusSearch.Query.Token
import CorpusSearch.Text.Blank

namespace CorpusSearch.Query

/-- Terms with their phrases, in order; no term stands twice. -/
abbrev Synonyms := List (Text × List Text)

/-- The text without one quotation mark at each end. -/
def unquote (text : Text) : Text :=
  let text := match text with
    | '"' :: rest => rest
    | text => text
  if text.getLast? = some '"' then text.dropLast else text

namespace Synonyms

/-- Gives a term its phrases; a term that is there already keeps its place. -/
def put (term : Text) (phrases : List Text) : Synonyms → Synonyms
  | [] => [(term, phrases)]
  | (t, p) :: rest => if t = term then (t, phrases) :: rest else (t, p) :: put term phrases rest

def phrases (term : Text) (table : Synonyms) : List Text :=
  ((table.find? fun entry => entry.1 = term).map (·.2)).getD []

/-- The table of entries read one after another. -/
def ofList (entries : List (Text × List Text)) : Synonyms :=
  entries.foldl (fun table entry => put entry.1 entry.2 table) []

/-- The table of entries as they are configured: terms stripped and in normal form, phrases
without their quotation marks and in normal form. -/
def build (entries : List (Text × List Text)) : Synonyms :=
  ofList (entries.map fun (term, phrases) =>
    (term.strip.normalize, phrases.map fun phrase => (unquote phrase).normalize))

/-- The synonyms that hold when none are configured, as they are written. -/
def default : Synonyms :=
  [("beddoe",
      ["\"Beddoe order\"", "\"Re Beddoe\"", "\"trustee authorisation to litigate\"",
        "\"consent to litigation\"", "\"authorisation to commence proceedings\"",
        "\"trustee indemnity\"", "\"indemnity for litigation\""]),
    ("trustee", ["trustees"]),
    ("trusts", ["trust"])]

end Synonyms

/-- A token with the phrases of the table behind it, if it is a term. -/
def withSynonyms (table : Synonyms) (token : Token) : List Token :=
  if token.kind = .term then
    token :: (table.phrases token.word).map fun phrase => .phrase (unquote phrase)
  else [token]

/-- The tokens with the synonyms of their terms; of equal tokens only the first one stays. -/
def expand (table : Synonyms) (tokens : List Token) : List Token :=
  (tokens.flatMap (withSynonyms table)).eraseDups

end CorpusSearch.Query
