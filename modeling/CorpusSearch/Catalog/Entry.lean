-- The entries of a catalog: a list, or a mapping with the list under `items`. An entry names its
-- text by a link and itself by a title.
import CorpusSearch.Corpus.Document
import CorpusSearch.Text.Blank
import CorpusSearch.Url.Join
import CorpusSearch.Value

namespace CorpusSearch.Catalog

open Corpus

/-- The entries of a catalog, none for any other value. -/
def entries : Value → List Value
  | .list items => items
  | .mapping fields => match Entries.field? "items" fields with
    | some (.list items) => items
    | _ => []
  | _ => []

/-- Whether an address starts with the scheme of the web, in letters of either case. -/
def isWebAddress (url : Text) : Bool :=
  let small := url.lower
  "http://".toList.isPrefixOf small || "https://".toList.isPrefixOf small

/-- A link resolved against a base address, with a slash added at its end. A web address stays as it
is, and so does every link when there is no base. -/
def resolve (base link : Text) : Except Url.Fault Text :=
  if isWebAddress link || base.isEmpty then .ok link
  else Url.join (if base.getLast? = some '/' then base else base ++ ['/']) link

/-- The fields that may hold the link, in order of preference. -/
def linkFields : List Text := ["url_txt", "url", "txt"]

/-- The fields that may hold the title, in order of preference. -/
def titleFields : List Text := ["title", "name", "reference", "slug", "id"]

/-- A text without the blanks at its ends, none when nothing is left. -/
def stripped? (text : Text) : Option Text :=
  let text := text.strip
  if text.isEmpty then none else some text

/-- The link of an entry: the first link field with a text that is not blank. -/
def link? (fields : Entries) : Option Text :=
  linkFields.findSome? fun name => match fields.field? name with
    | some (.text t) => stripped? t
    | _ => none

/-- The title of an entry: the first title field whose value is not blank. -/
def title (fields : Entries) : Text :=
  (titleFields.findSome? fun name => match fields.field? name with
    | none | some .null => none
    | some value => stripped? value.plainText).getD "Untitled"

/-- The document of an entry, none when the entry is no mapping or has no link. -/
def document? (kind : Kind) (base : Text) : Value → Except Url.Fault (Option Document)
  | .mapping fields => match link? fields with
    | none => .ok none
    | some link => (resolve base link).map fun url => some { kind, title := title fields, url }
  | _ => .ok none

/-- The documents of a catalog in order. One link that cannot be resolved refuses all of it. -/
def documents (kind : Kind) (base : Text) (catalog : Value) : Except Url.Fault (List Document) :=
  ((entries catalog).mapM (document? kind base)).map fun found => found.filterMap id

end CorpusSearch.Catalog
