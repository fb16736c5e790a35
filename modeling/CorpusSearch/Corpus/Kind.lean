-- The kinds of documents, with the settings key of each catalog and the group of its results.
import CorpusSearch.Text.Quoted

namespace CorpusSearch.Corpus

/-- The kind of a document; it names the catalog that lists it and the group it is shown in. -/
inductive Kind where
  | textbook
  | law
  | rule
  deriving DecidableEq, Repr, Inhabited

namespace Kind

/-- All kinds in the order in which catalogs are scanned and groups are shown. -/
def all : List Kind := [.textbook, .law, .rule]

def name : Kind → Text
  | .textbook => "Textbook"
  | .law => "Law"
  | .rule => "Rule"

/-- The key of the catalog's address in the settings. -/
def settingsKey : Kind → Text
  | .textbook => "textbooks"
  | .law => "laws"
  | .rule => "rules"

/-- The name of the group of results. -/
def group : Kind → Text
  | .textbook => "textbooks"
  | .law => "laws"
  | .rule => "rules"

/-- The heading of the group of results. -/
def heading : Kind → Text
  | .textbook => "Textbooks"
  | .law => "Laws"
  | .rule => "Rules"

def ofName? (name : Text) : Option Kind := all.find? fun kind => kind.name = name

def invalidName (name : Text) : Text := Text.quoted name ++ " is not a valid DocumentKind"

/-- What is said of a value in the place of a kind for which no group is registered. -/
def unregistered (shown : Text) : Text := "Unsupported document kind: " ++ shown

end Kind

end CorpusSearch.Corpus
