-- The section `catalogs`: where the catalogs are. An empty address switches a catalog off.
import CorpusSearch.Catalog.Loader
import CorpusSearch.Settings.Section

namespace CorpusSearch.Settings

open Corpus

/-- The addresses of the catalogs, and the base address of relative links. -/
structure Catalogs where
  base : Text
  textbooks : Text
  laws : Text
  rules : Text
  deriving DecidableEq, Repr

namespace Catalogs

/-- The base address when none is configured. -/
def defaultBase : Text := "https://texts.wwwbcb.org/"

/-- The address of the catalog of a kind when none is configured. -/
def defaultUrl : Kind → Text
  | .textbook => "https://texts.wwwbcb.org/texts/catalog.json"
  | .law => "https://texts.wwwbcb.org/laws.json"
  | .rule => "https://texts.wwwbcb.org/rules.json"

/-- The dotted key of the address of a kind. -/
def urlKey (kind : Kind) : Text := "catalogs." ++ kind.settingsKey

/-- The address of the catalog of a kind. -/
def url (catalogs : Catalogs) : Kind → Text
  | .textbook => catalogs.textbooks
  | .law => catalogs.laws
  | .rule => catalogs.rules

/-- The addresses of the catalogs that are not switched off. -/
def urls (catalogs : Catalogs) : List (Kind × Text) :=
  (Kind.all.map fun kind => (kind, catalogs.url kind)).filter fun entry => !entry.2.isEmpty

/-- The address of one kind in the section. -/
def readUrl (entries : Entries) (kind : Kind) : Except Fault Text :=
  (asText (urlKey kind) (optional entries kind.settingsKey (.text (defaultUrl kind)))).map
    Text.strip

/-- Reads the section. -/
def read (raw : Entries) : Except Fault Catalogs := do
  let entries ← sectionOf false "catalogs" raw
  let textbooks ← readUrl entries .textbook
  let laws ← readUrl entries .law
  let rules ← readUrl entries .rule
  let base ← asText "catalogs.base_url" (optional entries "base_url" (.text defaultBase))
  return { base := base.strip, textbooks, laws, rules }

/-- Checks the section: one catalog at least, and only web addresses. -/
def check (catalogs : Catalogs) : Except Fault Unit := do
  if catalogs.urls.isEmpty then .error .noCatalog
  match catalogs.urls.find? fun entry => !Catalog.isWebAddress entry.2 with
  | some (kind, _) => .error (.notWeb (urlKey kind))
  | none => return ()

def places (catalogs : Catalogs) : Catalog.Places :=
  { urls := catalogs.urls, base := catalogs.base }

end Catalogs

end CorpusSearch.Settings
