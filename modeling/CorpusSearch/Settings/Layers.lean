-- Layers of settings: a later layer wins key by key, and variables of the environment win over all
-- files.
import CorpusSearch.Text.Blank
import CorpusSearch.Value

namespace CorpusSearch.Settings

/-! ## Merging -/

mutual

/-- A value laid over the present one: mappings are merged, and anything else is replaced. -/
def layOver (current : Option Value) : Value → Value
  | .mapping entries => match current with
    | some (.mapping base) => .mapping (mergeInto base entries)
    | _ => .mapping entries
  | value => value

/-- Entries laid one after another over a mapping. -/
def mergeInto (base : Entries) : List (Key × Value) → Entries
  | [] => base
  | (key, value) :: entries =>
    mergeInto (Entries.put key (layOver (Entries.get? key base) value) base) entries

end

/-- A mapping with another one laid over it. -/
def merge (base override : Entries) : Entries := mergeInto base override

/-! ## The environment -/

/-- Variables with their values. -/
abbrev Environment := List (Text × Text)

/-- The variables that override settings, with the section and the key they stand for. -/
def overrides : List (Text × Text × Text) :=
  [("LAWSEARCH_LOG_LEVEL", "log", "level"),
    ("LAWSEARCH_DB_PATH", "storage", "db_path"),
    ("LAWSEARCH_CATALOG_BASE_URL", "catalogs", "base_url"),
    ("LAWSEARCH_OUTPUT_FORMATS", "output", "formats")]

/-- The value that a variable gives to a key: a text, or for formats the list between commas. -/
def variableValue (key text : Text) : Value :=
  if key = "formats".toList then
    .list ((((Text.splitAt (· == ',') text).map Text.strip).filter
      fun part => !part.isEmpty).map .text)
  else .text text

/-- The layer of one variable, none when the variable is absent or blank. -/
def variableLayer? (environment : Environment) (origin : Text × Text × Text) : Option Entries :=
  let (name, owner, key) := origin
  let text := Text.strip ((environment.lookup name).getD [])
  if text.isEmpty then none
  else some [(.text owner, .mapping [(.text key, variableValue key text)])]

def environmentLayer (environment : Environment) : Entries :=
  (overrides.filterMap (variableLayer? environment)).foldl merge []

/-- A mapping with the environment laid over it. -/
def withEnvironment (environment : Environment) (raw : Entries) : Entries :=
  merge raw (environmentLayer environment)

end CorpusSearch.Settings
