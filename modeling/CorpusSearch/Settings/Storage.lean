-- The section `storage`: the path of the database with the preferences.
import CorpusSearch.Files.Path
import CorpusSearch.Settings.Section

namespace CorpusSearch.Settings

structure Storage where
  database : Text
  deriving DecidableEq, Repr

namespace Storage

/-- The path of the database when none is configured. -/
def defaultDatabase : Text := "database/settings.db"

/-- Reads the section. -/
def read (raw : Entries) : Except Fault Storage := do
  let entries ← sectionOf false "storage" raw
  let database ← asText "storage.db_path" (optional entries "db_path" (.text defaultDatabase))
  return { database := database.strip }

/-- Checks the section: the path must not end in a slash or backslash. -/
def check (storage : Storage) : Except Fault Unit := do
  checkNotBlank "storage.db_path" storage.database
  if storage.database.getLast? = some '/' || storage.database.getLast? = some '\\' then
    .error .namesFolder

/-- The path of the database, none when it starts at the home folder of an unknown user. -/
def path? (homes : List (Text × Text)) (storage : Storage) : Option Files.Path :=
  (Files.Path.ofText storage.database).expandHome? homes

/-- What is said of an unknown user. -/
def noHome : Text := "Could not determine home directory."

end Storage

end CorpusSearch.Settings
