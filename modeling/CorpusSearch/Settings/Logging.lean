-- The section `log`: the level of the console, and whether commands leave log files.
import CorpusSearch.Settings.Section
import CorpusSearch.Text.Case

namespace CorpusSearch.Settings

structure Logging where
  level : Text
  toFile : Bool
  folder : Text
  deriving DecidableEq, Repr

namespace Logging

/-- The levels that settings may name. -/
def levels : List Text := ["DEBUG", "INFO", "WARNING", "ERROR", "CRITICAL"]

/-- Other names of levels. -/
def aliases : List (Text × Text) := [("WARN", "WARNING"), ("FATAL", "CRITICAL")]

/-- The name of a level in capitals, with an alias resolved. -/
def levelName (level : Text) : Text :=
  let name := level.strip.upper
  (aliases.lookup name).getD name

/-- Reads the section; only the level has to be there. -/
def read (raw : Entries) : Except Fault Logging := do
  let entries ← sectionOf true "log" raw
  let level ← asText "log.level" (← required entries "level" "log.level")
  let toFile ← asTruth "log.to_file" (optional entries "to_file" (.bool false))
  let folder ← asText "log.dir" (optional entries "dir" (.text "log"))
  return { level := levelName level, toFile, folder }

def check (logging : Logging) : Except Fault Unit := do
  if !levels.contains logging.level then .error (.unknownLevel levels)
  checkNotBlank "log.dir" logging.folder

end Logging

end CorpusSearch.Settings
