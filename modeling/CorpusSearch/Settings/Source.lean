-- Settings as a whole, read from a mapping, from a text or from files.
import CorpusSearch.Files.Disk
import CorpusSearch.Settings.Catalogs
import CorpusSearch.Settings.Layers
import CorpusSearch.Settings.Logging
import CorpusSearch.Settings.Output
import CorpusSearch.Settings.Search
import CorpusSearch.Settings.Storage
import CorpusSearch.Yaml.Reader

namespace CorpusSearch

structure Settings where
  logging : Settings.Logging
  catalogs : Settings.Catalogs
  search : Settings.Search
  output : Settings.Output
  storage : Settings.Storage
  deriving DecidableEq, Repr

namespace Settings

/-- Reads every section, and then checks every section. -/
def ofEntries (raw : Entries) : Except Fault Settings := do
  let logging ← Logging.read raw
  let catalogs ← Catalogs.read raw
  let search ← Search.read raw
  let output ← Output.read raw
  let storage ← Storage.read raw
  logging.check
  catalogs.check
  search.check
  output.check
  storage.check
  return { logging, catalogs, search, output, storage }

/-! ## Texts and files -/

/-- The mapping that a text holds. A text that holds an empty value holds the empty mapping. -/
def entriesOf (text : Text) : Except Fault Entries :=
  match Yaml.read text with
  | .error fault => .error (.unreadable fault)
  | .ok (.mapping entries) => .ok entries
  | .ok value => if value.isTrue then .error .noMapping else .ok []

/-- The file of the settings that come with the program. -/
def defaultPath : Files.Path := { names := ["config", "default.yml"] }

/-- Why settings cannot be loaded: a file cannot be read, or its content is refused. -/
inductive LoadFault where
  | file (fault : Files.Fault)
  | content (fault : Fault)
  deriving DecidableEq, Repr

/-- What is said when settings cannot be loaded. -/
def LoadFault.message : LoadFault → Text
  | .file fault => fault.message
  | .content fault => fault.message

/-- Line feeds in place of the other ends of line that a text file may have. -/
def lineFeeds : Text → Text
  | [] => []
  | '\r' :: '\n' :: rest => '\n' :: lineFeeds rest
  | c :: rest => (if c = '\r' then '\n' else c) :: lineFeeds rest

def readFile (disk : Files.Disk) (path : Files.Path) : Except LoadFault Entries := do
  let text ← (disk.readText path).mapError .file
  (entriesOf (lineFeeds text)).mapError .content

/-- The settings of a file laid over another one, with the environment over both. When the two are
the same file it is read once. -/
def load (disk : Files.Disk) (path base : Files.Path) (environment : Environment) :
    Except LoadFault Settings := do
  let raw ← readFile disk base
  let raw ← if path = base then pure raw else (readFile disk path).map (merge raw)
  (ofEntries (withEnvironment environment raw)).mapError .content

end Settings

end CorpusSearch
