-- The program: it reads the files that a command needs, runs the command, and writes what changed.
-- It has no connection to the web, so every address is out of reach.
import CorpusSearch.Command.Run
import CorpusSearch.Json.Reader
import Std.Time.Zoned

namespace CorpusSearch.Main

open Files

/-! ## Databases as files -/

/-- The text of a file with the rows of a database. -/
def ofRows (rows : List (Text × Text)) : Text :=
  Json.compact (.mapping (rows.map fun (key, value) => (.text key, .text value)))

/-- The rows in the text of such a file. -/
def rows? (text : Text) : Option (List (Text × Text)) :=
  match Json.read? text with
  | some (.mapping entries) => entries.mapM fun
    | (.text key, .text value) => some (key, value)
    | _ => none
  | _ => none

/-! ## Files -/

/-- The content of a file, none when it cannot be read. -/
def contentOf (path : Path) : IO (Option Text) :=
  tryCatch (some <$> String.toList <$> IO.FS.readFile (String.ofList path.text)) fun _ =>
    return none

/-- Takes a file onto the disk, with the folders above it. -/
def fetchFile (disk : Disk) (path : Path) (node : Text → Node) : IO Disk := do
  match ← contentOf path with
  | none => return disk
  | some content =>
    match disk.makeFolders path.parent with
    | (disk, .error _) => return disk
    | (disk, .ok ()) => match disk.place path with
      | .error _ => return disk
      | .ok place => return disk.put place (node content)

/-- The node of a file that may be a database. -/
def databaseNode (content : Text) : Node :=
  match rows? content with
  | some rows => .database rows
  | none => .file content

/-- Writes what stands at a place. -/
def storeNode (place : Place) (node : Node) : IO Unit := do
  let path := String.ofList ('/' :: Text.join ['/'] place)
  match node with
  | .folder => IO.FS.createDirAll path
  | .file content => IO.FS.writeFile path (String.ofList content)
  | .database rows => IO.FS.writeFile path (String.ofList (ofRows rows))

/-! ## The program -/

def now : IO Log.Clock := do
  let time ← Std.Time.PlainDateTime.now
  return {
    year := time.year.toInt.toNat
    month := time.month.val.toNat
    day := time.day.val.toNat
    hour := time.hour.val.toNat
    minute := time.minute.val.toNat
    second := time.second.val.toNat }

/-- The variables of the environment that settings know. -/
def environment : IO Settings.Environment :=
  Settings.overrides.filterMapM fun (name, _) => do
    return (← IO.getEnv (String.ofList name)).map fun value => (name, value.toList)

/-- The files that a call needs: the settings, and the database that they name. -/
def fetchFiles (around : Command.Surroundings) (disk : Disk) (words : List Text) : IO Disk := do
  match Command.Call.read disk words with
  | .error _ => return disk
  | .ok call =>
    let disk ← fetchFile disk Settings.defaultPath .file
    let disk ← fetchFile disk call.settings .file
    match call.load around.environment disk with
    | .error _ => return disk
    | .ok settings =>
      let clock := around.clock
      let action := call.name.text
      let folder := (Command.logSetup settings call.name).actionFolder action
      let log := folder.join (.ofText (action ++ "_" ++ clock.logStamp ++ ".log"))
      let disk ← fetchFile disk log .file
      match settings.storage.path? around.homes with
      | none => return disk
      | some path => fetchFile disk path databaseNode

/-- What is printed when the words are not used in the right way. -/
def usage : String :=
  "Usage: lawsearch [--config FILE] search [--fulltext|--simple] [QUERY]... | mode [on|off]"

/-- Prints the outcome of a command and gives the exit code. -/
def conclude (after : Command.Aftermath) : IO UInt32 := do
  for line in after.console do IO.eprintln (String.ofList line)
  match after.ending with
  | .misused => IO.eprintln usage; return 2
  | .refused (.path fault) => IO.eprintln (String.ofList fault.message); return 1
  | .refused (.settings fault) => IO.eprintln (String.ofList fault.message); return 1
  | .refused (.logging fault) => IO.eprintln (String.ofList fault.message); return 1
  | .aborted => return 1
  | .done answer => IO.print (String.ofList answer); return 0

end CorpusSearch.Main

open CorpusSearch Files in
/-- Runs the words of the command line. -/
def main (arguments : List String) : IO UInt32 := do
  let here := Text.splitAt (· == '/') (← IO.currentDir).toString.toList
  let home := ((← IO.getEnv "HOME").getD "/").toList
  let unreachable {α : Type} (url : Text) : Except Text α := .error ("unreachable: " ++ url)
  let around : Command.Surroundings :=
    { environment := ← Main.environment, homes := [([], home)]
      source := unreachable, fetch := unreachable, clock := ← Main.now }
  let words := arguments.map String.toList
  let disk ← Main.fetchFiles around { here := here.filter fun name => !name.isEmpty } words
  let after := Command.run around {} disk words
  for (place, node) in after.disk.nodes.reverse do
    if disk.node? place != some node then Main.storeNode place node
  Main.conclude after
