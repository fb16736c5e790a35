-- Folders, files and databases on a disk, and what can go wrong with them.
import CorpusSearch.Files.Path
import CorpusSearch.Text.Raw

namespace CorpusSearch.Files

/-! ## Faults -/

inductive Cause where
  | missing
  | exists
  | notFolder
  | isFolder
  /-- A name or a whole path has too many bytes. -/
  | tooLong
  /-- The path holds a zero, which no name can hold. -/
  | zeroByte
  deriving DecidableEq, Repr

/-- Why a file is not read or not written. -/
inductive Fault where
  /-- The disk refuses the path that it is asked for. -/
  | refused (cause : Cause) (path : Path)
  /-- The text that is to be written cannot be encoded. -/
  | text (fault : RawText.Fault)
  deriving DecidableEq, Repr

/-- The cause that a fault is counted under: a text that cannot be encoded is, like a path with a
zero, a value that no file takes. -/
def Fault.cause : Fault → Cause
  | .refused cause _ => cause
  | .text _ => .zeroByte

/-- The number of a cause and the words for it; a path with a zero never gets as far as to have
them. -/
def Cause.entry? : Cause → Option (Nat × Text)
  | .missing => some (2, "No such file or directory")
  | .exists => some (17, "File exists")
  | .notFolder => some (20, "Not a directory")
  | .isFolder => some (21, "Is a directory")
  | .tooLong => some (36, "File name too long")
  | .zeroByte => none

def Fault.message : Fault → Text
  | .text fault => fault.message
  | .refused cause path => match cause.entry? with
    | none => "embedded null byte"
    | some (number, words) =>
      "[Errno " ++ Number.digits number ++ "] " ++ words ++ ": " ++ Text.quoted path.text

/-! ## The disk -/

inductive Node where
  | folder
  | file (content : Text)
  /-- A database with its rows of keys and values. -/
  | database (rows : List (Text × Text))
  deriving DecidableEq, Repr

/-- A place on the disk: the names from the root down. -/
abbrev Place := List Text

/-- A disk with the working folder `here`. The root and the folders down to the working folder are
there in any case. -/
structure Disk where
  here : Place := []
  nodes : List (Place × Node) := []
  deriving Repr

namespace Disk

def node? (disk : Disk) (place : Place) : Option Node :=
  if place.isPrefixOf disk.here then some .folder else disk.nodes.lookup place

def put (disk : Disk) (place : Place) (node : Node) : Disk :=
  { disk with nodes := (place, node) :: disk.nodes.filter fun entry => entry.1 ≠ place }

/-- The most bytes that a name may have. -/
def maxNameBytes : Nat := 255

/-- The most bytes that a path may have. -/
def maxPathBytes : Nat := 4095

/-- The place behind names, from a place on: two dots lead up, and every name but the last one has
to be that of a folder. -/
def follow (disk : Disk) (place : Place) : List Text → Except Cause Place
  | [] => .ok place
  | name :: names => match disk.node? place with
    | none => .error .missing
    | some .folder =>
      if maxNameBytes < name.byteSize then .error .tooLong
      else disk.follow (if name = ['.', '.'] then place.dropLast else place ++ [name]) names
    | some _ => .error .notFolder

def place (disk : Disk) (path : Path) : Except Cause Place :=
  if path.text.contains '\x00' then .error .zeroByte
  else if maxPathBytes < path.text.byteSize then .error .tooLong
  else disk.follow (if path.root.isEmpty then disk.here else []) path.names

def at? (disk : Disk) (path : Path) : Option Node :=
  match disk.place path with
  | .ok place => disk.node? place
  | .error _ => none

/-- Whether something stands at a path. Too long a path is refused. -/
def isPresent (disk : Disk) (path : Path) : Except Fault Bool :=
  match disk.place path with
  | .ok place => .ok (disk.node? place).isSome
  | .error .tooLong => .error (.refused .tooLong path)
  | .error _ => .ok false

/-- Whether a path leads to a folder. -/
def isFolder (disk : Disk) (path : Path) : Bool := disk.at? path == some .folder

/-- Whether a path leads to a file. -/
def isFile (disk : Disk) (path : Path) : Bool :=
  match disk.at? path with
  | some (.file _) | some (.database _) => true
  | _ => false

/-! ## Folders -/

/-- Makes a folder where nothing stands. -/
def makeFolder (disk : Disk) (path : Path) : Except Cause Disk := do
  let place ← disk.place path
  match disk.node? place with
  | some _ => .error .exists
  | none => return disk.put place .folder

/-- Makes a folder unless it is there. -/
def makeFolderOnce (disk : Disk) (path : Path) : Except Cause Disk :=
  match disk.makeFolder path with
  | .error cause => if disk.isFolder path then .ok disk else .error cause
  | made => made

/-- Makes the folder with these names, the last one first, and the folders above it. What was made
before a refusal stays. -/
def makeFoldersUp (disk : Disk) (root : Text) : List Text → Disk × Except Fault Unit
  | [] => (disk, .ok ())
  | name :: above =>
    let path : Path := { root, names := (name :: above).reverse }
    match disk.makeFolder path with
    | .ok disk => (disk, .ok ())
    | .error .missing => match disk.makeFoldersUp root above with
      | (disk, .error fault) => (disk, .error fault)
      | (disk, .ok ()) => match disk.makeFolderOnce path with
        | .ok disk => (disk, .ok ())
        | .error cause => (disk, .error (.refused cause path))
    | .error cause => (disk, if disk.isFolder path then .ok () else .error (.refused cause path))

/-- Makes a folder and the folders above it, as far as they are not there. -/
def makeFolders (disk : Disk) (path : Path) : Disk × Except Fault Unit :=
  disk.makeFoldersUp path.root path.names.reverse

/-! ## Files -/

/-- How the text of a database file starts; what follows is not shown. -/
def databaseMark : Text := "SQLite format 3" ++ ['\x00']

def readText (disk : Disk) (path : Path) : Except Fault Text :=
  match disk.place path with
  | .error cause => .error (.refused cause path)
  | .ok place => match disk.node? place with
    | none => .error (.refused .missing path)
    | some .folder => .error (.refused .isFolder path)
    | some (.file content) => .ok content
    | some (.database _) => .ok databaseMark

/-- The place of a file that is to be written: a file there, or nothing in a folder. -/
def writable (disk : Disk) (path : Path) : Except Fault Place :=
  match disk.place path with
  | .error cause => .error (.refused cause path)
  | .ok place =>
    if disk.node? place = some .folder then .error (.refused .isFolder path) else .ok place

/-- Writes a file, whatever it held before. -/
def writeText (disk : Disk) (path : Path) (content : Text) : Except Fault Disk :=
  (disk.writable path).map fun place => disk.put place (.file content)

/-- Opens a file for a text and writes it. A text that cannot be encoded leaves the file empty. -/
def writeEncoded (disk : Disk) (path : Path) (content : Except RawText.Fault Text) :
    Disk × Except Fault Unit :=
  match disk.writeText path (content.toOption.getD []) with
  | .error fault => (disk, .error fault)
  | .ok disk => (disk, (content.mapError .text).map fun _ => ())

/-- Adds to the end of the file at a place. -/
def appendAt (disk : Disk) (place : Place) (more : Text) : Disk :=
  match disk.node? place with
  | some (.file content) => disk.put place (.file (content ++ more))
  | some .folder => disk
  | _ => disk.put place (.file more)

end Disk

end CorpusSearch.Files
