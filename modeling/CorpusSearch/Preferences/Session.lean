-- The preferences: rows of keys and values in a database. A session is one connection to it.
import CorpusSearch.Corpus.Document
import CorpusSearch.Files.Disk
import CorpusSearch.Log.Entry
import CorpusSearch.Number.Significant
import CorpusSearch.Preferences.Address
import CorpusSearch.Value

namespace CorpusSearch.Preferences

open Files

/-! ## Faults -/

inductive Fault where
  | disk (fault : Files.Fault)
  | address (fault : AddressFault)
  | cannotOpen
  /-- The file cannot be read, or the one whose permissions a new one takes is not there. -/
  | notRead
  | readOnly
  /-- An earlier session has left the database reserved. -/
  | locked
  | noDatabase
  /-- A query on a closed connection. -/
  | closed
  /-- A wish for the connection behind its end. -/
  | ended (path : Path)
  | noValue
  /-- A value that no column can hold, at its position in the query. -/
  | unsupported (position : Nat) (type : Text)
  | tooLarge
  deriving DecidableEq, Repr

def Fault.message : Fault → Text
  | .disk fault => fault.message
  | .address fault => fault.message
  | .cannotOpen => "unable to open database file"
  | .notRead => "disk I/O error"
  | .readOnly => "attempt to write a readonly database"
  | .locked => "database is locked"
  | .noDatabase => "file is not a database"
  | .closed => "Cannot operate on a closed database."
  | .ended path => "Database already closed: " ++ path.text
  | .noValue => "NOT NULL constraint failed: settings.value"
  | .unsupported position type =>
    "Error binding parameter " ++ Number.digits position ++ ": type '" ++ type ++
      "' is not supported"
  | .tooLarge => "Python int too large to convert to SQLite INTEGER"

/-! ## Rows -/

abbrev Rows := List (Text × Text)

/-- Gives a key a value. -/
def put (key value : Text) : Rows → Rows
  | [] => [(key, value)]
  | (k, v) :: rows => if k = key then (k, value) :: rows else (k, v) :: put key value rows

/-- How many significant digits of a floating-point number a column of texts keeps. -/
def keptDigits : Nat := 15

/-- A value as a column of texts holds it, none for nothing. -/
def cell (position : Nat) : Value → Except Fault (Option Text)
  | .null => .ok none
  | .bool b => .ok (some (if b then ['1'] else ['0']))
  | .int i =>
    if -(Number.twoTo 63 : Int) ≤ i && i < (Number.twoTo 63 : Int) then
      .ok (some (Number.decimal i))
    else .error .tooLarge
  | .float .nan => .ok none
  | .float d => .ok (some (d.significant keptDigits))
  | .text t => .ok (some t)
  | .other _ => .error (.unsupported position "object")
  | .list _ => .error (.unsupported position "list")
  | .mapping _ => .error (.unsupported position "dict")

/-! ## Places of files -/

/-- The most bytes that the path of a database may have, together with the ending of the file that
keeps what is not yet stored. -/
def maxPathBytes : Nat := 512

/-- The count of bytes in the ending of that file. -/
def journalBytes : Nat := 8

/-- The count of bytes of a place, written from the root. -/
def placeBytes (place : Place) : Nat := place.foldl (fun size name => size + name.byteSize + 1) 0

/-- The place behind names, from a place on. Two dots lead up from where they stand in the path,
whatever is on the disk; a file or too long a name in between is refused. -/
def walk (disk : Disk) (place : Place) : List Text → Option Place
  | [] => some place
  | name :: names =>
    if name.isEmpty || name = ['.'] then walk disk place names
    else if name = ['.', '.'] then walk disk place.dropLast names
    else if maxPathBytes < placeBytes place + name.byteSize + 2 then none
    else match disk.node? place with
      | some .folder =>
        if Disk.maxNameBytes < name.byteSize then none else walk disk (place ++ [name]) names
      | some _ => none
      | none => walk disk (place ++ [name]) names

/-- The place of the file of a database. -/
def placeOf? (disk : Disk) (name : Text) : Option Place :=
  match walk disk (if name.head? = some '/' then [] else disk.here)
      (Text.splitAt (· == '/') name) with
  | none | some [] => none
  | some place => if maxPathBytes < placeBytes place + journalBytes then none else some place

/-! ## Sessions -/

inductive Link where
  | file (place : Place) (isReadOnly : Bool)
  /-- Rows in memory, and whether sessions on one database share them. -/
  | memory (isCommon : Bool) (rows : Rows)
  | closed
  deriving DecidableEq, Repr

/-- A session on the database at a path. A change that is refused for its value leaves the database
reserved until a change of the same session succeeds or the session is closed. -/
structure Session where
  path : Path
  link : Link
  /-- Whether this session has reserved the database. -/
  isReserving : Bool := false
  /-- Whether an earlier session, which was never closed, has. -/
  isBarred : Bool := false
  /-- Whether a value was asked for before. -/
  wasAsked : Bool := false
  /-- Why the last change was refused, as long as nothing else was done. -/
  refusal : Option Fault := none
  deriving DecidableEq, Repr

namespace Session

/-- Opens the file of a database. The database is made when there is nothing or an empty file; a
name that leaves no room for the ending of the other file is left empty. A folder is opened if it
need only be read, but not read. -/
def openFile (disk : Disk) (address : Address) : Disk × Except Fault Link :=
  match placeOf? disk address.name with
  | none => (disk, .error .cannotOpen)
  | some place =>
    let link : Link := .file place address.isReadOnly
    let make (disk : Disk) : Disk × Except Fault Link :=
      if address.isReadOnly then (disk, .error .readOnly)
      else if Disk.maxNameBytes < (place.getLast?.getD []).byteSize + journalBytes then
        (disk, .error .cannotOpen)
      else (disk.put place (.database []), .ok link)
    if address.model?.any fun model => model.isEmpty || (disk.at? (.ofText model)).isNone then
      (disk, .error .notRead)
    else match disk.node? place.dropLast, disk.node? place with
      | some .folder, none =>
        if address.access = .create then make (disk.put place (.file []))
        else (disk, .error .cannotOpen)
      | some .folder, some (.file []) => make disk
      | some .folder, some (.file _) => (disk, .error .noDatabase)
      | some .folder, some (.database _) => (disk, .ok link)
      | some .folder, some .folder =>
        (disk, .error (if address.access = .read then .notRead else .cannotOpen))
      | _, _ => (disk, .error .cannotOpen)

/-- Opens the database at an address. -/
def openLink (disk : Disk) (address : Address) : Disk × Except Fault Link :=
  if address.hasFile then openFile disk address
  else if address.isReadOnly then (disk, .error .readOnly)
  else (disk, .ok (.memory address.isCommon []))

/-- Opens the database at a path. The folders above it are made. -/
def openAt (disk : Disk) (path : Path) : Disk × Except Fault Session :=
  match disk.makeFolders path.parent with
  | (disk, .error fault) => (disk, .error (.disk fault))
  | (disk, .ok ()) =>
    if path.text.contains '\x00' then (disk, .error (.disk (.refused .zeroByte path)))
    else match Address.read path.text with
      | .error fault => (disk, .error (.address fault))
      | .ok address =>
        let (disk, link) := openLink disk address
        (disk, link.map fun link => { path, link })

/-- A new session behind an earlier one on the same database: rows in memory that sessions share are
still there if that one is open, and so is what it has reserved. -/
def behind (earlier session : Session) : Session :=
  match earlier.link, session.link with
  | .memory true rows, .memory true _ => { session with link := .memory true rows }
  | _, .file .. => { session with isBarred := earlier.isBarred || earlier.isReserving }
  | _, _ => session

/-- Opens the database of a session once more. -/
def reopen (session : Session) (disk : Disk) : Disk × Except Fault Session :=
  let (disk, opened) := openAt disk session.path
  (disk, opened.map (behind session))

def rows (session : Session) (disk : Disk) : Except Fault Rows :=
  match session.link with
  | .closed => .error .closed
  | .memory _ rows => .ok rows
  | .file place _ => match disk.node? place with
    | some (.database rows) => .ok rows
    | _ => .ok []

def withRows (rows : Rows) (session : Session) (disk : Disk) : Session × Disk :=
  match session.link with
  | .closed => (session, disk)
  | .memory isCommon _ => ({ session with link := .memory isCommon rows }, disk)
  | .file place _ => (session, disk.put place (.database rows))

/-- Whether a session can only read. -/
def isReadOnly (session : Session) : Bool :=
  match session.link with
  | .file _ isReadOnly => isReadOnly
  | .memory .. | .closed => false

def get (key : Value) (session : Session) (disk : Disk) : Except Fault (Option Text) := do
  let rows ← session.rows disk
  return (← cell 1 key).bind fun key => rows.lookup key

/-- The session behind a question for a value. -/
def asked (session : Session) : Session := { session with wasAsked := true, refusal := none }

/-- Asks for the value of a key. When a value was asked for before, a key that no column can hold
brings up the refusal of the last change again. -/
def ask (key : Value) (session : Session) (disk : Disk) :
    Session × Except Fault (Option Text) :=
  match session.get key disk, session.refusal.filter fun _ => session.wasAsked with
  | .error _, some refusal => (session, .error refusal)
  | answer, _ => (session.asked, answer)

/-- The rows behind a change, none if they stay as they are. A key that is nothing is taken, but
never found again. A key that no column can hold brings up the refusal of the last change again. -/
def change (key value : Value) (session : Session) (disk : Disk) :
    Except Fault (Option Rows) := do
  let rows ← session.rows disk
  let key? ← (cell 1 key).mapError session.refusal.getD
  let value? ← cell 2 value
  if session.isReadOnly then throw .readOnly
  if session.isBarred then throw .locked
  match value? with
  | none => .error .noValue
  | some value => return key?.map fun key => put key value rows

/-- The session behind a change that was refused. -/
def behindRefusal (fault : Fault) (session : Session) : Session :=
  match fault with
  | .noValue => { session with isReserving := true, refusal := some fault }
  | .readOnly | .locked => { session with refusal := some fault }
  | _ => { session with refusal := none }

/-- Gives a key a value. -/
def set (key value : Value) (session : Session) (disk : Disk) :
    (Session × Disk) × Except Fault Unit :=
  match session.change key value disk with
  | .error fault => ((session.behindRefusal fault, disk), .error fault)
  | .ok rows? =>
    let session := { session with isReserving := false, refusal := none }
    match rows? with
    | none => ((session, disk), .ok ())
    | some rows => (session.withRows rows disk, .ok ())

/-- Ends a session; a second time changes nothing. -/
def close (session : Session) : Session :=
  { session with link := .closed, isReserving := false, refusal := none }

/-- Refuses a session that has ended. -/
def connection (session : Session) : Except Fault Unit :=
  match session.link with
  | .closed => .error (.ended session.path)
  | _ => .ok ()

/-! ## The mode of searches -/

def modeKey : Text := "FULLTEXT_MODE"

/-- Whether searches are full-text searches; they are not when nothing is stored. -/
def isFullText (session : Session) (disk : Disk) : Except Fault Bool := do
  return (← session.get (.text modeKey) disk) = some ['1']

/-- Stores whether searches are full-text searches. -/
def setFullText (isOn : Bool) (session : Session) (disk : Disk) :
    (Session × Disk) × Except Fault Unit :=
  session.set (.text modeKey) (.text (if isOn then ['1'] else ['0'])) disk

/-- What is logged when the mode was stored. -/
def modeEntry (isOn : Bool) : Log.Entry :=
  ⟨.info, "Full-text mode " ++ if isOn then ("enabled" : Text) else "disabled"⟩

end Session

end CorpusSearch.Preferences
