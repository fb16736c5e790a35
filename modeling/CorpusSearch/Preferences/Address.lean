-- Addresses of databases: the name of a file, or a form that starts with `file:` and may have
-- options behind a question mark.
import CorpusSearch.Number.Decimal
import CorpusSearch.Text.Case
import CorpusSearch.Text.Utf8

namespace CorpusSearch.Preferences

/-- What may be done with a database. -/
inductive Access where
  | read
  | write
  /-- Writing, and making the database when there is none. -/
  | create
  /-- A database in memory. -/
  | memory
  deriving DecidableEq, Repr

/-- What an access grants, as a number: more for more. -/
def Access.weight : Access → Nat
  | .read => 1
  | .write => 2
  | .create => 6
  | .memory => 128

/-- Where a database is, and how it is opened. -/
structure Address where
  /-- The name of the file; a database without a name is gone when it is closed. -/
  name : Text
  access : Access := .create
  /-- Whether sessions on one database in memory share it. -/
  isShared : Bool := false
  /-- Whether files are kept in memory, where all sessions share those below the root. -/
  isInMemory : Bool := false
  /-- Whether the file is taken to never change. -/
  isFixed : Bool := false
  /-- A file whose permissions a new one takes. -/
  model? : Option Text := none
  deriving DecidableEq, Repr

inductive AddressFault where
  | noAccess (value : Text)
  | noCache (value : Text)
  /-- A later option asks for more than an earlier one grants. -/
  | notAllowed (value : Text)
  | noSystem (value : Text)
  deriving DecidableEq, Repr

/-- What is said of a refused address. -/
def AddressFault.message : AddressFault → Text
  | .noAccess value => "no such access mode: " ++ value
  | .noCache value => "no such cache mode: " ++ value
  | .notAllowed value => "access mode not allowed: " ++ value
  | .noSystem value => "no such vfs: " ++ value

namespace Address

/-! ## Octets -/

/-- The bytes of a text, each as a character below U+0100. -/
def octets (text : Text) : Text := text.utf8.map fun byte => Char.ofNat byte.toNat

/-- The text of such characters. -/
def ofOctets (octets : Text) : Text := Text.ofUtf8 (octets.map fun c => UInt8.ofNat c.toNat)

/-- Octets with the ones for which a percent sign and two hexadecimal digits stand; a zero among
these ends them. -/
def unescaped : Text → Text
  | [] => []
  | '%' :: a :: b :: rest =>
    match Number.hexDigit? a, Number.hexDigit? b with
    | some high, some low =>
      if high = 0 && low = 0 then [] else Char.ofNat (high * 16 + low) :: unescaped rest
    | _, _ => '%' :: unescaped (a :: b :: rest)
  | c :: rest => c :: unescaped rest

/-! ## Options -/

/-- An option, as its name and its value. -/
abbrev Setting := Text × Text

/-- The option in a part between ampersands, none when it has no name. -/
def setting? (part : Text) : Option Setting :=
  let (name, value) := (Text.cutAt? (· == '=') part).getD (part, [])
  let name := unescaped name
  if name.isEmpty then none else some (ofOctets name, ofOctets (unescaped value))

def accesses : List (Text × Access) :=
  [("ro", .read), ("rw", .write), ("rwc", .create), ("memory", .memory)]

/-- The ways to share by name. -/
def caches : List (Text × Bool) := [("shared", true), ("private", false)]

/-- The systems of files by name, and whether their files are in memory. -/
def systems : List (Text × Bool) :=
  [("unix", false), ("unix-none", false), ("unix-dotfile", false), ("unix-excl", false),
    ("memdb", true)]

/-- Takes an option on access or sharing into an address; others change nothing here. -/
def take (address : Address) (setting : Setting) : Except AddressFault Address :=
  let (name, value) := setting
  if name = "mode".toList then
    match accesses.lookup value with
    | none => .error (.noAccess value)
    | some access =>
      if access != .memory && address.access.weight < access.weight then .error (.notAllowed value)
      else .ok { address with access }
  else if name = "cache".toList then
    match caches.lookup value with
    | none => .error (.noCache value)
    | some isShared => .ok { address with isShared }
  else .ok address

/-- Whether the value of an option says yes: by a word in letters of either case, or by a number
other than a multiple of 256. -/
def isYes (value : Text) : Bool :=
  if value.head?.any Char.isDigit then Number.ofDigits (value.takeWhile Char.isDigit) % 256 ≠ 0
  else ["on", "yes", "true"].any fun word => word.toList = value.map Char.toLower

/-! ## Reading -/

/-- How an address with options starts. -/
def scheme : Text := "file:"

/-- Reads an address. Only the last system that is named counts, and it is looked up when all other
options are taken. -/
def read (text : Text) : Except AddressFault Address := do
  if !scheme.isPrefixOf text then return { name := text }
  let body := (octets (text.drop scheme.length)).takeWhile (· != '#')
  let (name, query) := (Text.cutAt? (· == '?') body).getD (body, [])
  let settings := (Text.splitAt (· == '&') query).filterMap setting?
  let address ← settings.foldlM take { name := ofOctets (unescaped name) }
  let isInMemory ← match settings.reverse.lookup "vfs".toList with
    | none => pure false
    | some system => match systems.lookup system with
      | none => throw (.noSystem system)
      | some isInMemory => pure isInMemory
  return { address with
    isInMemory
    isFixed := (settings.lookup "immutable".toList).any isYes
    model? := settings.lookup "modeof".toList }

/-! ## Kinds of databases -/

def memoryName : Text := ":memory:"

/-- Whether the database is looked for by its name. -/
def isNamed (address : Address) : Bool :=
  !(address.name.isEmpty || address.name = memoryName || address.access = .memory)

/-- Whether the database has a file. -/
def hasFile (address : Address) : Bool := address.isNamed && !address.isInMemory

/-- Whether the database in memory is shared by all sessions that are open at a time. -/
def isCommon (address : Address) : Bool :=
  if address.isNamed && address.isInMemory then address.name.head? = some '/'
  else address.isShared && !address.name.isEmpty

/-- Whether the database can only be read. -/
def isReadOnly (address : Address) : Bool :=
  address.access = .read || (address.isFixed && address.isNamed)

end Address

end CorpusSearch.Preferences
