-- Where log entries go: lines on the console, and files that hold every entry from the level of
-- details on.
import CorpusSearch.Files.Disk
import CorpusSearch.Log.Entry
import CorpusSearch.Text.Case

namespace CorpusSearch.Log

open Files

/-! ## Levels by name -/

/-- The level that takes in everything a logger without a level of its own takes in. -/
def unset : Level := 0

/-- The level that counts for a logger whose own level is unset. -/
def inherited : Level := .warning

def namedLevels : List (Text × Level) :=
  [("DEBUG", .debug), ("INFO", .info), ("WARNING", .warning), ("WARN", .warning),
    ("ERROR", .error), ("CRITICAL", .critical), ("FATAL", .critical), ("NOTSET", unset)]

/-- What a name that is no level stands for. -/
inductive Misnomer where
  /-- A text, which is looked up as a level in vain. -/
  | text (shown : Text)
  /-- Something else. -/
  | other (shown : Text)
  deriving DecidableEq, Repr

/-- Names that stand for something other than a level, with what they stand for. -/
def misnomers : List (Text × Misnomer) :=
  [("BASIC_FORMAT", .text "'%(levelname)s:%(name)s:%(message)s'"),
    ("_STYLES", .other
      ("\x7b'%': (<class 'logging.PercentStyle'>, '%(levelname)s:%(name)s:%(message)s'), " ++
        "'\x7b': (<class 'logging.StrFormatStyle'>, " ++
        "'\x7blevelname\x7d:\x7bname\x7d:\x7bmessage\x7d'), " ++
        "'$': (<class 'logging.StringTemplateStyle'>, " ++
        "'$\x7blevelname\x7d:$\x7bname\x7d:$\x7bmessage\x7d')\x7d").toList)]

/-- The level of a name in letters of either case; the course of work for an unknown name or
none. -/
def levelOf (name : Text) : Except Misnomer Level :=
  let name := name.upper
  match misnomers.lookup name with
  | some misnomer => .error misnomer
  | none => .ok ((namedLevels.lookup name).getD .info)

/-- The four letters that stand for a level in a line. A level without a name shows the start of
the word. -/
def tag (level : Level) : Text :=
  if level = .debug then "DEBG"
  else if level = .info then "INFO"
  else if level = .warning then "WARN"
  else if level = .error || level = .critical then "ERRO"
  else "Leve"

/-- An entry as a line, `stamp` being the time. -/
def line (stamp : Text) (entry : Entry) : Text :=
  stamp ++ " [" ++ tag entry.level ++ "] " ++ entry.message

/-! ## Loggers -/

inductive Target where
  | console
  | file (place : Place)
  deriving DecidableEq, Repr

/-- A target with the least level of the entries that go there. -/
structure Sink where
  target : Target
  level : Level
  deriving DecidableEq, Repr

/-- A logger: the least level of the entries that it passes on, and its sinks in order. `isOwn`
says that it keeps its entries for itself. -/
structure Logger where
  level : Level := unset
  sinks : List Sink := []
  isOwn : Bool := false
  deriving DecidableEq, Repr

/-- The least level of the entries that a logger passes on. -/
def Logger.threshold (logger : Logger) : Level :=
  if logger.level = unset then inherited else logger.level

/-- What a logger has written: the lines of the console, and the files on the disk. -/
structure Written where
  console : List Text := []
  disk : Disk := {}
  deriving Repr

/-- Writes a line to a target. -/
def Written.add (written : Written) (line : Text) : Target → Written
  | .console => { written with console := written.console ++ [line] }
  | .file place => { written with disk := written.disk.appendAt place (line ++ ['\n']) }

/-- Writes an entry to every sink that takes it. Entries at or below the unset level are never
written. Without any sink the bare messages of warnings, and of what is more serious, go to the
console, so that they are not lost. -/
def Logger.emit (logger : Logger) (stamp : Text) (written : Written) (entry : Entry) : Written :=
  if entry.level ≤ unset || entry.level < logger.threshold then written
  else if logger.sinks.isEmpty then
    if entry.level < Level.warning then written else written.add entry.message .console
  else
    (logger.sinks.filter fun sink => sink.level ≤ entry.level).foldl
      (fun written sink => written.add (line stamp entry) sink.target) written

/-! ## Configuration -/

/-- How logging is set up. -/
structure Setup where
  level : Text := "INFO"
  /-- The command, for the place of the file. -/
  action : Option Text := none
  toFile : Bool := false
  folder : Text := "log"
  deriving Repr

/-- Why logging cannot be set up. -/
inductive Fault where
  | noLevel (misnomer : Misnomer)
  | disk (fault : Files.Fault)
  deriving DecidableEq, Repr

/-- What is said when logging cannot be set up. -/
def Fault.message : Fault → Text
  | .noLevel (.text shown) => "Unknown level: " ++ shown
  | .noLevel (.other shown) => "Level not an integer or a valid string: " ++ shown
  | .disk fault => fault.message

/-- The action of a log file, none when no file is asked for. -/
def Setup.fileAction? (setup : Setup) : Option Text :=
  if setup.toFile then setup.action.filter fun action => !action.isEmpty else none

def Setup.actionFolder (setup : Setup) (action : Text) : Path :=
  (Path.ofText (if setup.folder.isEmpty then "log" else setup.folder)).join (.ofText action)

/-- Opens the log file of an action, `stamp` being the time in digits. -/
def openFile (folder : Path) (action stamp : Text) (disk : Disk) :
    Disk × Except Files.Fault Place :=
  match disk.makeFolders folder with
  | (disk, .error fault) => (disk, .error fault)
  | (disk, .ok ()) =>
    match disk.writable (folder.join (.ofText (action ++ "_" ++ stamp ++ ".log"))) with
    | .error fault => (disk, .error fault)
    | .ok place => (disk.appendAt place [], .ok place)

/-- Sets up a logger anew. A failure at the file leaves the console as the only sink and the level
as it was. -/
def configure (setup : Setup) (stamp : Text) (logger : Logger) (disk : Disk) :
    Logger × Disk × Except Fault Unit :=
  match levelOf (if setup.level.isEmpty then "INFO" else setup.level) with
  | .error misnomer => (logger, disk, .error (.noLevel misnomer))
  | .ok level =>
    let console : Sink := ⟨.console, level⟩
    let least := min Level.debug level
    match setup.fileAction? with
    | none => ({ level := least, sinks := [console], isOwn := true }, disk, .ok ())
    | some action =>
      match openFile (setup.actionFolder action) action stamp disk with
      | (disk, .error fault) => ({ logger with sinks := [console] }, disk, .error (.disk fault))
      | (disk, .ok place) =>
        ({ level := least, sinks := [console, ⟨.file place, .debug⟩], isOwn := true }, disk,
          .ok ())

end CorpusSearch.Log
