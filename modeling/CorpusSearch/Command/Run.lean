-- Running commands: settings are loaded, logging is set up, the preferences are opened, and the
-- command does its work. Every failure of the work itself is logged and aborts the command.
import CorpusSearch.Command.Arguments
import CorpusSearch.Corpus.Service
import CorpusSearch.Log.Clock
import CorpusSearch.Log.Sink
import CorpusSearch.Preferences.Session
import CorpusSearch.Report.Writer

namespace CorpusSearch.Command

open Corpus Files Preferences

/-- What surrounds a command: the environment, the home folders of users, where catalogs and texts
come from, and the time. -/
structure Surroundings where
  environment : Settings.Environment := []
  homes : List (Text × Text) := []
  source : Catalog.Source
  fetch : Match.Fetcher
  clock : Log.Clock

/-- Why a command never starts. -/
inductive Refusal where
  /-- The path of the settings cannot be asked for. -/
  | path (fault : Files.Fault)
  | settings (fault : Settings.LoadFault)
  | logging (fault : Log.Fault)
  deriving DecidableEq, Repr

inductive Ending where
  /-- The words are not used in the right way. -/
  | misused
  | refused (refusal : Refusal)
  | aborted
  /-- The work is done; `answer` is what is printed. -/
  | done (answer : Text)
  deriving DecidableEq, Repr

structure Aftermath where
  ending : Ending
  console : List Text := []
  disk : Disk
  logger : Log.Logger
  deriving Repr

/-! ## The work of commands -/

/-- What the work of a command comes to: the disk, and the answer or a failure. -/
abbrev Work := Traced (Disk × Except Text Text)

/-- Opens the preferences that settings name. -/
def openPreferences (around : Surroundings) (settings : Settings) (disk : Disk) :
    Disk × Except Text Session :=
  match settings.storage.path? around.homes with
  | none => (disk, .error Settings.Storage.noHome)
  | some path =>
    let (disk, opened) := Session.openAt disk path
    (disk, opened.mapError Preferences.Fault.message)

/-- Opens the preferences for some work, or fails with the reason. -/
def withPreferences (around : Surroundings) (settings : Settings) (disk : Disk)
    (work : Session → Disk → Work) : Work :=
  match openPreferences around settings disk with
  | (disk, .error failure) => return (disk, .error failure)
  | (disk, .ok session) => do
    Traced.log .debug ("Settings database: " ++ session.path.text)
    work session disk

/-- Writes a result and ends all writers. -/
def writeResult (around : Surroundings) (writers : List Report.Writer) (result : Result)
    (disk : Disk) : Work := do
  match ← Report.Writer.writeAll result writers with
  | (_, some fault) => return (disk, .error fault.message)
  | (writers, none) =>
    match Report.Writer.finishAll Name.search.text around.clock.resultStamp disk writers with
    | (disk, .error fault) => return (disk, .error fault.message)
    | (disk, .ok paths) => do
      paths.forM fun path =>
        let entry := Report.Writer.saved path
        Traced.log entry.level entry.message
      return (disk, .ok [])

/-- The mode of a search: the given one, else the stored one. -/
def modeOf (mode : Option Mode) (session : Session) (disk : Disk) : Except Preferences.Fault Mode :=
  match mode with
  | some mode => .ok mode
  | none => (session.isFullText disk).map fun isOn => if isOn then .fullText else .simple

def search (around : Surroundings) (settings : Settings) (words : List Text) (mode : Option Mode)
    (disk : Disk) : Work :=
  withPreferences around settings disk fun session disk =>
    match Report.Writer.ofNames (.ofText settings.output.folder) settings.output.formats with
    | .error name => return (disk, .error (Report.Format.noWriter name))
    | .ok writers => match modeOf mode session disk with
      | .error fault => return (disk, .error fault.message)
      | .ok mode => do
        let query := Text.join [' '] words
        Traced.log .info ("query=" ++ Text.quoted query ++ " mode=" ++ mode.name)
        let result ← (Service.ofSettings settings).search around.source around.fetch query mode
        writeResult around writers result disk

/-- Stores the mode if there is one to store. -/
def storeMode (value : Option Bool) (session : Session) (disk : Disk) :
    Traced ((Session × Disk) × Except Preferences.Fault Unit) :=
  match value with
  | none => return ((session, disk), .ok ())
  | some isOn => match session.setFullText isOn disk with
    | (after, .error fault) => return (after, .error fault)
    | (after, .ok ()) => do
      let entry := Session.modeEntry isOn
      Traced.log entry.level entry.message
      return (after, .ok ())

def modeAnswer (isOn : Bool) : Text := if isOn then "on" else "off"

def mode (around : Surroundings) (settings : Settings) (value : Option Bool) (disk : Disk) : Work :=
  withPreferences around settings disk fun session disk => do
    match ← storeMode value session disk with
    | ((_, disk), .error fault) => return (disk, .error fault.message)
    | ((session, disk), .ok ()) => match session.isFullText disk with
      | .error fault => return (disk, .error fault.message)
      | .ok isOn => do
        Traced.log .info ("Full-text mode: " ++ modeAnswer isOn)
        return (disk, .ok (modeAnswer isOn ++ ['\n']))

def Order.work (around : Surroundings) (settings : Settings) (disk : Disk) : Order → Work
  | .search words chosen => Command.search around settings words chosen disk
  | .mode value => Command.mode around settings value disk

/-- What is said of a failure, by the name of the command. -/
def failureMessage (name : Name) (failure : Text) : Text :=
  match name with
  | .search => "Search failed: " ++ failure
  | .mode => "Mode update failed: " ++ failure

/-- The last line of a command that failed. -/
def abortLine : Text := "Aborted!"

/-! ## Running -/

/-- Does the work of a command with logging set up. -/
def perform (around : Surroundings) (settings : Settings) (name : Name) (order : Order)
    (logger : Log.Logger) (disk : Disk) : Aftermath :=
  let work := order.work around settings disk
  let written : Log.Written := { disk := work.value.1 }
  let written := work.entries.foldl (logger.emit around.clock.lineStamp) written
  match work.value.2 with
  | .ok answer =>
    { ending := .done answer, console := written.console, disk := written.disk, logger }
  | .error failure =>
    let entry : Log.Entry := ⟨.error, failureMessage name failure⟩
    let written := logger.emit around.clock.lineStamp written entry
    { ending := .aborted, console := written.console ++ [abortLine], disk := written.disk, logger }

/-- Loads the settings of a call: over those that come with the program if they are there. -/
def Call.load (call : Call) (environment : Settings.Environment) (disk : Disk) :
    Except Settings.LoadFault Settings :=
  let base := if disk.isFile Settings.defaultPath then Settings.defaultPath else call.settings
  Settings.load disk call.settings base environment

/-- How logging is set up for a command. -/
def logSetup (settings : Settings) (name : Name) : Log.Setup :=
  { level := settings.logging.level
    action := some name.text
    toFile := settings.logging.toFile
    folder := settings.logging.folder }

/-- Runs the words of a command line. -/
def run (around : Surroundings) (logger : Log.Logger) (disk : Disk) (words : List Text) :
    Aftermath :=
  match Call.read disk words with
  | .error .words => { ending := .misused, disk, logger }
  | .error (.path fault) => { ending := .refused (.path fault), disk, logger }
  | .ok call => match call.load around.environment disk with
    | .error fault => { ending := .refused (.settings fault), disk, logger }
    | .ok settings => match call.order? with
      | none => { ending := .misused, disk, logger }
      | some order =>
        match Log.configure (logSetup settings call.name) around.clock.logStamp logger disk with
        | (logger, disk, .error fault) =>
          { ending := .refused (.logging fault), disk, logger }
        | (logger, disk, .ok ()) => perform around settings call.name order logger disk

end CorpusSearch.Command
