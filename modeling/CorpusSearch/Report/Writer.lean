-- Writers of results. A console writer logs each result at once; a file writer collects them and
-- writes all of them when a command is over.
import CorpusSearch.Files.Disk
import CorpusSearch.Log.Entry
import CorpusSearch.Report.Console
import CorpusSearch.Report.Format
import CorpusSearch.Report.Json
import CorpusSearch.Text.Blank

namespace CorpusSearch.Report

open Corpus Files

/-- A writer of results. The file writer holds the results so far. -/
inductive Writer where
  | console
  | file (folder : Path) (results : List (Result RawText))
  deriving Repr, Inhabited

namespace Writer

/-- The writer of a format, with the folder of its files. -/
def ofFormat (folder : Path) : Format → Writer
  | .console => .console
  | .json => .file folder []

/-- The writers of named formats in their order; the first name without a format is refused. -/
def ofNames (folder : Path) : List Text → Except Text (List Writer)
  | [] => .ok []
  | name :: names => match Format.ofName? name with
    | none => .error name
    | some format => (ofNames folder names).map (ofFormat folder format :: ·)

/-! ## Results -/

/-- Takes a result: the console writer logs its lines, the file writer keeps it. -/
def write (result : Result RawText) : Writer → Traced (Except Fault Writer)
  | .console => match text? (result.map RawText.shown) with
    | .error fault => return .error fault
    | .ok text => do
      (Text.lines text).forM (Traced.log .info)
      return .ok .console
  | .file folder results => return .ok (.file folder (results ++ [result]))

/-- Gives a result to writers in turn, until one of them refuses it. -/
def writeAll (result : Result RawText) : List Writer → Traced (List Writer × Option Fault)
  | [] => return ([], none)
  | writer :: writers => do
    match ← writer.write result with
    | .error fault => return (writer :: writers, some fault)
    | .ok writer =>
      let (writers, fault?) ← writeAll result writers
      return (writer :: writers, fault?)

/-! ## Files -/

/-- The path of the file of an action, `stamp` being the time of day in digits. -/
def filePath (folder : Path) (action stamp : Text) : Path :=
  folder.join (.ofText (action ++ "_" ++ stamp ++ ".json"))

/-- Ends an action: a file writer with results writes them and gives the path of the file. -/
def finish (action stamp : Text) (disk : Disk) : Writer → Disk × Except Files.Fault (Option Path)
  | .console | .file _ [] => (disk, .ok none)
  | .file folder results =>
    match disk.makeFolders folder with
    | (disk, .error fault) => (disk, .error fault)
    | (disk, .ok ()) =>
      let path := filePath folder action stamp
      match disk.writeEncoded path (fileContent results) with
      | (disk, .error fault) => (disk, .error fault)
      | (disk, .ok ()) => (disk, .ok (some path))

/-- Ends an action for all writers in turn and gives the paths of their files, until one of them is
refused. -/
def finishAll (action stamp : Text) (disk : Disk) :
    List Writer → Disk × Except Files.Fault (List Path)
  | [] => (disk, .ok [])
  | writer :: writers =>
    match writer.finish action stamp disk with
    | (disk, .error fault) => (disk, .error fault)
    | (disk, .ok path?) =>
      let (disk, paths) := finishAll action stamp disk writers
      (disk, paths.map (path?.toList ++ ·))

/-- What is logged for a file that was written. -/
def saved (path : Path) : Log.Entry := ⟨.info, "JSON saved to " ++ path.text⟩

end Writer

end CorpusSearch.Report
