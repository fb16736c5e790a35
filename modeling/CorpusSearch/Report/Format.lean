-- The formats in which results are written.
import CorpusSearch.Text.Basic

namespace CorpusSearch.Report

/-- A format of results: as log lines on the console, or as a JSON file. -/
inductive Format where
  | console
  | json
  deriving DecidableEq, Repr

namespace Format

def all : List Format := [.console, .json]

def name : Format → Text
  | .console => "console"
  | .json => "json"

def ofName? (name : Text) : Option Format := all.find? fun format => format.name = name

/-- What is said of a name without a format. -/
def noWriter (name : Text) : Text := "No output writer for format: " ++ name

end Format

end CorpusSearch.Report
