-- Why settings are refused. Every fault names the section or the dotted key it is about.
import CorpusSearch.Value
import CorpusSearch.Yaml.Fault

namespace CorpusSearch.Settings

inductive Fault where
  /-- The text has no value. -/
  | unreadable (fault : Yaml.Fault)
  /-- The text does not hold a mapping. -/
  | noMapping
  | missing (key : Text)
  | notObject (key : Text)
  | notText (key : Text)
  | notTruth (key : Text)
  | notWhole (key : Text)
  | notNumber (key : Text)
  | notList (key : Text)
  | keyNotText (key : Text)
  /-- A whole number is past every floating-point number. -/
  | tooLarge
  | notPositive (key : Text)
  | negative (key : Text)
  | blank (key : Text)
  | unknownLevel (levels : List Text)
  | noCatalog
  | notWeb (key : Text)
  | emptyTerm
  | noSynonyms (term : Text)
  | noFormat
  | unknownFormats (names known : List Text)
  | namesFolder
  deriving DecidableEq, Repr

/-- The kinds of faults: a text that cannot be read, a value of the wrong type, a value that is
missing or out of range, and a number that cannot be converted. -/
inductive FaultKind where
  | content
  | type
  | value
  | overflow
  deriving DecidableEq, Repr

namespace Fault

def kind : Fault → FaultKind
  | .unreadable _ => .content
  | .tooLarge => .overflow
  | .notObject _ | .notText _ | .notTruth _ | .notWhole _ | .notNumber _ | .notList _
  | .keyNotText _ => .type
  | _ => .value

/-- A list of texts as a message shows it. -/
def shownTexts (texts : List Text) : Text := (Value.list (texts.map .text)).shown

def message : Fault → Text
  | .unreadable fault => fault.message
  | .noMapping => "Config root must be a mapping/object"
  | .missing key => "Missing required config: " ++ key
  | .notObject key => key ++ " must be an object"
  | .notText key => key ++ " must be a string"
  | .notTruth key => key ++ " must be a boolean"
  | .notWhole key => key ++ " must be an integer"
  | .notNumber key => key ++ " must be a number"
  | .notList key => key ++ " must be a list"
  | .keyNotText key => key ++ " keys must be strings"
  | .tooLarge => "int too large to convert to float"
  | .notPositive key => key ++ " must be positive"
  | .negative key => key ++ " must be >= 0"
  | .blank key => key ++ " must not be empty"
  | .unknownLevel levels => "log.level must be one of " ++ Text.join ", ".toList levels
  | .noCatalog => "catalogs must configure at least one of textbooks/laws/rules"
  | .notWeb key => key ++ " must be an http(s) URL"
  | .emptyTerm => "synonyms keys must not be empty"
  | .noSynonyms term => "synonyms." ++ term ++ " must list at least one synonym"
  | .noFormat => "output.formats must include at least one format"
  | .unknownFormats names known =>
    "output.formats has unknown formats: " ++ shownTexts names ++ "; expected " ++ shownTexts known
  | .namesFolder => "storage.db_path must name a file, not a directory"

end Fault

end CorpusSearch.Settings
