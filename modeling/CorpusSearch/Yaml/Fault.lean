-- Why a YAML text cannot be read.
import CorpusSearch.Number.Decimal
import CorpusSearch.Text.Quoted
import CorpusSearch.Yaml.Moment

namespace CorpusSearch.Yaml

/-- Why a text has no value. -/
inductive Fault where
  /-- The text is malformed, or a node has no value of its kind. -/
  | malformed
  /-- An escape has a number past every character. -/
  | noCharacter
  /-- An escape has a number that is too large to be looked at. -/
  | noCode
  /-- A whole number has more digits than are read. -/
  | tooManyDigits (count : Nat)
  /-- A text is no whole number in a base. -/
  | noWhole (base : Nat) (text : Text)
  /-- A text is no floating-point number. -/
  | noFloat (text : Text)
  /-- A power of sixty is past every floating-point number. -/
  | tooLarge
  /-- A number has no first character. -/
  | noFigure
  /-- A text is no truth value. -/
  | noTruth (text : Text)
  /-- A text is no date. -/
  | noDate
  /-- A date or time does not exist. -/
  | moment (fault : Moment.Fault)
  deriving DecidableEq, Repr

/-- How much of a text is shown that is no whole number. -/
def maxShown : Nat := 200

/-- What is said of a fault; a malformed text has no words of its own. -/
def Fault.message : Fault → Text
  | .malformed => "malformed text"
  | .noCharacter => "chr() arg not in range(0x110000)"
  | .noCode => "Python int too large to convert to C int"
  | .tooManyDigits count => Number.tooManyDigits count
  | .noWhole base text =>
    "invalid literal for int() with base " ++ Number.digits base ++ ": " ++
      (Text.quoted text).take maxShown
  | .noFloat text => "could not convert string to float: " ++ Text.quoted text
  | .tooLarge => "int too large to convert to float"
  | .noFigure => "string index out of range"
  | .noTruth text => Text.quoted text
  | .noDate => "'NoneType' object has no attribute 'groupdict'"
  | .moment fault => fault.message

end CorpusSearch.Yaml
