-- The tags of nodes: what kind of value a node has, as its tag or the look of a plain scalar says.
import CorpusSearch.Yaml.Moment

namespace CorpusSearch.Yaml

/-- What kind of value a node has. -/
inductive Tag where
  | null
  | bool
  | int
  | float
  | text
  | binary
  | moment
  | sequence
  | mapping
  | set
  | orderedMapping
  | pairs
  /-- The key of mappings whose entries are taken over. -/
  | merge
  /-- The key of the value that stands for a whole mapping. -/
  | equals
  /-- A kind without values. -/
  | unknown
  deriving DecidableEq, Repr

namespace Tag

/-! ## By name -/

/-- The start of the names of all known tags. -/
def family : Text := "tag:yaml.org,2002:"

/-- The tags with the rest of their names. -/
def names : List (Text × Tag) :=
  [("null", .null), ("bool", .bool), ("int", .int), ("float", .float), ("str", .text),
    ("binary", .binary), ("timestamp", .moment), ("seq", .sequence), ("map", .mapping),
    ("set", .set), ("omap", .orderedMapping), ("pairs", .pairs), ("merge", .merge),
    ("value", .equals)]

def ofName (name : Text) : Tag :=
  if family.isPrefixOf name then (names.lookup (name.drop family.length)).getD .unknown
  else .unknown

/-- Whether the values of a kind are made of other values, so that they cannot be keys. -/
def isCollection : Tag → Bool
  | .sequence | .mapping | .set | .orderedMapping | .pairs => true
  | _ => false

/-! ## By look -/

/-- The spellings of nothing. -/
def nullWords : List Text := ["", "~", "null", "Null", "NULL"]

/-- The spellings of truth and falsehood. -/
def boolWords : List Text :=
  ["yes", "Yes", "YES", "no", "No", "NO", "true", "True", "TRUE", "false", "False", "FALSE",
    "on", "On", "ON", "off", "Off", "OFF"]

/-- The spellings of an infinite number, without its sign. -/
def infiniteWords : List Text := [".inf", ".Inf", ".INF"]

/-- The spellings of what is no number. -/
def nanWords : List Text := [".nan", ".NaN", ".NAN"]

/-- Whether a character is a digit or the underscore that may stand between digits. -/
def isFigure (c : Char) : Bool := c.isDigit || c == '_'

/-- A text without its sign, and whether the sign is a minus. -/
def unsigned : Text → Bool × Text
  | '-' :: rest => (true, rest)
  | '+' :: rest => (false, rest)
  | rest => (false, rest)

/-- Whether a text is a part of a number in base sixty: one or two digits below sixty. -/
def isSixtieth : Text → Bool
  | [d] => d.isDigit
  | [t, d] => t.isDigit && t < '6' && d.isDigit
  | _ => false

/-- Whether a text is a digit and figures, with further parts in base sixty behind colons, and
whether there are such parts. -/
def inParts? (text : Text) : Option Bool :=
  match Text.splitAt (· == ':') text with
  | (d :: figures) :: parts =>
    if d.isDigit && figures.all isFigure && parts.all isSixtieth then some !parts.isEmpty else none
  | _ => none

/-- Whether a text without its sign is a whole number in binary, octal, hexadecimal or decimal
digits, or in base sixty. -/
def isWhole : Text → Bool
  | '0' :: 'b' :: figures =>
    !figures.isEmpty && figures.all fun c => c == '0' || c == '1' || c == '_'
  | '0' :: 'x' :: figures =>
    !figures.isEmpty && figures.all fun c => (Number.hexDigit? c).isSome || c == '_'
  | '0' :: figures => figures.all fun c => (c.isDigit && c < '8') || c == '_'
  | size => (inParts? size).isSome

/-- Whether a text is the exponent of a float, whose sign is required, or nothing. -/
def isExponent : Text → Bool
  | [] => true
  | mark :: sign :: figures =>
    (mark == 'e' || mark == 'E') && (sign == '-' || sign == '+') && !figures.isEmpty &&
      figures.all Char.isDigit
  | _ => false

/-- Whether a text is a float with a point; the one without a digit before it takes no sign, and
the one in base sixty no exponent. -/
def isPointed (text : Text) : Bool :=
  match Text.cutAt? (· == '.') (unsigned text).2 with
  | none => false
  | some (before, behind) =>
    let tail := behind.dropWhile isFigure
    if before.isEmpty then
      text.head? = some '.' && behind.head?.any Char.isDigit && isExponent tail
    else match inParts? before with
      | none => false
      | some inBase => if inBase then tail.isEmpty else isExponent tail

def isFloat (text : Text) : Bool :=
  isPointed text || infiniteWords.contains (unsigned text).2 || nanWords.contains text

/-- The tag that a plain text looks like. -/
def ofWord (text : Text) : Tag :=
  if nullWords.contains text then .null
  else if boolWords.contains text then .bool
  else if isWhole (unsigned text).2 then .int
  else if isFloat text then .float
  else if Moment.isWritten text then .moment
  else if text = "<<".toList then .merge
  else if text = ['='] then .equals
  else if text = ['!'] || text = ['&'] || text = ['*'] then .unknown
  else .text

/-- A text without the line feed that ends it. -/
def withoutFeed (text : Text) : Text :=
  if text.getLast? = some '\n' then text.dropLast else text

/-- The tag that the text of a scalar looks like; a line feed at its end does not count, unless it
is all of the text. -/
def ofLook (text : Text) : Tag := if text = ['\n'] then .text else ofWord (withoutFeed text)

end Tag

end CorpusSearch.Yaml
