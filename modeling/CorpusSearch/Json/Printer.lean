-- Writing JSON texts, on one line or with one item a line.
import CorpusSearch.Value

namespace CorpusSearch.Json

/-! ## Strings and keys -/

/-- What stands for one character of a string: only the quotation mark, the backslash and the
controls below the space are escaped. -/
def stringChar (c : Char) : Text :=
  match c with
  | '"' => ['\\', '"']
  | '\\' => ['\\', '\\']
  | '\n' => ['\\', 'n']
  | '\r' => ['\\', 'r']
  | '\t' => ['\\', 't']
  | '\x08' => ['\\', 'b']
  | '\x0c' => ['\\', 'f']
  | c => if c.toNat < 32 then ['\\', 'u'] ++ Text.hexadecimal 4 c.toNat else [c]

def string (t : Text) : Text := '"' :: t.flatMap stringChar ++ ['"']

/-- A float; the names of the numbers that are not finite are those the reader knows. -/
def float : Double → Text
  | .nan => "NaN"
  | .infinite negative => if negative then "-Infinity" else "Infinity"
  | d => d.text

/-- A key as a string; keys that are no texts take the text of their value, and those without one
that of nothing. -/
def key : Key → Text
  | .null | .other => string "null"
  | .bool b => string (if b then "true" else "false")
  | .int i => string (Number.decimal i)
  | .float d => string (float d)
  | .text t => string t

/-! ## Values -/

/-- What stands between two items and around them: nothing but a comma on one line, else a line
break and two spaces for each level. -/
def lineBreak (indented : Bool) (level : Nat) : Text :=
  if indented then '\n' :: List.replicate (2 * level) ' ' else []

mutual

/-- A value whose items stand at the level `level + 1`. What has no form of its own is null. -/
def printAt (indented : Bool) (level : Nat) : Value → Text
  | .null | .other _ => "null"
  | .bool b => if b then "true" else "false"
  | .int i => Number.decimal i
  | .float d => float d
  | .text t => string t
  | .list [] => "[]"
  | .list items =>
    '[' :: printItems indented (level + 1) items ++ lineBreak indented level ++ [']']
  | .mapping [] => ['\x7b', '\x7d']
  | .mapping entries =>
    '\x7b' :: printEntries indented (level + 1) entries ++ lineBreak indented level ++ ['\x7d']

/-- The items of a list, each on a line of its own. -/
def printItems (indented : Bool) (level : Nat) : List Value → Text
  | [] => []
  | item :: items =>
    lineBreak indented level ++ printAt indented level item ++
      (if items.isEmpty then [] else ',' :: printItems indented level items)

/-- The entries of a mapping, each on a line of its own. -/
def printEntries (indented : Bool) (level : Nat) : List (Key × Value) → Text
  | [] => []
  | (k, v) :: entries =>
    lineBreak indented level ++ key k ++ [':', ' '] ++ printAt indented level v ++
      (if entries.isEmpty then [] else ',' :: printEntries indented level entries)

end

def compact (value : Value) : Text := printAt false 0 value

/-- A value with one item a line and two spaces for each level. -/
def indented (value : Value) : Text := printAt true 0 value

end CorpusSearch.Json
