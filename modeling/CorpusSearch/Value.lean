-- Trees of data: what a catalog file or a settings file holds.
import CorpusSearch.Number.Shortest
import CorpusSearch.Text.Quoted

namespace CorpusSearch

/-- The key of an entry. A settings file may have keys that are no texts; `other` stands for keys of
kinds without a use, such as dates. -/
inductive Key where
  | null
  | bool (b : Bool)
  | int (i : Int)
  | float (d : Double)
  | text (t : Text)
  | other
  deriving DecidableEq, Repr, Inhabited

/-- A tree of data. The entries of a mapping have their order; `other` stands for values of kinds
without a use, such as dates and sets. -/
inductive Value where
  | null
  | bool (b : Bool)
  | int (i : Int)
  | float (d : Double)
  | text (t : Text)
  | other (isEmpty : Bool)
  | list (items : List Value)
  | mapping (entries : List (Key × Value))
  deriving BEq, Repr, Inhabited

abbrev Entries := List (Key × Value)

namespace Key

/-- The same key for every way to write one number: a truth value counts as 1 or 0, and a float
that is whole as that whole number. -/
def plain : Key → Key
  | .bool b => .int (if b then 1 else 0)
  | .float d => match d.toInt? with
    | some i => .int i
    | none => .float d
  | k => k

/-- Whether two keys name the same entry. -/
def same (k k' : Key) : Bool := k.plain == k'.plain

end Key

namespace Entries

def get? (key : Key) (entries : Entries) : Option Value :=
  (entries.find? fun entry => entry.1.same key).map (·.2)

/-- The value of a key that is a text. -/
def field? (name : Text) (entries : Entries) : Option Value := get? (.text name) entries

/-- Gives a key a value: an entry with this key keeps its place and its spelling of the key, and
otherwise a new entry comes last. -/
def put (key : Key) (value : Value) : Entries → Entries
  | [] => [(key, value)]
  | (k, v) :: rest => if k.same key then (k, value) :: rest else (k, v) :: put key value rest

/-- The mapping that arises from entries read one after another. -/
def ofList (entries : List (Key × Value)) : Entries :=
  entries.foldl (fun done entry => put entry.1 entry.2 done) []

end Entries

/-! ## Values in messages -/

namespace Key

/-- A key as a message shows it. -/
def shown : Key → Text
  | .null => "None"
  | .bool b => if b then "True" else "False"
  | .int i => Number.decimal i
  | .float d => d.text
  | .text t => Text.quoted t
  | .other => "..."

end Key

namespace Value

mutual

/-- A value as a message shows it: texts quoted, lists in brackets, mappings in braces. -/
def shown : Value → Text
  | .null => "None"
  | .bool b => if b then "True" else "False"
  | .int i => Number.decimal i
  | .float d => d.text
  | .text t => Text.quoted t
  | .other _ => "..."
  | .list items => ['['] ++ shownItems items ++ [']']
  | .mapping entries => ['\x7b'] ++ shownEntries entries ++ ['\x7d']

/-- The items of a list with commas between them. -/
def shownItems : List Value → Text
  | [] => []
  | [item] => shown item
  | item :: items => shown item ++ [',', ' '] ++ shownItems items

/-- The entries of a mapping with commas between them. -/
def shownEntries : List (Key × Value) → Text
  | [] => []
  | [(k, v)] => k.shown ++ [':', ' '] ++ shown v
  | (k, v) :: entries => k.shown ++ [':', ' '] ++ shown v ++ [',', ' '] ++ shownEntries entries

end

/-- Whether a value counts as true: nothing, zero and everything empty do not. -/
def isTrue : Value → Bool
  | .null => false
  | .bool b => b
  | .int i => i ≠ 0
  | .float d => d.toInt? ≠ some 0
  | .text t => !t.isEmpty
  | .other isEmpty => !isEmpty
  | .list items => !items.isEmpty
  | .mapping entries => !entries.isEmpty

/-- A value as a plain text: a text stands for itself. -/
def plainText : Value → Text
  | .text t => t
  | v => v.shown

end Value

end CorpusSearch
