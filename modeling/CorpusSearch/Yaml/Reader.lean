-- The value of a YAML text. Of several faults in well-formed nodes the one counts that lies least
-- deep, and of those the first.
import CorpusSearch.Text.Basic
import CorpusSearch.Value
import CorpusSearch.Yaml.Merged
import CorpusSearch.Yaml.Numeral

namespace CorpusSearch.Yaml

/-! ## Bytes in base 64

It only counts whether they are well formed and whether there are any. -/

namespace Binary

/-- Whether a character stands for six bits. -/
def isDigit (c : Char) : Bool := c.isAlphanum || c == '+' || c == '/'

/-- Reads digits in groups of four: `read` says how many of the group were read, `signs` how many
equals signs stand behind the last one, and `isEmpty` whether no byte is full yet. Equals signs may
fill a group up, and then all that follows is passed over, as other characters are anywhere. The
answer is whether there are no bytes, and none for a group that is not full. -/
def isEmptyFrom? (read signs : Nat) (isEmpty : Bool) : Text → Option Bool
  | [] => if read = 0 then some isEmpty else none
  | c :: rest =>
    if c = '=' then
      if read < 2 then isEmptyFrom? read signs isEmpty rest
      else if 4 ≤ read + signs + 1 then some isEmpty
      else isEmptyFrom? read (signs + 1) isEmpty rest
    else if isDigit c then isEmptyFrom? ((read + 1) % 4) 0 (isEmpty && read = 0) rest
    else isEmptyFrom? read signs isEmpty rest

/-- Whether bytes in base 64 are none at all, and none when they are ill formed. -/
def isEmpty? (text : Text) : Option Bool :=
  if text.all fun c => c.toNat < 128 then isEmptyFrom? 0 0 true text else none

end Binary

/-! ## Faults at depths -/

/-- A result, or the fault that counts, with the depth where it lies. -/
abbrev Judged (α : Type) := Except (Nat × Fault) α

/-- Two results; of two faults the one counts that lies less deep, and else the first. -/
def Judged.both {α β : Type} : Judged α → Judged β → Judged (α × β)
  | .ok a, .ok b => .ok (a, b)
  | .ok _, .error fault => .error fault
  | .error fault, .ok _ => .error fault
  | .error fault, .error fault' => .error (if fault'.1 < fault.1 then fault' else fault)

/-- A result whose fault lies at a depth. -/
def Judged.at {α : Type} (depth : Nat) (result : Except Fault α) : Judged α :=
  result.mapError fun fault => (depth, fault)

/-! ## Scalars -/

def truth (text : Text) : Except Fault Bool :=
  let word := text.lower
  if ["yes", "true", "on"].contains (String.ofList word) then .ok true
  else if ["no", "false", "off"].contains (String.ofList word) then .ok false
  else .error (.noTruth word)

def checkMoment (text : Text) : Except Fault Unit :=
  match Moment.ofText? (Tag.withoutFeed text) with
  | some moment => moment.check.mapError .moment
  | none => .error .noDate

def scalarValue (tag : Tag) (text : Text) : Except Fault Value :=
  match tag with
  | .null => .ok .null
  | .bool => (truth text).map .bool
  | .int => (Numeral.whole text).map .int
  | .float => (Numeral.float text).map .float
  | .text => .ok (.text text)
  | .moment => (checkMoment text).map fun _ => .other false
  | .binary => match Binary.isEmpty? text with
    | some isEmpty => .ok (.other isEmpty)
    | none => .error .malformed
  | _ => .error .malformed

/-! ## Nodes -/

/-- The key that a value can be; collections cannot be keys. -/
def key? : Value → Option Key
  | .null => some .null
  | .bool b => some (.bool b)
  | .int i => some (.int i)
  | .float d => some (.float d)
  | .text t => some (.text t)
  | .other _ => some .other
  | .list _ | .mapping _ => none

namespace Node

mutual

/-- The text of a scalar, or of what stands behind a lone equals sign in a mapping. -/
def scalarText? : Node → Option Text
  | .scalar _ text => some text
  | .mapping _ entries => entryText? entries
  | _ => none

/-- The text behind the first lone equals sign. -/
def entryText? : List (Node × Node) → Option Text
  | [] => none
  | (key, value) :: entries => if key.tag = .equals then value.scalarText? else entryText? entries

end

/-- The value of a node that is read as a scalar, at a depth. -/
def plainValue (depth : Nat) (node : Node) : Judged Value :=
  Judged.at depth <| match node.scalarText? with
    | some text => scalarValue node.tag text
    | none => .error .malformed

/-- The key that a node is, at a depth. -/
def key (depth : Nat) (node : Node) : Judged Key := do
  if node.tag.isCollection then throw (depth, .malformed)
  match key? (← node.plainValue depth) with
  | some key => return key
  | none => throw (depth, .malformed)

mutual

/-- The value of a node at a depth. What is wrong with a collection or its parts lies one step
deeper. -/
def valueAt (depth : Nat) : Node → Judged Value
  | .scalar tag text =>
    plainValue (if tag.isCollection then depth + 1 else depth) (.scalar tag text)
  | .sequence tag items =>
    if tag = .sequence then (valuesAt (depth + 1) items).map .list
    else if tag = .orderedMapping || tag = .pairs then
      (pairsAt (depth + 1) items).map .list
    else .error (if tag.isCollection then depth + 1 else depth, .malformed)
  | .mapping tag entries =>
    if tag = .mapping then
      (entriesAt (depth + 1) entries).map fun entries => .mapping (Entries.ofList entries)
    else if tag = .set then
      (entriesAt (depth + 1) entries).map fun entries => .other entries.isEmpty
    else if tag.isCollection then .error (depth + 1, .malformed)
    else plainValue depth (.mapping tag entries)
  | .around => .ok (.other false)

/-- The values of the items of a sequence. -/
def valuesAt (depth : Nat) : List Node → Judged (List Value)
  | [] => .ok []
  | item :: items =>
    ((item.valueAt depth).both (valuesAt depth items)).map fun (value, values) => value :: values

/-- The keys and values of the entries of a mapping. -/
def entriesAt (depth : Nat) : List (Node × Node) → Judged (List (Key × Value))
  | [] => .ok []
  | (key, value) :: entries =>
    (((key.key depth).both (value.valueAt depth)).both (entriesAt depth entries)).map
      fun (entry, entries) => entry :: entries

/-- The pairs of an ordered mapping, each of which is a mapping of one entry. -/
def pairsAt (depth : Nat) : List Node → Judged (List Value)
  | [] => .ok []
  | .mapping _ [(key, value)] :: items =>
    (((key.valueAt depth).both (value.valueAt depth)).both (pairsAt depth items)).map
      fun (_, pairs) => .other false :: pairs
  | _ :: _ => .error (depth, .malformed)

end

def value (node : Node) : Except Fault Value := (node.merged.valueAt 0).mapError (·.2)

end Node

/-- The value of a YAML text. An empty text is null. -/
def read (text : Text) : Except Fault Value := do (← Node.ofTokens (tokensOf text)).value

end CorpusSearch.Yaml
