-- Sections of settings, and values of a wanted type with the dotted key for the fault.
import CorpusSearch.Settings.Fault
import CorpusSearch.Text.Blank

namespace CorpusSearch.Settings

/-! ## Sections -/

/-- The section of a name. A section that is absent or null is refused if it is required, and else
empty. -/
def sectionOf (required : Bool) (name : Text) (raw : Entries) : Except Fault Entries :=
  match raw.field? name with
  | none | some .null => if required then .error (.missing name) else .ok []
  | some (.mapping entries) => .ok entries
  | some _ => .error (.notObject name)

/-- The value of a field that has to be there. -/
def required (entries : Entries) (field key : Text) : Except Fault Value :=
  match entries.field? field with
  | none => .error (.missing key)
  | some value => .ok value

/-- The value of a field, or another one when the field is absent. -/
def optional (entries : Entries) (field : Text) (other : Value) : Value :=
  (entries.field? field).getD other

/-! ## Values of a type -/

def asText (key : Text) : Value → Except Fault Text
  | .text t => .ok t
  | _ => .error (.notText key)

def asTruth (key : Text) : Value → Except Fault Bool
  | .bool b => .ok b
  | _ => .error (.notTruth key)

def asWhole (key : Text) : Value → Except Fault Int
  | .int i => .ok i
  | _ => .error (.notWhole key)

/-- A floating-point number; a whole number counts as one as far as there are such numbers. -/
def asNumber (key : Text) : Value → Except Fault Double
  | .float d => .ok d
  | .int i => match Double.ofInt? i with
    | some d => .ok d
    | none => .error .tooLarge
  | _ => .error (.notNumber key)

/-- The items of a list as texts, `index` being the number of the first one. -/
def asTexts (key : Text) : (index : Nat) → List Value → Except Fault (List Text)
  | _, [] => .ok []
  | index, item :: items => do
    let text ← asText (key ++ ['['] ++ Number.digits index ++ [']']) item
    return text :: (← asTexts key (index + 1) items)

def asTextList (key : Text) : Value → Except Fault (List Text)
  | .list items => asTexts key 0 items
  | _ => .error (.notList key)

/-- A list of texts; a text counts as the list of it. -/
def asTextOrList (key : Text) : Value → Except Fault (List Text)
  | .text t => .ok [t]
  | value => asTextList key value

/-- Entries with texts as keys and lists of texts as values. -/
def asTextListEntries (key : Text) : List (Key × Value) → Except Fault (List (Text × List Text))
  | [] => .ok []
  | (.text name, value) :: entries => do
    let texts ← asTextOrList (key ++ ['.'] ++ name) value
    return (name, texts) :: (← asTextListEntries key entries)
  | _ :: _ => .error (.keyNotText key)

def asTextListMapping (key : Text) : Value → Except Fault (List (Text × List Text))
  | .mapping entries => asTextListEntries key entries
  | _ => .error (.notObject key)

/-! ## Checks -/

/-- Refuses a whole number that is not positive. -/
def checkPositive (key : Text) (number : Int) : Except Fault Unit :=
  if number ≤ 0 then .error (.notPositive key) else .ok ()

/-- Refuses a number that is zero or less. -/
def checkPositiveNumber (key : Text) (number : Double) : Except Fault Unit :=
  if number.isAtMostZero then .error (.notPositive key) else .ok ()

def checkNotBlank (key text : Text) : Except Fault Unit :=
  if text.strip.isEmpty then .error (.blank key) else .ok ()

end CorpusSearch.Settings
