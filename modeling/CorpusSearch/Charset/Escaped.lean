-- Sets that are switched by escape sequences. Two or three sets are at hand at a time; an escape
-- sequence puts a set into one of these places.
import CorpusSearch.Charset.Chinese
import CorpusSearch.Charset.Japanese
import CorpusSearch.Charset.Korean
import CorpusSearch.Charset.Table.Iso8859

namespace CorpusSearch.Charset.Escaped

/-! ## Sets at hand -/

/-- A set that an escape sequence can name. -/
inductive Member where
  | ascii
  | latin
  | greek
  | romanJis
  | kanaJis
  | gb2312
  | jisx0208
  | ksx1001
  | jisx0212
  | firstPlane (edition : JisX0213.Edition)
  | secondPlane
  deriving DecidableEq, Repr

/-- The members whose characters take two bytes. -/
def Member.isDouble : Member → Bool
  | .ascii | .latin | .greek | .romanJis | .kanaJis => false
  | .gb2312 | .jisx0208 | .ksx1001 | .jisx0212 | .firstPlane _ | .secondPlane => true

/-- The text of a code in a member; a code of one byte is that byte. A tilde of two bytes is a
narrow one here. -/
def Member.text? (code : Nat) : Member → Option Text
  | .ascii => some [Char.ofNat code]
  | .latin | .greek => none
  | .romanJis => if code < 0x7F then some [JisX0201.latin (UInt8.ofNat code)] else none
  | .kanaJis =>
    let byte := UInt8.ofNat (code + 0x80)
    if JisX0201.isKana byte then some [JisX0201.kana byte] else none
  | .gb2312 => Gb2312.all.text? code
  | .jisx0208 => JisX0208.all.text? code
  | .ksx1001 => KsX1001.all.text? code
  | .jisx0212 => JisX0212.all.text? code
  | .firstPlane edition =>
    if code = 0x2232 then some ['~'] else JisX0213.firstPlane? edition code
  | .secondPlane => JisX0213.secondPlane.text? code

/-- What a family of escape sequences knows: the members by the last byte of their sequence, whether
two of the places are switched by shifts, whether a third place is used for single characters,
and whether a sequence may announce a later edition. -/
structure Family where
  members : List (UInt8 × Member)
  hasShifts : Bool := false
  hasThird : Bool := false
  hasAnnouncement : Bool := true
  deriving DecidableEq, Repr

/-- The member of a last byte; ASCII belongs to every family. -/
def Family.member? (family : Family) (double : Bool) (last : UInt8) : Option Member :=
  if !double && last = 0x42 then some .ascii
  else (family.members.find? fun entry => entry.1 = last && entry.2.isDouble = double).map (·.2)

structure State where
  first : Member := .ascii
  second : Member := .ascii
  third : Member := .ascii
  /-- Whether the second place is in use. -/
  isShifted : Bool := false
  /-- Whether an unknown escape sequence is being passed through. -/
  isPassing : Bool := false

/-! ## Escape sequences -/

inductive Extent where
  /-- The count of its bytes. -/
  | bytes (count : Nat)
  | cut
  | endless
  deriving DecidableEq, Repr

/-- Whether a byte ends an escape sequence. -/
def isEnd (byte : UInt8) : Bool := 0x40 ≤ byte && byte ≤ 0x5A

/-- The end of an escape sequence, looked for from a place in it. An announcement is skipped with
the escape behind it. -/
def extentFrom (skips : Bool) (place : Nat) (bytes : List UInt8) : Extent :=
  if 16 ≤ place then .endless
  else match bytes with
    | [] => .cut
    | byte :: rest =>
      if isEnd byte then .bytes (place + 1)
      else if skips && byte = 0x26 && rest.head? = some 0x40 then
        extentFrom skips (place + 3) (rest.drop 2)
      else extentFrom skips (place + 1) rest
termination_by bytes.length
decreasing_by all_goals simp only [List.length_drop, List.length_cons]; omega

inductive Slot where
  | first
  | second
  | third
  deriving DecidableEq, Repr

/-- The state with a member put into a place. -/
def State.place (member : Member) (state : State) : Slot → State
  | .first => { state with first := member }
  | .second => { state with second := member }
  | .third => { state with third := member }

/-- What the bytes behind an escape put where: the place, whether the set is one of two bytes, and
the last byte. An announcement is two bytes before the sequence that it announces. -/
def Family.order? (family : Family) : List UInt8 → Option (Slot × Bool × UInt8)
  | [0x24, last] => some (.first, true, last)
  | [0x28, last] => some (.first, false, last)
  | [0x29, last] => some (.second, false, last)
  | [0x2E, last] => if family.hasThird then some (.third, false, last) else none
  | [0x24, 0x28, last] => some (.first, true, last)
  | [0x24, 0x29, last] => some (.second, true, last)
  | [_, _, 0x1B, 0x24, 0x42] =>
    if family.hasAnnouncement then some (.first, true, 0x42) else none
  | _ => none

/-- The step of a whole escape sequence, given the bytes behind the escape. -/
def Family.switch (family : Family) (state : State) (behind : List UInt8) : State × Step :=
  let member? := (family.order? behind).bind fun (slot, double, last) =>
    (family.member? double last).map fun member => (slot, member)
  match member? with
  | some (slot, member) => (state.place member slot, .text [] behind.length)
  | none => (state, .wrong behind.length)

/-- Greek signs that were added after escape sequences for them. -/
def lateGreek : List UInt8 := [0x24, 0x25, 0x2A]

/-- The step of a single character of the third place. -/
def State.single (state : State) (byte : UInt8) : Step :=
  match state.third with
  | .ascii => if byte < 0x80 then .text [Char.ofNat byte.toNat] 2 else .wrong 2
  | .latin => if byte < 0x80 then .text [Char.ofNat (byte.toNat + 0x80)] 2 else .wrong 2
  | .greek =>
    match Iso8859.part7[(byte ^^^ 0x80).toNat]? with
    | some c => if c = replacement || lateGreek.contains byte then .wrong 2 else .text [c] 2
    | none => .wrong 2
  | _ => .fault .noShiftedSet

/-! ## Steps -/

def Family.escape (family : Family) (state : State) (rest : List UInt8) : State × Step :=
  match rest with
  | [] => (state, .cut)
  | kind :: behind =>
    if [0x28, 0x29, 0x24, 0x2E, 0x26].contains kind then
      match extentFrom family.hasAnnouncement 1 rest with
      | .bytes count => family.switch state (rest.take (count - 1))
      | .cut => (state, .cut)
      | .endless => (state, .wrong 0)
    else if family.hasThird && kind = 0x4E then
      match behind with
      | [] => (state, .cut)
      | byte :: _ => (state, state.single byte)
    else ({ state with isPassing := true }, .char '\x1b')

/-- The step of a character in the set that is in use. -/
def State.character (state : State) (byte : UInt8) (rest : List UInt8) : Step :=
  let member := if state.isShifted then state.second else state.first
  if member.isDouble then
    match rest with
    | [] => .cut
    | second :: _ =>
      match member.text? (code byte second) with
      | some text => .text text 1
      | none => .wrong 1
  else match member.text? byte.toNat with
    | some text => .text text 0
    | none => .wrong 0

/-- What stands at the start of bytes. A line end goes back to the first place. -/
def Family.step (family : Family) (state : State) (byte : UInt8) (rest : List UInt8) :
    State × Step :=
  if state.isPassing then
    ({ state with isPassing := !isEnd byte }, .char (Char.ofNat byte.toNat))
  else if byte = 0x1B then family.escape state rest
  else if byte = 0x0F && family.hasShifts then ({ state with isShifted := false }, .text [] 0)
  else if byte = 0x0E && family.hasShifts then ({ state with isShifted := true }, .text [] 0)
  else if byte = 0x0A then ({ state with isShifted := false }, .char '\n')
  else if byte < 0x20 then (state, .ascii byte)
  else if 0x80 ≤ byte then (state, .wrong 0)
  else (state, state.character byte rest)

def Family.decode (family : Family) (bytes : List UInt8) : Except Fault Text :=
  decodeFrom family.step {} [] bytes

/-! ## The families -/

/-- The members of every Japanese family but the ones for JIS X 0213. -/
def japanese : List (UInt8 × Member) :=
  [(0x42, .jisx0208), (0x40, .jisx0208), (0x4A, .romanJis)]

def jp : Family := { members := japanese }

def jp1 : Family := { members := japanese ++ [(0x44, .jisx0212)] }

/-- Japanese with Chinese, Korean and the letters of Western Europe and Greece. -/
def jp2 : Family where
  members := japanese ++
    [(0x44, .jisx0212), (0x43, .ksx1001), (0x41, .gb2312), (0x41, .latin), (0x46, .greek)]
  hasThird := true

/-- Japanese with the first edition of JIS X 0213. -/
def jp3 : Family where
  members := [(0x42, .jisx0208), (0x4F, .firstPlane .first), (0x50, .secondPlane)]

/-- Japanese with the second edition of JIS X 0213. -/
def jp2004 : Family where
  members := [(0x42, .jisx0208), (0x51, .firstPlane .second), (0x50, .secondPlane)]

/-- Japanese with the supplement and narrow kana. -/
def jpKana : Family := { members := japanese ++ [(0x44, .jisx0212), (0x49, .kanaJis)] }

def kr : Family where
  members := [(0x43, .ksx1001)]
  hasShifts := true
  hasAnnouncement := false

end CorpusSearch.Charset.Escaped
