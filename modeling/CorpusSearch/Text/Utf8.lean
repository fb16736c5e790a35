-- Texts as bytes in UTF-8, and the way back with replacement characters for ill-formed bytes; and
-- surrogate pairs: two units of 16 bits that stand for one character past U+FFFF.
import CorpusSearch.Text.Basic

namespace CorpusSearch.Text

def utf8 (text : Text) : List UInt8 := text.flatMap String.utf8EncodeChar

def byteSize (text : Text) : Nat := text.foldr (fun c size => c.utf8Size + size) 0

theorem length_utf8 (text : Text) : text.utf8.length = text.byteSize := by
  unfold utf8 byteSize
  induction text with
  | nil => rfl
  | cons c rest ih => simp [String.length_utf8EncodeChar, ih]

/-! ## Decoding -/

/-- What the bytes read so far of one character allow: the count of bytes that must still follow,
the bounds of the next one, and the value of the bits read. -/
structure Utf8State where
  missing : Nat := 0
  low : Nat := 0x80
  high : Nat := 0xBF
  bits : Nat := 0

/-- The state behind the first byte of a character of several bytes. The bounds of the second byte
leave out overlong forms, surrogates and numbers past U+10FFFF. -/
def utf8Lead? (byte : Nat) : Option Utf8State :=
  if 0xC2 ≤ byte && byte ≤ 0xDF then some { missing := 1, bits := byte - 0xC0 }
  else if byte = 0xE0 then some { missing := 2, low := 0xA0, bits := 0 }
  else if byte = 0xED then some { missing := 2, high := 0x9F, bits := 0xD }
  else if 0xE1 ≤ byte && byte ≤ 0xEF then some { missing := 2, bits := byte - 0xE0 }
  else if byte = 0xF0 then some { missing := 3, low := 0x90, bits := 0 }
  else if byte = 0xF4 then some { missing := 3, high := 0x8F, bits := 4 }
  else if 0xF1 ≤ byte && byte ≤ 0xF3 then some { missing := 3, bits := byte - 0xF0 }
  else none

/-- Reads a byte where a character starts. -/
def utf8Start (byte : Nat) : Text × Utf8State :=
  if byte < 0x80 then ([Char.ofNat byte], {})
  else match utf8Lead? byte with
    | some state => ([], state)
    | none => (['\ufffd'], {})

/-- Reads a byte. A byte that cannot continue the character that is being read ends it as ill
formed and starts the next one. -/
def utf8Step (state : Utf8State) (byte : Nat) : Text × Utf8State :=
  if state.missing = 0 then utf8Start byte
  else if state.low ≤ byte && byte ≤ state.high then
    let bits := state.bits * 64 + (byte - 0x80)
    if state.missing = 1 then ([Char.ofNat bits], {})
    else ([], { missing := state.missing - 1, bits })
  else
    let (text, next) := utf8Start byte
    ('\ufffd' :: text, next)

/-- The text of bytes behind those that led to a state. -/
def ofUtf8From (state : Utf8State) : List UInt8 → Text
  | [] => if state.missing = 0 then [] else ['\ufffd']
  | byte :: rest =>
    let (text, next) := utf8Step state byte.toNat
    text ++ ofUtf8From next rest

/-- The text of bytes in UTF-8; each longest ill-formed part of a character becomes one replacement
character. -/
def ofUtf8 (bytes : List UInt8) : Text := ofUtf8From {} bytes

/-! ## Surrogate pairs -/

/-- Whether a unit is the first half of a surrogate pair. -/
def isHighHalf (unit : Nat) : Bool := 0xD800 ≤ unit && unit < 0xDC00

/-- Whether a unit is the second half of a surrogate pair. -/
def isLowHalf (unit : Nat) : Bool := 0xDC00 ≤ unit && unit < 0xE000

/-- The character of the two halves of a surrogate pair. -/
def ofHalves (high low : Nat) : Char :=
  Char.ofNat (0x10000 + (high - 0xD800) * 0x400 + (low - 0xDC00))

end CorpusSearch.Text
