-- UTF-7: sections between a plus sign and a hyphen hold units of 16 bits as digits of six bits.
import CorpusSearch.Charset.Step
import CorpusSearch.Text.Utf8

namespace CorpusSearch.Charset.Utf7

/-- The value of a digit of six bits. -/
def digit? (byte : UInt8) : Option Nat :=
  let n := byte.toNat
  if 0x41 ≤ n && n ≤ 0x5A then some (n - 0x41)
  else if 0x61 ≤ n && n ≤ 0x7A then some (n - 0x61 + 26)
  else if 0x30 ≤ n && n ≤ 0x39 then some (n - 0x30 + 52)
  else if n = 0x2B then some 62
  else if n = 0x2F then some 63
  else none

/-- What a section has left over: bits that make no unit yet, and the first half of a surrogate
pair. -/
structure Section where
  bits : Nat := 0
  count : Nat := 0
  half : Option Nat := none
  deriving DecidableEq, Repr

/-- Whether a section may end here: no digit is left over, and the bits that fill up are zero. -/
def Section.isWhole (rest : Section) : Bool := rest.count < 6 && rest.bits = 0

/-- The text of a unit. Half of a pair that stands alone has no character. -/
def Section.unit (rest : Section) (unit : Nat) : Text × Option Nat :=
  let single : Text × Option Nat :=
    if Text.isHighHalf unit then ([], some unit)
    else if Text.isLowHalf unit then ([replacement], none)
    else ([Char.ofNat unit], none)
  match rest.half with
  | none => single
  | some high =>
    if Text.isLowHalf unit then ([Text.ofHalves high unit], none)
    else (replacement :: single.1, single.2)

/-- The text that a digit completes, and what is left over behind it. -/
def Section.push (rest : Section) (digit : Nat) : Text × Section :=
  let bits := rest.bits * 64 + digit
  let count := rest.count + 6
  if count < 16 then ([], { rest with bits, count })
  else
    let left := count - 16
    let weight := 1 <<< left
    let (text, half) := rest.unit (bits / weight)
    (text, { bits := bits % weight, count := left, half })

/-- The step of a byte outside of a section, and the section that it opens. -/
def plain (byte : UInt8) (rest : List UInt8) : Option Section × Step :=
  if byte = 0x2B then
    match rest with
    | [] => (some {}, .text [] 0)
    | next :: _ =>
      if next = 0x2D then (none, .text ['+'] 1)
      else if (digit? next).isNone then (none, .wrong 1)
      else (some {}, .text [] 0)
  else if byte < 0x80 then (none, .ascii byte)
  else (none, .wrong 0)

/-- A step with a text before it. -/
def behind (before : Text) : Step → Step
  | .text text more => .text (before ++ text) more
  | .wrong more => .text (before ++ [replacement]) more
  | step => step

/-- What stands at the start of bytes, inside of a section or outside. A section must be whole at
its end. -/
def step (state : Option Section) (byte : UInt8) (rest : List UInt8) : Option Section × Step :=
  match state with
  | none => plain byte rest
  | some left =>
    match digit? byte with
    | some digit =>
      let (text, next) := left.push digit
      let isBroken := rest.isEmpty && (next.half.isSome || !next.isWhole)
      (some next, .text (text ++ if isBroken then [replacement] else []) 0)
    | none =>
      let lone : Text := if left.half.isSome && byte < 0x80 then [replacement] else []
      if !left.isWhole then (none, .wrong 0)
      else if byte = 0x2D then (none, .text lone 0)
      else
        let (state, step) := plain byte rest
        (state, behind lone step)

def decode (bytes : List UInt8) : Except Fault Text := decodeFrom step none [] bytes

end CorpusSearch.Charset.Utf7
