-- Punycode: the characters of ASCII first, and behind the last hyphen the places of the others as
-- numbers of varying length.
import CorpusSearch.Charset.Step

namespace CorpusSearch.Charset.Punycode

/-- The value of a digit: a letter of either case, or a decimal digit behind these. -/
def digit? (c : Char) : Option Nat :=
  if c.isAlpha then some (c.toLower.toNat - 'a'.toNat)
  else if c.isDigit then some (c.toNat - '0'.toNat + 26)
  else none

/-- The least value of a digit that is not the last one, at a place in its number. -/
def threshold (place bias : Nat) : Nat := min 26 (max 1 (36 * (place + 1) - bias))

/-- Divides until a difference is small, counting the divisions. -/
def shrink (delta divisions : Nat) : Nat × Nat :=
  if 455 < delta then shrink (delta / 35) (divisions + 1) else (delta, divisions)
termination_by delta
decreasing_by exact Nat.div_lt_self (by omega) (by omega)

/-- The bias behind a difference in a text of some size. -/
def adapt (delta : Nat) (isFirst : Bool) (size : Nat) : Nat :=
  let scaled := if isFirst then delta / 700 else delta / 2
  let (small, divisions) := shrink (scaled + scaled / size) 0
  36 * divisions + 36 * small / (small + 38)

/-- The number at the start of digits, and what stands behind it. -/
def number? (bias : Nat) (place weight value : Nat) : Text → Option (Nat × Text)
  | [] => none
  | c :: rest =>
    match digit? c with
    | none => none
    | some digit =>
      let least := threshold place bias
      let value := value + digit * weight
      if digit < least then some (value, rest)
      else number? bias (place + 1) (weight * (36 - least)) value rest

theorem length_of_number? {bias place weight value : Nat} {text : Text} {found : Nat × Text}
    (h : number? bias place weight value text = some found) :
    found.2.length < text.length := by
  induction text generalizing place weight value with
  | nil => simp [number?] at h
  | cons c rest ih =>
    simp only [number?] at h
    split at h
    · simp at h
    · split at h
      · simp only [Option.some.injEq] at h
        subst h
        simp
      · exact Nat.lt_succ_of_lt (ih h)

/-- Where the characters past ASCII go on: the code point, the place, the bias, and whether none has
been put in yet. -/
structure State where
  value : Nat := 0x80
  place : Nat := 0
  bias : Nat := 72
  isFirst : Bool := true

/-- The character of a code point that may be too large or half of a pair. -/
def character (value : Nat) : Char :=
  if h : value.isValidChar then Char.ofNatAux value h else replacement

/-- Puts the characters of some numbers into a text, up to what is no number. A code point that is
too large becomes a question mark. -/
def insertAll (state : State) (done digits : Text) : Text :=
  match _h : number? state.bias 0 1 0 digits with
  | none => done
  | some (delta, rest) =>
    let size := done.length + 1
    let next := state.place + delta
    let value := state.value + next / size
    let value := if 0x10FFFF < value then '?'.toNat else value
    let place := next % size
    insertAll
      { value, place := place + 1, bias := adapt delta state.isFirst size, isFirst := false }
      (done.take place ++ character value :: done.drop place) rest
termination_by digits.length
decreasing_by exact length_of_number? _h

/-- The text of bytes. Behind the last hyphen all has to be ASCII. -/
def decode (bytes : List UInt8) : Except Fault Text :=
  let behind := (bytes.reverse.takeWhile (· != 0x2D)).reverse
  let before := bytes.take (bytes.length - behind.length - 1)
  match behind.findIdx? (0x80 ≤ ·) with
  | some place => .error (.notAscii (behind.getD place 0) place)
  | none =>
    let characters (bytes : List UInt8) : Text :=
      bytes.map fun byte => if byte < 0x80 then Char.ofNat byte.toNat else replacement
    .ok (insertAll {} (characters before) (characters behind))

end CorpusSearch.Charset.Punycode
