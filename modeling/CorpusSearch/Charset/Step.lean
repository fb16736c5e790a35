-- Steps of a decoder: what stands at the start of the bytes, and how a text is put together from
-- such steps. Tables of characters by byte and by pair of bytes.
import CorpusSearch.Text.Basic

namespace CorpusSearch.Charset

def replacement : Char := '\ufffd'

/-- Why bytes have no text. -/
inductive Fault where
  /-- The name of the character set holds a zero. -/
  | zeroInName
  /-- The character set stands for no text at all. -/
  | undefined
  /-- The character set of domain names does not replace what is ill formed. -/
  | strictOnly
  /-- A byte past ASCII at this place. -/
  | notAscii (byte : UInt8) (place : Nat)
  /-- A single shift to a set that has no place for it. -/
  | noShiftedSet
  deriving DecidableEq, Repr

/-! ## Steps -/

/-- What stands at the start of bytes. The counts are of the bytes behind the first one. -/
inductive Step where
  /-- A text in the first byte and `more` behind it. -/
  | text (text : Text) (more : Nat)
  /-- Bytes that stand for nothing. -/
  | wrong (more : Nat)
  /-- Bytes that end within a character. -/
  | cut
  | fault (fault : Fault)
  deriving Repr

namespace Step

/-- A character in the first byte. -/
def char (c : Char) : Step := .text [c] 0

/-- The character of a byte below 0x80. -/
def ascii (byte : UInt8) : Step := .char (Char.ofNat byte.toNat)

/-- A text in the first byte and `more` behind it, if there is one; else the first byte stands for
nothing. -/
def ofText? (more : Nat) : Option Text → Step
  | some found => .text found more
  | none => .wrong 0

/-- The text of two bytes, if there is one. -/
def ofPair (text? : UInt8 → UInt8 → Option Text) (byte : UInt8) (rest : List UInt8) : Step :=
  match rest with
  | [] => .cut
  | second :: _ => .ofText? 1 (text? byte second)

/-- A character of ASCII, or the text of two bytes of which the first one is past ASCII. -/
def asciiOrPair (text? : UInt8 → UInt8 → Option Text) (byte : UInt8) (rest : List UInt8) : Step :=
  if byte < 0x80 then .ascii byte else .ofPair text? byte rest

end Step

/-- The text of bytes, step by step from a state; `done` holds the text so far, the last character
first. What stands for nothing becomes one replacement character, and so does a cut at the end. -/
def decodeFrom {σ : Type} (next : σ → UInt8 → List UInt8 → σ × Step) (state : σ) (done : Text)
    (bytes : List UInt8) : Except Fault Text :=
  match bytes with
  | [] => .ok done.reverse
  | byte :: rest =>
    match next state byte rest with
    | (state, .text text more) => decodeFrom next state (text.reverse ++ done) (rest.drop more)
    | (state, .wrong more) => decodeFrom next state (replacement :: done) (rest.drop more)
    | (_, .cut) => .ok (replacement :: done).reverse
    | (_, .fault fault) => .error fault
termination_by bytes.length
decreasing_by all_goals simp only [List.length_drop, List.length_cons]; omega

/-- The text of bytes whose steps keep no state. -/
def decodeBy (next : UInt8 → List UInt8 → Step) (bytes : List UInt8) : Except Fault Text :=
  decodeFrom (fun () byte rest => ((), next byte rest)) () [] bytes

/-! ## Tables -/

/-- The characters of ASCII and others above them. -/
def aboveAscii (upper : String) : Text := (List.range 128).map Char.ofNat ++ upper.toList

/-- Characters at consecutive codes of two bytes, as the first code and the characters; they agree
in the first byte. The replacement character stands at a code without one. -/
abbrev Runs := List (Nat × String)

/-- The character at a code, as a text. -/
def Runs.text? (runs : Runs) (code : Nat) : Option Text :=
  match runs with
  | [] => none
  | (first, characters) :: rest =>
    if first / 256 = code / 256 && first ≤ code then
      match characters.toList[code - first]? with
      | some c => if c = replacement then none else some [c]
      | none => Runs.text? rest code
    else Runs.text? rest code

def Runs.characters (runs : Runs) : Text :=
  (runs.flatMap fun run => run.2.toList).filter (· != replacement)

def code (first second : UInt8) : Nat := first.toNat * 256 + second.toNat

/-- Marks the characters of a text at their code points, as far as the marks reach. -/
def marked (size : Nat) (text : Text) : Array Bool :=
  text.foldl (fun marks c => marks.setIfInBounds c.toNat true) (Array.replicate size false)

/-- The characters from one code point up to another that a text does not hold, in order. -/
def others (first last : Nat) (text : Text) : Array Char :=
  let marks := marked (last + 1) text
  ((List.range' first (last + 1 - first)).filterMap fun n =>
    if h : n.isValidChar then
      if marks.getD n false then none else some (Char.ofNatAux n h)
    else none).toArray

end CorpusSearch.Charset
