-- Korean character sets: KS X 1001, its extension by the other syllables, and the set that composes
-- its syllables of letters.
import CorpusSearch.Charset.Table.KsX1001

namespace CorpusSearch.Charset

/-! ## Syllables of letters -/

namespace Hangul

/-- The letters that start a syllable. -/
def leads : Text := "ㄱㄲㄴㄷㄸㄹㅁㅂㅃㅅㅆㅇㅈㅉㅊㅋㅌㅍㅎ"

/-- The letters that end a syllable. -/
def tails : Text := "ㄱㄲㄳㄴㄵㄶㄷㄹㄺㄻㄼㄽㄾㄿㅀㅁㅂㅄㅅㅆㅇㅈㅊㅋㅌㅍㅎ"

/-- The syllable of a lead, a vowel and a tail, where zero is no tail. -/
def syllable (lead vowel tail : Nat) : Char := Char.ofNat (0xAC00 + (lead * 21 + vowel) * 28 + tail)

/-- The first vowel as a letter of its own. -/
def firstVowel : Nat := 0x314F

/-- A part of a syllable: left open, or at a place among the letters. -/
inductive Part where
  | blank
  | letter (place : Nat)
  deriving DecidableEq, Repr

/-- The text of three parts: a whole syllable, a single letter or a wide space. -/
def text? : Part → Part → Part → Option Text
  | .blank, .blank, .blank => some ['\u3000']
  | .blank, .blank, .letter tail => (tails[tail - 1]?).map fun c => [c]
  | .blank, .letter vowel, .blank => some [Char.ofNat (firstVowel + vowel)]
  | .letter lead, .blank, .blank => (leads[lead]?).map fun c => [c]
  | .letter lead, .letter vowel, .blank => some [syllable lead vowel 0]
  | .letter lead, .letter vowel, .letter tail => some [syllable lead vowel tail]
  | .blank, .letter _, .letter _ | .letter _, .blank, .letter _ => none

end Hangul

/-! ## KS X 1001 -/

namespace KsX1001

def all : Runs := signs ++ syllables ++ ideographs

/-- The text of two bytes that both have the highest bit set. -/
def text? (first second : UInt8) : Option Text :=
  if 0x80 ≤ first && 0x80 ≤ second then all.text? (code first second - 0x8080) else none

/-- The byte before each letter of a composed syllable. -/
def letterMark : UInt8 := 0xA4

/-- The byte that stands for no letter. -/
def filler : UInt8 := 0xD4

def letter (byte : UInt8) : Char := Char.ofNat (0x3131 + (byte.toNat - 0xA1))

/-- The place of the consonant of a byte in a row of letters. -/
def consonant? (row : Text) (byte : UInt8) : Option Nat :=
  if 0xA1 ≤ byte && byte ≤ 0xBE then row.idxOf? (letter byte) else none

/-- The place of the vowel of a byte. -/
def vowel? (byte : UInt8) : Option Nat :=
  if 0xBF ≤ byte && byte ≤ 0xD3 then some (byte.toNat - 0xBF) else none

/-- The place of the last letter of a byte, where zero is none. -/
def tail? (byte : UInt8) : Option Nat :=
  if byte = filler then some 0 else (consonant? Hangul.tails byte).map (· + 1)

/-- The syllable of three letters. -/
def composed? (lead vowel tail : UInt8) : Option Text := do
  return [Hangul.syllable (← consonant? Hangul.leads lead) (← vowel? vowel) (← tail? tail)]

/-- What stands at the start of bytes. A filler starts a syllable that is composed of letters. -/
def step (byte : UInt8) (rest : List UInt8) : Step :=
  match rest with
  | 0xD4 :: behind =>
    if byte = letterMark then
      match behind with
      | mark :: lead :: mark' :: vowel :: mark'' :: tail :: _ =>
        if mark = letterMark && mark' = letterMark && mark'' = letterMark then
          .ofText? 7 (composed? lead vowel tail)
        else .wrong 0
      | _ => .cut
    else .asciiOrPair text? byte rest
  | _ => .asciiOrPair text? byte rest

end KsX1001

/-! ## The other syllables -/

namespace Unified

/-- The syllables that KS X 1001 lacks, in the order of their code points. -/
def syllables : Array Char := others 0xAC00 0xD7A3 KsX1001.all.characters

/-- The column of a second byte: capital letters, small letters, and all from 0x81 on. -/
def column? (second : Nat) : Option Nat :=
  if 0x41 ≤ second && second ≤ 0x5A then some (second - 0x41)
  else if 0x61 ≤ second && second ≤ 0x7A then some (second - 0x61 + 26)
  else if 0x81 ≤ second && second ≤ 0xFE then some (second - 0x81 + 52)
  else none

/-- The place of two bytes among the syllables: full rows of 178 columns, and then the 84 columns
before each row of KS X 1001. -/
def place? (first second : Nat) : Option Nat :=
  match column? second with
  | none => none
  | some column =>
    if 0x81 ≤ first && first ≤ 0xA0 then some ((first - 0x81) * 178 + column)
    else if 0xA1 ≤ first && column < 84 then some (32 * 178 + (first - 0xA1) * 84 + column)
    else none

def text? (first second : UInt8) : Option Text :=
  KsX1001.text? first second <|>
    ((place? first.toNat second.toNat).bind (syllables[·]?)).map fun c => [c]

end Unified

/-! ## Composed syllables -/

namespace Johab

open Hangul

/-- The lead that five bits stand for. -/
def lead? (bits : Nat) : Option Part :=
  if bits = 1 then some .blank
  else if 2 ≤ bits && bits ≤ 20 then some (.letter (bits - 2))
  else none

/-- The vowel that five bits stand for. -/
def vowel? (bits : Nat) : Option Part :=
  if bits = 2 then some .blank
  else if 3 ≤ bits && bits ≤ 7 then some (.letter (bits - 3))
  else if 10 ≤ bits && bits ≤ 15 then some (.letter (bits - 5))
  else if 18 ≤ bits && bits ≤ 23 then some (.letter (bits - 7))
  else if 26 ≤ bits && bits ≤ 29 then some (.letter (bits - 9))
  else none

/-- The tail that five bits stand for. -/
def tail? (bits : Nat) : Option Part :=
  if bits = 1 then some .blank
  else if 2 ≤ bits && bits ≤ 17 then some (.letter (bits - 1))
  else if 19 ≤ bits && bits ≤ 29 then some (.letter (bits - 2))
  else none

/-- The text of three times five bits. -/
def letters? (code : Nat) : Option Text := do
  text? (← lead? (code / 1024 % 32)) (← vowel? (code / 32 % 32)) (← tail? (code % 32))

/-- The code in KS X 1001 of two bytes: two of its rows have one first byte. -/
def signCode? (first second : Nat) : Option Nat :=
  let gap := second < 0x31 || (0x7F ≤ second && second < 0x91) || second = 0xFF
  let letters := first = 0xDA && 0xA1 ≤ second && second ≤ 0xD3
  if first < 0xD9 || first = 0xDF || 0xF9 < first || gap || letters then none
  else
    let row := if first < 0xE0 then 2 * (first - 0xD9) else 2 * first - 0x197
    let column := if second < 0x91 then second - 0x31 else second - 0x43
    if column < 94 then some ((row + 0x21) * 256 + column + 0x21)
    else some ((row + 0x22) * 256 + (column - 94) + 0x21)

def text? (first second : UInt8) : Option Text :=
  if first < 0xD8 then letters? (code first second)
  else (signCode? first.toNat second.toNat).bind KsX1001.all.text?

end Johab

/-! ## The sets -/

inductive Korean where
  | ksx1001
  | unified
  | johab
  deriving DecidableEq, Repr

/-- The text of bytes in a Korean character set. -/
def Korean.decode (bytes : List UInt8) : Korean → Except Fault Text
  | .ksx1001 => decodeBy KsX1001.step bytes
  | .unified => decodeBy (.asciiOrPair Unified.text?) bytes
  | .johab => decodeBy (.asciiOrPair Johab.text?) bytes

end CorpusSearch.Charset
