-- Japanese character sets: JIS X 0201, 0208, 0212 and 0213, and their shifted and extended forms.
import CorpusSearch.Charset.Table.JisX0208
import CorpusSearch.Charset.Table.JisX0212
import CorpusSearch.Charset.Table.JisX0213
import CorpusSearch.Charset.Table.Windows932

namespace CorpusSearch.Charset

/-! ## The standards -/

namespace JisX0201

/-- The character of a Latin letter or sign, which differs from ASCII in two places. -/
def latin (byte : UInt8) : Char :=
  if byte = 0x5C then '¥' else if byte = 0x7E then '‾' else Char.ofNat byte.toNat

/-- Whether a byte stands for a narrow kana. -/
def isKana (byte : UInt8) : Bool := 0xA1 ≤ byte && byte ≤ 0xDF

def kana (byte : UInt8) : Char := Char.ofNat (0xFF61 + (byte.toNat - 0xA1))

end JisX0201

namespace JisX0208

def all : Runs := signs ++ common ++ rare

end JisX0208

namespace JisX0212

def all : Runs := signs ++ ideographs ++ moreIdeographs

end JisX0212

namespace JisX0213

/-- The two editions of the standard. -/
inductive Edition where
  | first
  | second
  deriving DecidableEq, Repr

/-- Characters of the first plane that need two code points. -/
def composed : List (Nat × Text) :=
  [(0x2477, "か\u309a"), (0x2478, "き\u309a"), (0x2479, "く\u309a"), (0x247A, "け\u309a"),
    (0x247B, "こ\u309a"), (0x2577, "カ\u309a"), (0x2578, "キ\u309a"), (0x2579, "ク\u309a"),
    (0x257A, "ケ\u309a"), (0x257B, "コ\u309a"), (0x257C, "セ\u309a"), (0x257D, "ツ\u309a"),
    (0x257E, "ト\u309a"), (0x2678, "ㇷ\u309a"), (0x2B44, "æ\u0300"), (0x2B48, "ɔ\u0300"),
    (0x2B49, "ɔ\u0301"), (0x2B4A, "ʌ\u0300"), (0x2B4B, "ʌ\u0301"), (0x2B4C, "ə\u0300"),
    (0x2B4D, "ə\u0301"), (0x2B4E, "ɚ\u0300"), (0x2B4F, "ɚ\u0301"), (0x2B65, "˩˥"),
    (0x2B66, "˥˩")]

/-- The codes of the characters that the second edition adds. -/
def added : List Nat :=
  [0x2E21, 0x2F7E, 0x4F54, 0x4F7E, 0x7427, 0x7E7A, 0x7E7B, 0x7E7C, 0x7E7D, 0x7E7E]

/-- Whether an edition lacks a character of the other one. -/
def lacks (edition : Edition) (code : Nat) : Bool := edition = .first && added.contains code

/-- The text of a code in the first plane. -/
def firstPlane? (edition : Edition) (code : Nat) : Option Text :=
  if lacks edition code then none
  else JisX0208.all.text? code <|> firstPlane.text? code <|> composed.lookup code

/-- The text of a code in the second plane. The first edition has another form of one ideograph. -/
def secondPlane? (edition : Edition) (code : Nat) : Option Text :=
  if edition = .first && code = 0x7D3B then some ['鬝'] else secondPlane.text? code

/-- A step at two bytes, unless their code in the first plane is one that the edition lacks: then
both bytes stand for nothing. -/
def unlessLacking (edition : Edition) (code? : UInt8 → UInt8 → Option Nat) (byte : UInt8)
    (rest : List UInt8) (step : Step) : Step :=
  match rest with
  | [] => step
  | second :: _ => if (code? byte second).any (lacks edition) then .wrong 1 else step

end JisX0213

/-! ## Shifted codes -/

/-- The code from which two shifted bytes come: two rows of 94 columns have one first byte, and
0x7F is left out. The rows behind those of the first plane are counted on past 0x7E. -/
def unshifted? (first second : UInt8) : Option Nat :=
  let lead := first.toNat
  let trail := second.toNat
  if trail < 0x40 || trail = 0x7F || 0xFC < trail then none
  else
    let row := if lead < 0xE0 then lead - 0x81 else lead - 0xC1
    let column := if trail < 0x80 then trail - 0x40 else trail - 0x41
    if column < 94 then some ((2 * row + 0x21) * 256 + column + 0x21)
    else some ((2 * row + 0x22) * 256 + (column - 94) + 0x21)

/-- Whether a byte is the first one of two shifted bytes. -/
def isShiftedLead (byte : UInt8) : Bool :=
  (0x81 ≤ byte && byte ≤ 0x9F) || (0xE0 ≤ byte && byte ≤ 0xFC)

/-- The rows of the second plane, in the order of their shifted codes. -/
def shiftedRows : List Nat :=
  [0x21, 0x28, 0x23, 0x24, 0x25, 0x2C, 0x2D, 0x2E, 0x2F] ++ List.range' 0x6E 17

/-- The text of two shifted bytes of JIS X 0213. Two signs are narrow here. -/
def shiftedText? (edition : JisX0213.Edition) (first second : UInt8) : Option Text := do
  let code ← unshifted? first second
  if first < 0xF0 then
    if code = 0x2140 then return ['\\']
    else if code = 0x2232 then return ['~']
    else JisX0213.firstPlane? edition code
  else
    let row ← shiftedRows[code / 256 - 0x7F]?
    JisX0213.secondPlane? edition (row * 256 + code % 256)

/-- What stands at the start of bytes of shifted JIS X 0208. -/
def shiftJisStep (byte : UInt8) (rest : List UInt8) : Step :=
  if byte < 0x80 then .ascii byte
  else if JisX0201.isKana byte then .char (JisX0201.kana byte)
  else if isShiftedLead byte then
    .ofPair (fun first second => (unshifted? first second).bind JisX0208.all.text?) byte rest
  else .wrong 0

/-- What stands at the start of bytes of shifted JIS X 0213. -/
def shiftJisx0213Step (edition : JisX0213.Edition) (byte : UInt8) (rest : List UInt8) : Step :=
  if byte < 0x80 then .char (JisX0201.latin byte)
  else if JisX0201.isKana byte then .char (JisX0201.kana byte)
  else if isShiftedLead byte then
    JisX0213.unlessLacking edition unshifted? byte rest
      (.ofPair (shiftedText? edition) byte rest)
  else .wrong 0

namespace Windows932

/-- The text of two bytes: the rows from 0xF0 to 0xF9 are for private use. -/
def text? (first second : UInt8) : Option Text :=
  let lead := first.toNat
  extension.text? (code first second) <|> do
    let code ← unshifted? first second
    if 0xF0 ≤ lead && lead ≤ 0xF9 then
      let trail := second.toNat
      let column := if trail < 0x80 then trail - 0x40 else trail - 0x41
      return [Char.ofNat (0xE000 + 188 * (lead - 0xF0) + column)]
    else if lead ≤ 0xEA then JisX0208.all.text? code
    else none

/-- What stands at the start of bytes. Single bytes without a meaning elsewhere are for private use
here. -/
def step (byte : UInt8) (rest : List UInt8) : Step :=
  if byte ≤ 0x80 then .ascii byte
  else if byte = 0xA0 then .char '\uf8f0'
  else if JisX0201.isKana byte then .char (JisX0201.kana byte)
  else if 0xFD ≤ byte then .char (Char.ofNat (0xF8F1 + (byte.toNat - 0xFD)))
  else .ofPair text? byte rest

end Windows932

/-! ## Extended codes -/

/-- The code of two bytes that both have the highest bit set. -/
def extended? (first second : UInt8) : Option Nat :=
  if 0x80 ≤ first && 0x80 ≤ second then some (code first second - 0x8080) else none

/-- What stands at the start of extended bytes, where two bytes are of one set, and three bytes of a
second one. -/
def extendedStep (two three : Nat → Option Text) (byte : UInt8) (rest : List UInt8) : Step :=
  if byte < 0x80 then .ascii byte
  else if byte = 0x8E then
    .ofPair (fun _ second => if JisX0201.isKana second then some [JisX0201.kana second] else none)
      byte rest
  else if byte = 0x8F then
    match rest with
    | second :: third :: _ => .ofText? 2 ((extended? second third).bind three)
    | _ => .cut
  else .ofPair (fun first second => (extended? first second).bind two) byte rest

/-- What stands at the start of extended bytes of JIS X 0213, with JIS X 0212 in the rows that its
second plane leaves free. -/
def extendedJisx0213Step (edition : JisX0213.Edition) (byte : UInt8) (rest : List UInt8) : Step :=
  JisX0213.unlessLacking edition extended? byte rest
    (extendedStep (JisX0213.firstPlane? edition)
      (fun code => JisX0213.secondPlane? edition code <|> JisX0212.all.text? code) byte rest)

/-! ## The sets -/

inductive Japanese where
  | shifted
  | windows932
  | shiftedJisx0213 (edition : JisX0213.Edition)
  | extended
  | extendedJisx0213 (edition : JisX0213.Edition)
  deriving DecidableEq, Repr

/-- The text of bytes in a Japanese character set. -/
def Japanese.decode (bytes : List UInt8) : Japanese → Except Fault Text
  | .shifted => decodeBy shiftJisStep bytes
  | .windows932 => decodeBy Windows932.step bytes
  | .shiftedJisx0213 edition => decodeBy (shiftJisx0213Step edition) bytes
  | .extended => decodeBy (extendedStep JisX0208.all.text? JisX0212.all.text?) bytes
  | .extendedJisx0213 edition => decodeBy (extendedJisx0213Step edition) bytes

end CorpusSearch.Charset
