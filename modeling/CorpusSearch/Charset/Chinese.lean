-- Chinese character sets: GB 2312 and what grew out of it, and Big5.
import CorpusSearch.Charset.Table.Big5
import CorpusSearch.Charset.Table.Big5Rare
import CorpusSearch.Charset.Table.Gb2312
import CorpusSearch.Charset.Table.Gbk
import CorpusSearch.Charset.Table.HongKong

namespace CorpusSearch.Charset

/-! ## GB 2312, GBK and GB 18030 -/

namespace Gb2312

def all : Runs := signs ++ common ++ rare

/-- The text of two bytes that both have the highest bit set. -/
def text? (first second : UInt8) : Option Text :=
  if 0x80 ≤ first && 0x80 ≤ second then all.text? (code first second - 0x8080) else none

end Gb2312

namespace Gbk

/-- The ideographs that GB 2312 lacks, in the order of their code points. -/
def ideographs : Array Char := others 0x4E00 0x9FA5 Gb2312.all.characters

/-- The column of a second byte: from 0x40 on, without 0x7F. -/
def column? (second : Nat) : Option Nat :=
  if second < 0x40 || second = 0x7F || second = 0xFF then none
  else some (if second < 0x7F then second - 0x40 else second - 0x41)

/-- The place of two bytes among the ideographs: full rows of 190 columns before those of GB 2312,
and then the 96 columns before each of its rows. -/
def place? (first second : Nat) : Option Nat :=
  match column? second with
  | none => none
  | some column =>
    if 0x81 ≤ first && first ≤ 0xA0 then some ((first - 0x81) * 190 + column)
    else if 0xAA ≤ first && column < 96 then some (32 * 190 + (first - 0xAA) * 96 + column)
    else none

def text? (first second : UInt8) : Option Text :=
  gbk.text? (code first second) <|> Gb2312.text? first second <|>
    ((place? first.toNat second.toNat).bind (ideographs[·]?)).map fun c => [c]

end Gbk

namespace Gb18030

/-- A character for private use in the rows that are kept for it. -/
def ofUser? (first second : Nat) : Option Char :=
  if 0xA1 ≤ second && second ≤ 0xFE then
    if 0xAA ≤ first && first ≤ 0xAF then
      some (Char.ofNat (0xE000 + (first - 0xAA) * 94 + (second - 0xA1)))
    else if 0xF8 ≤ first && first ≤ 0xFE then
      some (Char.ofNat (0xE234 + (first - 0xF8) * 94 + (second - 0xA1)))
    else none
  else match Gbk.column? second with
    | none => none
    | some column =>
      if 0xA1 ≤ first && first ≤ 0xA7 then
        some (Char.ofNat (0xE4C6 + (first - 0xA1) * 96 + column))
      else none

def text? (first second : UInt8) : Option Text :=
  Gbk.text? first second <|> Gbk.gb18030.text? (code first second) <|>
    (ofUser? first.toNat second.toNat).map fun c => [c]

/-- The characters up to U+FFFF that neither one byte nor two bytes stand for, in order. The middle
dot of GB 2312 is one of them, since GBK has another one in its place. -/
def far : Array Char :=
  others 0x80 0xFFFF
    ((Gb2312.all.characters.filter (· != '\u30fb')) ++ Gbk.gbk.characters ++
      Gbk.ideographs.toList ++ Gbk.gb18030.characters ++
      (List.range' 0xE000 0x766).map Char.ofNat)

/-- The character of four bytes: the second and the last one are digits. -/
def ofFour? (a b c d : Nat) : Option Char :=
  if 0x81 ≤ a && a ≤ 0xFE && 0x81 ≤ c && c ≤ 0xFE && 0x30 ≤ d && d ≤ 0x39 then
    let low := (b - 0x30) * 1260 + (c - 0x81) * 10 + (d - 0x30)
    if a < 0x85 then far[(a - 0x81) * 12600 + low]?
    else if 0x90 ≤ a then
      let value := 0x10000 + (a - 0x90) * 12600 + low
      if value ≤ 0x10FFFF then some (Char.ofNat value) else none
    else none
  else none

/-- What stands at the start of bytes. -/
def step (byte : UInt8) (rest : List UInt8) : Step :=
  match rest with
  | second :: behind =>
    if 0x80 ≤ byte && 0x30 ≤ second && second ≤ 0x39 then
      match behind with
      | third :: fourth :: _ =>
        .ofText? 3 ((ofFour? byte.toNat second.toNat third.toNat fourth.toNat).map fun c => [c])
      | _ => .cut
    else .asciiOrPair text? byte rest
  | [] => .asciiOrPair text? byte rest

end Gb18030

/-! ## GB 2312 between marks -/

/-- What stands at the start of bytes below 0x80, where `~{` and `~}` enclose characters of GB 2312;
`inside` says that the bytes stand between them. -/
def hzStep (inside : Bool) (byte : UInt8) (rest : List UInt8) : Bool × Step :=
  if byte = 0x7E then
    match rest with
    | [] => (inside, .cut)
    | second :: _ =>
      if inside then
        if second = 0x7D then (false, .text [] 1) else (inside, .wrong 0)
      else if second = 0x7E then (inside, .text ['~'] 1)
      else if second = 0x7B then (true, .text [] 1)
      else if second = 0x0A then (inside, .text [] 1)
      else (inside, .wrong 0)
  else if 0x80 ≤ byte then (inside, .wrong 0)
  else if inside then
    (inside, .ofPair (fun first second => Gb2312.all.text? (code first second)) byte rest)
  else (inside, .ascii byte)

/-! ## Big5 -/

namespace Big5

def all : Runs := signs ++ common ++ rare

def text? (first second : UInt8) : Option Text := all.text? (code first second)

/-- The text of two bytes in code page 950. -/
def page950Text? (first second : UInt8) : Option Text :=
  page950.text? (code first second) <|> text? first second

end Big5

namespace HongKong

/-- Letters with two marks, for which there is no single character. -/
def marked : List (Nat × Text) :=
  [(0x8862, "\u00ca\u0304"), (0x8864, "\u00ca\u030c"), (0x88A3, "\u00ea\u0304"),
    (0x88A5, "\u00ea\u030c")]

/-- The text of two bytes. The signs at the end of the common characters of Big5 are others here. -/
def text? (first second : UInt8) : Option Text :=
  let code := code first second
  let replaced := 0xC6A1 ≤ code && code < 0xC900
  (if replaced then none else Big5.text? first second) <|> before.text? code <|>
    behind.text? code <|> marked.lookup code

end HongKong

/-! ## The sets -/

inductive Chinese where
  | gb2312
  | gbk
  | gb18030
  | hz
  | big5
  | page950
  | hongKong
  deriving DecidableEq, Repr

/-- The text of bytes in a Chinese character set. -/
def Chinese.decode (bytes : List UInt8) : Chinese → Except Fault Text
  | .gb2312 => decodeBy (.asciiOrPair Gb2312.text?) bytes
  | .gbk => decodeBy (.asciiOrPair Gbk.text?) bytes
  | .gb18030 => decodeBy Gb18030.step bytes
  | .hz => decodeFrom hzStep false [] bytes
  | .big5 => decodeBy (.asciiOrPair Big5.text?) bytes
  | .page950 => decodeBy (.asciiOrPair Big5.page950Text?) bytes
  | .hongKong => decodeBy (.asciiOrPair HongKong.text?) bytes

end CorpusSearch.Charset
