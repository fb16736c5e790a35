-- UTF-16 and UTF-32: units of two or four bytes, in an order that a mark may tell.
import CorpusSearch.Charset.Step
import CorpusSearch.Text.Utf8

namespace CorpusSearch.Charset

/-- The order of the bytes in a unit of two or four bytes; the mark at the start of the bytes may
tell it. -/
inductive ByteOrder where
  | marked
  | little
  | big
  deriving DecidableEq, Repr

/-- Whether the highest byte stands first, and the bytes behind the mark that tells it. -/
def readOrder (width : Nat) (order : ByteOrder) (bytes : List UInt8) : Bool × List UInt8 :=
  let zeros := List.replicate (width - 2) (0 : UInt8)
  match order with
  | .little => (false, bytes)
  | .big => (true, bytes)
  | .marked =>
    if ([0xFF, 0xFE] ++ zeros).isPrefixOf bytes then (false, bytes.drop width)
    else if (zeros ++ [0xFE, 0xFF]).isPrefixOf bytes then (true, bytes.drop width)
    else (false, bytes)

/-- The value of bytes as one number. -/
def unitOf (big : Bool) (bytes : List UInt8) : Nat :=
  (if big then bytes else bytes.reverse).foldl (fun value byte => value * 256 + byte.toNat) 0

/-- What stands at the start of units of two bytes. Half of a surrogate pair that stands alone is
ill formed; at the end it takes what is left with it. -/
def pairStep (big : Bool) (byte : UInt8) (rest : List UInt8) : Step :=
  match rest with
  | [] => .cut
  | second :: behind =>
    let unit := unitOf big [byte, second]
    if Text.isHighHalf unit then
      match behind with
      | third :: fourth :: _ =>
        let low := unitOf big [third, fourth]
        if Text.isLowHalf low then .text [Text.ofHalves unit low] 3 else .wrong 1
      | _ => .cut
    else if Text.isLowHalf unit then .wrong 1
    else .text [Char.ofNat unit] 1

/-- What stands at the start of units of four bytes. -/
def quadStep (big : Bool) (byte : UInt8) (rest : List UInt8) : Step :=
  match rest with
  | second :: third :: fourth :: _ =>
    let value := unitOf big [byte, second, third, fourth]
    if h : value.isValidChar then .text [Char.ofNatAux value h] 3 else .wrong 3
  | _ => .cut

/-- The text of units of two bytes. -/
def decodePairs (order : ByteOrder) (bytes : List UInt8) : Except Fault Text :=
  let (big, bytes) := readOrder 2 order bytes
  decodeBy (pairStep big) bytes

/-- The text of units of four bytes. -/
def decodeQuads (order : ByteOrder) (bytes : List UInt8) : Except Fault Text :=
  let (big, bytes) := readOrder 4 order bytes
  decodeBy (quadStep big) bytes

end CorpusSearch.Charset
