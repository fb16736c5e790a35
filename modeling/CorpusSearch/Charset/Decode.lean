-- Character sets, and the text of bytes in each of them.
import CorpusSearch.Charset.Backslash
import CorpusSearch.Charset.Escaped
import CorpusSearch.Charset.Punycode
import CorpusSearch.Charset.Units
import CorpusSearch.Charset.Utf7
import CorpusSearch.Number.Decimal
import CorpusSearch.Text.Utf8

namespace CorpusSearch

inductive Charset where
  | ascii
  | latin1
  | utf7
  | utf8
  /-- UTF-8 with a byte order mark, which is dropped. -/
  | utf8Marked
  | utf16 (order : Charset.ByteOrder)
  | utf32 (order : Charset.ByteOrder)
  /-- One byte a character. -/
  | table (characters : Text)
  | chinese (set : Charset.Chinese)
  | japanese (set : Charset.Japanese)
  | korean (set : Charset.Korean)
  /-- Sets that are switched by escape sequences. -/
  | escaped (family : Charset.Escaped.Family)
  /-- Code points, control characters and quotes behind backslashes. -/
  | backslash
  /-- Code points behind backslashes. -/
  | rawBackslash
  | punycode
  /-- The form of domain names, which is never put right. -/
  | domain
  /-- A set that refuses all texts. -/
  | undefined
  deriving DecidableEq, Repr

namespace Charset

/-- What is said of a fault in a set of some name. -/
def Fault.message (name : Text) : Fault → Text
  | .zeroInName => "embedded null character"
  | .undefined =>
    "decoding with '" ++ name ++ "' codec failed (UnicodeError: undefined encoding)"
  | .strictOnly =>
    "decoding with '" ++ name ++
      "' codec failed (UnicodeError: Unsupported error handling replace)"
  | .notAscii byte place =>
    "'ascii' codec can't decode byte 0x" ++ Nat.toDigits 16 byte.toNat ++ " in position " ++
      Number.digits place ++ ": ordinal not in range(128)"
  | .noShiftedSet =>
    "decoding with '" ++ name ++ "' codec failed (RuntimeError: internal codec error)"

/-- The text of bytes in a character set. A part of the bytes that stands for nothing becomes one
replacement character. -/
def decode (bytes : List UInt8) : Charset → Except Fault Text
  | .ascii => .ok (bytes.map fun b => if b < 128 then Char.ofNat b.toNat else replacement)
  | .latin1 => .ok (bytes.map fun b => Char.ofNat b.toNat)
  | .utf7 => Utf7.decode bytes
  | .utf8 => .ok (Text.ofUtf8 bytes)
  | .utf8Marked =>
    .ok (Text.ofUtf8 (if [0xEF, 0xBB, 0xBF].isPrefixOf bytes then bytes.drop 3 else bytes))
  | .utf16 order => decodePairs order bytes
  | .utf32 order => decodeQuads order bytes
  | .table characters =>
    let characters := characters.toArray
    .ok (bytes.map fun b => characters.getD b.toNat replacement)
  | .chinese set => set.decode bytes
  | .japanese set => set.decode bytes
  | .korean set => set.decode bytes
  | .escaped family => family.decode bytes
  | .backslash => decodeBy Backslash.step bytes
  | .rawBackslash => decodeBy Backslash.rawStep bytes
  | .punycode => Punycode.decode bytes
  | .domain => .error .strictOnly
  | .undefined => .error .undefined

end Charset

end CorpusSearch
