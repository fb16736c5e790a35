-- Texts whose characters may be written as numbers behind a backslash; the other bytes stand for
-- the first 256 code points.
import CorpusSearch.Charset.Step
import CorpusSearch.Number.Decimal

namespace CorpusSearch.Charset.Backslash

/-- The hexadecimal digits at the start of bytes, at most `count`. -/
def digits (count : Nat) (bytes : List UInt8) : Text :=
  ((bytes.take count).map fun byte => Char.ofNat byte.toNat).takeWhile fun c =>
    (Number.hexDigit? c).isSome

/-- The step of a backslash, a letter and `count` hexadecimal digits, given the bytes behind the
letter. -/
def numbered (count : Nat) (bytes : List UInt8) : Step :=
  let found := digits count bytes
  let more := found.length + 1
  if found.length < count then .wrong more
  else
    let value := (Number.ofHex? found).getD 0
    if h : value.isValidChar then .text [Char.ofNatAux value h] more else .wrong more

/-- The step of a character that is asked for by name, given the bytes behind the letter. No name is
known. -/
def named (bytes : List UInt8) : Step :=
  match bytes with
  | 0x7B :: name =>
    match name.span (· != 0x7D) with
    | (_, []) => .wrong (bytes.length + 1)
    | ([], _) => .wrong 2
    | (name, _) => .wrong (name.length + 3)
  | _ => .wrong 1

/-- Whether a byte is an octal digit. -/
def isOctal (byte : UInt8) : Bool := 0x30 ≤ byte && byte ≤ 0x37

/-- The step of a backslash and one to three octal digits. -/
def octal (bytes : List UInt8) : Step :=
  let found := (bytes.take 3).takeWhile isOctal
  let value := found.foldl (fun value byte => value * 8 + (byte.toNat - 0x30)) 0
  .text [Char.ofNat value] found.length

/-- What single letters behind a backslash stand for. -/
def letters : List (Char × Text) :=
  [('\n', ""), ('\\', "\\"), ('\'', "'"), ('"', "\""), ('b', "\x08"), ('f', "\x0c"), ('t', "\t"),
    ('n', "\n"), ('r', "\r"), ('v', "\x0b"), ('a', "\x07")]

/-- What stands at the start of bytes. -/
def step (byte : UInt8) (rest : List UInt8) : Step :=
  if byte != 0x5C then .char (Char.ofNat byte.toNat)
  else match rest with
    | [] => .wrong 0
    | kind :: behind =>
      let c := Char.ofNat kind.toNat
      if isOctal kind then octal rest
      else if c = 'x' then numbered 2 behind
      else if c = 'u' then numbered 4 behind
      else if c = 'U' then numbered 8 behind
      else if c = 'N' then named behind
      else match letters.lookup c with
        | some text => .text text 1
        | none => .text ['\\', c] 1

/-- What stands at the start of bytes when only code points are written behind backslashes. -/
def rawStep (byte : UInt8) (rest : List UInt8) : Step :=
  if byte != 0x5C then .char (Char.ofNat byte.toNat)
  else match rest with
    | [] => .char '\\'
    | kind :: behind =>
      let c := Char.ofNat kind.toNat
      if c = 'u' then numbered 4 behind
      else if c = 'U' then numbered 8 behind
      else .text ['\\', c] 1

end CorpusSearch.Charset.Backslash
