-- Texts as they come from outside. Halves of surrogate pairs may stand alone in them, and then they
-- have no bytes in UTF-8. Such texts are met where strings of JSON are read, where the text of a
-- document is fetched and where results are written; every other text can be encoded.
import CorpusSearch.Number.Decimal
import CorpusSearch.Text.Quoted
import CorpusSearch.Text.Utf8

namespace CorpusSearch

/-- Half of a surrogate pair. -/
structure Half where
  unit : Nat
  isHalf : (Text.isHighHalf unit || Text.isLowHalf unit) = true
  deriving DecidableEq, Repr

def Half.ofUnit? (unit : Nat) : Option Half :=
  if h : (Text.isHighHalf unit || Text.isLowHalf unit) = true then some ⟨unit, h⟩ else none

inductive Letter where
  | char (c : Char)
  | half (half : Half)
  deriving DecidableEq, Repr

/-- A text in which halves may stand alone. -/
abbrev RawText := List Letter

def Text.raw (text : Text) : RawText := text.map .char

/-- A text may stand where a raw one is wanted. -/
instance instCoeText : Coe (List Char) (List Letter) := ⟨Text.raw⟩

namespace RawText

def HasHalf (raw : RawText) : Prop := ∃ half, .half half ∈ raw

/-- The text with a mark in the place of each half. -/
def filled (mark : Char) (raw : RawText) : Text :=
  raw.map fun
    | .char c => c
    | .half _ => mark

def escape (half : Half) : Text := ['\\', 'u'] ++ Text.hexadecimal 4 half.unit

/-- The text as a console shows it, with an escape for each half. -/
def shown (raw : RawText) : Text :=
  raw.flatMap fun
    | .char c => [c]
    | .half half => escape half

/-! ## Encoding -/

/-- Where a text cannot be encoded: the position of its first half, and the halves that follow
without a character between them. -/
structure Fault where
  position : Nat
  first : Half
  more : List Half
  deriving DecidableEq, Repr

def Fault.message (fault : Fault) : Text :=
  let place : Text := match fault.more with
    | [] => "character '" ++ escape fault.first ++ "' in position " ++ Number.digits fault.position
    | more => "characters in position " ++ Number.digits fault.position ++ "-" ++
      Number.digits (fault.position + more.length)
  "'utf-8' codec can't encode " ++ place ++ ": surrogates not allowed"

def halvesAhead : RawText → List Half
  | .half half :: rest => half :: halvesAhead rest
  | _ => []

/-- The text that can be encoded, positions being counted from `position`. -/
def encodeFrom (position : Nat) : RawText → Except Fault Text
  | [] => .ok []
  | .char c :: rest => (encodeFrom (position + 1) rest).map (c :: ·)
  | .half first :: rest => .error { position, first, more := halvesAhead rest }

/-- The text that can be encoded, or the first place where it cannot. -/
def encode (raw : RawText) : Except Fault Text := encodeFrom 0 raw

end RawText

end CorpusSearch
