-- Hosts in brackets: numeric addresses of version 6, and the form kept for later versions.
import CorpusSearch.Number.Decimal

namespace CorpusSearch.Url

/-- A number from 0 to 255 in decimal digits without leading zeros. -/
def isOctet (text : Text) : Bool :=
  !text.isEmpty && text.all Char.isDigit && text.length ≤ 3 &&
    (text = ['0'] || text.head? ≠ some '0') && Number.ofDigits text ≤ 255

/-- A numeric address of version 4: four octets between points. -/
def isVersion4 (text : Text) : Bool :=
  let octets := Text.splitAt (· == '.') text
  octets.length = 4 && octets.all isOctet

/-- A group of one to four hexadecimal digits. -/
def isGroup (text : Text) : Bool :=
  !text.isEmpty && text.length ≤ 4 && text.all fun c => (Number.hexDigit? c).isSome

/-- The groups of an address of version 6 with its last part, which may be an address of version 4
in the place of two groups; none when it is neither. -/
def withLastPart? (groups : List Text) : Option (List Text) :=
  match groups.getLast? with
  | none => some groups
  | some last =>
    if '.' ∈ last then
      if isVersion4 last then some (groups.dropLast ++ [['0'], ['0']]) else none
    else some groups

/-- Whether the groups before a gap are well formed: the first one is empty only when it stands
alone. -/
def isSide (groups : List Text) : Bool := groups = [[]] || groups.all isGroup

/-- Whether groups with colons between them are an address of version 6: eight groups, or fewer
with one gap for the zeros that are left out. -/
def areGroups (groups : List Text) : Bool :=
  let inner := (groups.drop 1).dropLast
  let gap := inner.idxOf []
  if gap < inner.length then
    let before := groups.take (gap + 1)
    let behind := groups.drop (gap + 2)
    let count (side : List Text) : Nat := if side = [[]] then 0 else side.length
    isSide before && isSide behind && count before + count behind ≤ 7
  else groups.length = 8 && groups.all isGroup

/-- A numeric address of version 6, which may name a zone behind a percent sign. -/
def isVersion6 (text : Text) : Bool :=
  let (address, zoneFits) := match Text.cutAt? (· == '%') text with
    | none => (text, true)
    | some (address, zone) => (address, !zone.isEmpty && '%' ∉ zone)
  let groups := Text.splitAt (· == ':') address
  zoneFits && 3 ≤ groups.length &&
    match withLastPart? groups with
    | none => false
    | some groups => groups.length ≤ 9 && areGroups groups

/-- The form kept for later versions: the letter v, hexadecimal digits, a point and more. -/
def isLaterVersion (text : Text) : Bool :=
  match text with
  | 'v' :: rest => match rest.span fun c => (Number.hexDigit? c).isSome with
    | (_ :: _, '.' :: _ :: _) => true
    | _ => false
  | _ => false

end CorpusSearch.Url
