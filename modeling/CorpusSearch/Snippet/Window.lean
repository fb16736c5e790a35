-- Where the needles of a query occur in a text, and excerpts: windows of the text around the
-- occurrences. A hit closer than half a window to one that was taken before is passed over.
import CorpusSearch.Number.Double
import CorpusSearch.Text.Basic
import CorpusSearch.Text.Blank

namespace CorpusSearch.Snippet

/-! ## Occurrences -/

structure Hit where
  position : Nat
  needle : Text
  deriving DecidableEq, Repr, Inhabited

/-- Once there are more hits than this, every further needle adds at most one. -/
def maxOccurrences : Nat := 200

/-- Adds the hits of one needle: all of them until the limit is passed, and one in any case. -/
def addHits (text : Text) (hits : List Hit) (needle : Text) : List Hit :=
  let room := max 1 (maxOccurrences + 1 - hits.length)
  hits ++ ((Text.occurrences needle text).take room).map fun position => ⟨position, needle⟩

/-- Puts a hit before those that do not start earlier. -/
def insertHit (hit : Hit) : List Hit → List Hit
  | [] => [hit]
  | other :: rest =>
    if hit.position ≤ other.position then hit :: other :: rest else other :: insertHit hit rest

/-- Sorts hits by position; hits at one position keep their order. -/
def sortHits (hits : List Hit) : List Hit := hits.foldr insertHit []

/-- The needles that are looked for: each nonempty one once. -/
def distinctNeedles (needles : List Text) : List Text :=
  needles.eraseDups.filter fun needle => !needle.isEmpty

/-- The hits of the needles in a text, sorted by position. -/
def findOccurrences (text : Text) (needles : List Text) : List Hit :=
  sortHits ((distinctNeedles needles).foldl (addHits text) [])

/-! ## Windows -/

/-- The width of a window when none is configured. -/
def defaultWindow : Int := 240

/-- The count of snippets of a document when none is configured. -/
def defaultMaxSnippets : Int := 6

/-- Whether a position is closer than half a window to another one. -/
def isNear (window : Int) (position centre : Nat) : Bool :=
  2 * ((centre : Int) - position).natAbs < window

/-- The positions of the hits that get a window, behind those of `taken`: at most `room` of them,
none of them near another one. -/
def centresFrom (window : Int) : (room : Nat) → (taken : List Nat) → List Hit → List Nat
  | 0, _, _ => []
  | _ + 1, _, [] => []
  | room + 1, taken, hit :: hits =>
    if taken.any (isNear window hit.position) then centresFrom window (room + 1) taken hits
    else hit.position :: centresFrom window room (hit.position :: taken) hits

/-- The positions of the hits that get a window. -/
def centres (window maxSnippets : Int) (hits : List Hit) : List Nat :=
  centresFrom window maxSnippets.toNat [] hits

/-- A window from `start` up to `stop`, which may lie before the start of the text. -/
structure Window where
  start : Nat
  stop : Int
  deriving DecidableEq, Repr

/-- The window around a position in a text of `length` characters: half of it before the position,
moved to the right at the start of the text and cut off at the end. -/
def windowAround (window : Int) (length position : Nat) : Window :=
  let start := ((position : Int) - Int.fdiv window 2).toNat
  { start, stop := min length (start + window) }

/-- What stands for a part of the text that is cut off. -/
def ellipsis : Char := '…'

/-- The text of a window on one line, with an ellipsis at each side where text is cut off. -/
def clip (text : Text) (window : Window) : Text :=
  let inside := Text.slice window.start (Text.place text.length window.stop) text
  let body := (Text.collapse inside).strip
  (if 0 < window.start then [ellipsis] else []) ++ body ++
    (if window.stop < text.length then [ellipsis] else [])

/-- The excerpts of a text around the hits of needles. -/
def extract (window maxSnippets : Int) (text : Text) (needles : List Text) : List Text :=
  (centres window maxSnippets (findOccurrences text needles)).map fun position =>
    clip text (windowAround window text.length position)

/-- What is said of a window whose half is larger than every floating-point number. -/
def windowTooLarge : Text := "integer division result too large for a float"

/-- The excerpts of a text, refused for a window whose half is larger than every floating-point
number. -/
def extract? (window maxSnippets : Int) (text : Text) (needles : List Text) :
    Except Text (List Text) :=
  match Double.quotient? window 2 with
  | some _ => .ok (extract window maxSnippets text needles)
  | none => .error windowTooLarge

end CorpusSearch.Snippet
