-- Marks around the needles in a text. Case does not count, and of the needles at one place the
-- longest is marked. Needles that differ in their last character alone are an exception: what is
-- looked for is then one set of last characters, in which the capitals past U+FFFF stay as they
-- are, and no lower-case form is equal to them.
import CorpusSearch.Text.Case

namespace CorpusSearch.Snippet

/-- Whether a needle stands at the start of a text, up to case. -/
def startsWith (needle : Text) : Text → Bool
  | [] => needle.isEmpty
  | c :: rest => match needle with
    | [] => true
    | d :: needle => Text.sameUpToCase c d && startsWith needle rest

/-- The length of the longest needle at the start of a text, zero when there is none. -/
def longestMatch (needles : List Text) (text : Text) : Nat :=
  ((needles.filter fun needle => startsWith needle text).map List.length).foldl max 0

/-- Marks the rest of a text, of which the next `inside` characters belong to a marked needle. -/
def markFrom (needles : List Text) (opening closing : Text) : (inside : Nat) → Text → Text
  | _, [] => []
  | inside + 2, c :: rest => c :: markFrom needles opening closing (inside + 1) rest
  | 1, c :: rest => c :: (closing ++ markFrom needles opening closing 0 rest)
  | 0, c :: rest => match longestMatch needles (c :: rest) with
    | 0 => c :: markFrom needles opening closing 0 rest
    | 1 => opening ++ c :: (closing ++ markFrom needles opening closing 0 rest)
    | length + 2 => opening ++ c :: markFrom needles opening closing (length + 1) rest

/-- Whether several needles have all but their last character in common. -/
def differAtEnd : List Text → Bool
  | [] => false
  | needle :: needles =>
    needles.any (· ≠ needle) && needles.all fun other =>
      other.dropLast = needle.dropLast && other.length = needle.length

/-- Whether a needle ends with a capital past U+FFFF. -/
def endsWithFarCapital (needle : Text) : Bool :=
  match needle.getLast? with
  | some c => 0xFFFF < c.toNat && Text.lowerChar c ≠ [c]
  | none => false

/-- The needles that can be found: the empty one never is. -/
def findable (needles : List Text) : List Text :=
  let needles := needles.filter fun needle => !needle.isEmpty
  if differAtEnd needles then needles.filter fun needle => !endsWithFarCapital needle else needles

/-- The text with marks around the needles, found from left to right without overlap. -/
def highlight (opening closing : Text) (needles : List Text) (text : Text) : Text :=
  markFrom (findable needles) opening closing 0 text

/-- The marks of the console. -/
def openMark : Text := "[["

/-- The closing mark of the console. -/
def closeMark : Text := "]]"

end CorpusSearch.Snippet
