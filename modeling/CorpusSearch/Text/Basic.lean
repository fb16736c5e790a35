-- Texts as lists of characters, so that a position counts characters, and the plain operations
-- on them: search for a part, cutting at a separator, joining.
namespace CorpusSearch

/-- A text is the list of its characters. -/
abbrev Text := List Char

/-- A literal may stand where a text is wanted. -/
instance instCoeString : Coe String (List Char) := ⟨String.toList⟩

namespace Text

/-! ## Parts of a text -/

/-- Whether `part` occurs somewhere in the text; the empty part occurs in every text. -/
def occursIn (part : Text) : Text → Bool
  | [] => part.isEmpty
  | c :: rest => part.isPrefixOf (c :: rest) || occursIn part rest

theorem occursIn_iff (part text : Text) : occursIn part text = true ↔ part <:+: text := by
  induction text with
  | nil => simp [occursIn]
  | cons c rest ih => simp [occursIn, ih, List.infix_cons_iff]

/-- The positions where `part` occurs from left to right without overlap, counted from
`position`; the next `skip` characters belong to the occurrence found last. -/
def occurrencesFrom (part : Text) (position : Nat) : Nat → Text → List Nat
  | _, [] => []
  | skip + 1, _ :: rest => occurrencesFrom part (position + 1) skip rest
  | 0, c :: rest =>
    if part.isPrefixOf (c :: rest) then
      position :: occurrencesFrom part (position + 1) (part.length - 1) rest
    else occurrencesFrom part (position + 1) 0 rest

/-- The positions where a nonempty part occurs, leftmost first and without overlap. -/
def occurrences (part text : Text) : List Nat := occurrencesFrom part 0 0 text

/-- A place in a sequence of `length` items; a negative one counts from the end. -/
def place (length : Nat) (at' : Int) : Nat := if at' < 0 then (at' + length).toNat else at'.toNat

/-- The characters from `start` up to `stop`, which is not included. -/
def slice (start stop : Nat) (text : Text) : Text := (text.take stop).drop start

/-! ## Cutting and joining -/

/-- The pieces between the characters that satisfy `cut`; there is always one more piece than
there are such characters. -/
def splitAt (cut : Char → Bool) : Text → List Text
  | [] => [[]]
  | c :: rest =>
    if cut c then [] :: splitAt cut rest
    else match splitAt cut rest with
      | [] => [[c]]
      | piece :: pieces => (c :: piece) :: pieces

/-- The texts one after another with `between` standing between two of them. -/
def join (between : Text) : List Text → Text
  | [] => []
  | [text] => text
  | text :: texts => text ++ between ++ join between texts

/-- The text as often as the count says. -/
def replicate (count : Nat) (text : Text) : Text := (List.replicate count text).flatten

/-- The text before the first character that satisfies `cut`, and the text behind it when there
is such a character. -/
def cutAt? (cut : Char → Bool) (text : Text) : Option (Text × Text) :=
  match text.span (fun c => !cut c) with
  | (_, []) => none
  | (before, _ :: behind) => some (before, behind)

/-- The text before the last character that satisfies `cut`, and the text behind it when there
is such a character. -/
def cutAtLast? (cut : Char → Bool) (text : Text) : Option (Text × Text) :=
  (cutAt? cut text.reverse).map fun (behind, before) => (before.reverse, behind.reverse)

end Text

end CorpusSearch
