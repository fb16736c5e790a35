-- Classes of characters, and what is done with texts by them: white space with its runs, the ends
-- of lines, where a carriage return with a line feed behind it is one end, and word characters,
-- among which combining marks are not.
import CorpusSearch.Text.Basic
import CorpusSearch.Text.Ranges
import CorpusSearch.Text.Table.Word

namespace CorpusSearch.Text

/-! ## White space -/

/-- White space: the property White_Space of Unicode and the four separators U+001C to U+001F.
The zero-width space and the byte order mark are not white space. -/
def isBlank (c : Char) : Bool :=
  let code := c.toNat
  (9 ≤ code && code ≤ 13) || (28 ≤ code && code ≤ 32) ||
    (128 ≤ code &&
      (code == 0x85 || code == 0xA0 || code == 0x1680 || (0x2000 ≤ code && code ≤ 0x200A) ||
        code == 0x2028 || code == 0x2029 || code == 0x202F || code == 0x205F || code == 0x3000))

def stripStart (text : Text) : Text := text.dropWhile isBlank

def stripEnd (text : Text) : Text := (text.reverse.dropWhile isBlank).reverse

/-- The text without the blanks at its two ends. -/
def strip (text : Text) : Text := stripEnd (stripStart text)

/-- Every run of blanks becomes one space; `inRun` says that a blank was read just before. -/
def collapseFrom : Bool → Text → Text
  | _, [] => []
  | inRun, c :: rest =>
    if isBlank c then
      if inRun then collapseFrom true rest else ' ' :: collapseFrom true rest
    else c :: collapseFrom false rest

/-- Every run of blanks becomes one space. -/
def collapse (text : Text) : Text := collapseFrom false text

/-- The nonempty pieces between the characters that satisfy `cut`. -/
def wordsBy (cut : Char → Bool) (text : Text) : List Text :=
  (splitAt cut text).filter fun piece => !piece.isEmpty

/-! ## Lines -/

/-- Whether a character ends a line: line feed, vertical tab, form feed, carriage return, the
separators U+001C to U+001E, next line, and the line and paragraph separators. -/
def endsLine (c : Char) : Bool :=
  let code := c.toNat
  (10 ≤ code && code ≤ 13) || (28 ≤ code && code ≤ 30) || code == 0x85 || code == 0x2028 ||
    code == 0x2029

/-- The lines of a text, `line` being the reversed start of the one that is being read. -/
def linesFrom (line : Text) : Text → List Text
  | [] => if line.isEmpty then [] else [line.reverse]
  | '\r' :: '\n' :: rest => line.reverse :: linesFrom [] rest
  | c :: rest =>
    if endsLine c then line.reverse :: linesFrom [] rest else linesFrom (c :: line) rest

/-- The lines of a text without their ends; an end of line at the end of the text starts no
further line. -/
def lines (text : Text) : List Text := linesFrom [] text

/-! ## Letters and digits -/

/-- Whether a character is a letter, a digit or another number sign, or the underscore. -/
def isWord (c : Char) : Bool :=
  if c.toNat < 128 then c.isAlphanum || c == '_' else inRanges Table.word c.toNat

end CorpusSearch.Text
