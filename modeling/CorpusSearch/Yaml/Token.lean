-- The tokens of a YAML text. Indentation becomes starts and ends of blocks, and a value with a key
-- before it on its line gets the mark of the key at the place where the key starts.
import CorpusSearch.Yaml.Property
import CorpusSearch.Yaml.Scalar.Block
import CorpusSearch.Yaml.Scalar.Plain
import CorpusSearch.Yaml.Scalar.Quoted

namespace CorpusSearch.Yaml

/-- A token. The last one of a text is its end, or the place where it cannot be read further. -/
inductive Token where
  | directive (directive : Directive)
  | documentStart
  | documentEnd
  | sequenceStart
  | mappingStart
  | blockEnd
  | flowSequenceStart
  | flowSequenceEnd
  | flowMappingStart
  | flowMappingEnd
  | key
  | value
  | blockEntry
  | flowEntry
  | anchor (name : Text)
  | alias (name : Text)
  | tag (tag : WrittenTag)
  | scalar (text : Text) (plain : Bool)
  | textEnd
  | stop (fault : Fault)
  deriving DecidableEq, Repr

/-- A place where a key may have started: the number of its first token and its position. A key is
required where a block mapping must go on. -/
structure KeyPlace where
  number : Nat
  required : Bool
  index : Nat
  line : Nat
  column : Nat
  deriving Repr

/-- What was read so far. -/
structure Lexer where
  cursor : Cursor
  /-- The tokens, the last one first. -/
  tokens : List Token := []
  /-- The column of the block that is being read. -/
  indent : Int := -1
  /-- The columns of the blocks around it. -/
  outer : List Int := []
  /-- Whether a key may start here. -/
  keyAllowed : Bool := true
  /-- Where a key may have started, in the innermost flow collection first and in the block last. -/
  keys : List (Option KeyPlace) := [none]
  deriving Repr

namespace Lexer

/-! ## Small steps -/

/-- Whether a flow collection is being read. -/
def inFlow (l : Lexer) : Bool := 1 < l.keys.length

def add (token : Token) (l : Lexer) : Lexer := { l with tokens := token :: l.tokens }

/-- Goes on behind the next characters. -/
def skip (count : Nat) (l : Lexer) : Lexer := { l with cursor := l.cursor.advance count }

/-- Inserts tokens before the one with a number. -/
def insertAt (number : Nat) (inserted : List Token) (l : Lexer) : Lexer :=
  let behind := l.tokens.length - number
  { l with tokens := l.tokens.take behind ++ inserted.reverse ++ l.tokens.drop behind }

/-- Forgets where a key may have started; a required key must not be forgotten. -/
def dropKey (l : Lexer) : Except Fault Lexer :=
  match l.keys with
  | some place :: keys =>
    if place.required then .error .malformed else .ok { l with keys := none :: keys }
  | _ => .ok l

/-- Notes that a key may start here. -/
def noteKey (l : Lexer) : Except Fault Lexer := do
  if !l.keyAllowed then return l
  else
    let l ← l.dropKey
    let place : KeyPlace :=
      { number := l.tokens.length, required := !l.inFlow && l.indent = l.cursor.column
        index := l.cursor.index, line := l.cursor.line, column := l.cursor.column }
    return { l with keys := some place :: l.keys.tail }

/-- Whether a key may not have started at a place because that lies on an earlier line or too far
back. -/
def isStale (l : Lexer) (place : KeyPlace) : Bool :=
  place.line ≠ l.cursor.line || 1024 < l.cursor.index - place.index

/-- Forgets the places where a key cannot have started; a required key must not be forgotten. -/
def dropStale (l : Lexer) : Except Fault Lexer :=
  if l.keys.any fun key => key.any fun place => place.required && l.isStale place then
    .error .malformed
  else .ok { l with keys := l.keys.map fun key => key.filter fun place => !l.isStale place }

/-- Ends the blocks that stand further to the right than a column. -/
def unwindFrom (column : Int) : List Int → Lexer → Lexer
  | [], l => l
  | indent :: outer, l =>
    if column < l.indent then
      unwindFrom column outer { l with indent, outer, tokens := .blockEnd :: l.tokens }
    else l

/-- Ends the blocks that stand further to the right than a column. -/
def unwind (column : Int) (l : Lexer) : Lexer :=
  if l.inFlow then l else unwindFrom column l.outer l

/-- Opens a block at a column that lies further to the right than the block around it. -/
def openBlock? (column : Nat) (l : Lexer) : Option Lexer :=
  if l.indent < column then some { l with indent := column, outer := l.indent :: l.outer } else none

/-- Opens a block of a kind here, if the column calls for one. -/
def openBlock (start : Token) (l : Lexer) : Lexer :=
  match l.openBlock? l.cursor.column with
  | some l => l.add start
  | none => l

/-! ## From token to token -/

/-- What stands behind spaces and a comment. -/
def skipLine (text : Text) : Text :=
  let text := text.dropWhile (· == ' ')
  match text with
  | '#' :: _ => text.dropWhile fun c => !isBreak c
  | text => text

/-- Goes on to the next token over spaces, comments and ends of lines. -/
def toNext : (fuel : Nat) → Lexer → Lexer
  | 0, l => l
  | fuel + 1, l =>
    let l := { l with cursor := l.cursor.moveTo (skipLine l.cursor.rest) }
    match takeBreak l.cursor.rest with
    | ([], _) => l
    | (_, rest) =>
      toNext fuel
        { l with cursor := l.cursor.moveTo rest, keyAllowed := l.keyAllowed || !l.inFlow }

/-- Reads a mark between documents of `count` characters. -/
def separator (token : Token) (count : Nat) (l : Lexer) : Except Fault Lexer := do
  let l ← (l.unwind (-1)).dropKey
  return ({ l with keyAllowed := false }.add token).skip count

/-- Reads a line that starts with a percent sign. -/
def directive (l : Lexer) : Except Fault Lexer := do
  let l ← (l.unwind (-1)).dropKey
  let (directive, rest) ← takeDirective l.cursor.rest.tail
  return { l with cursor := l.cursor.moveTo rest, keyAllowed := false }.add (.directive directive)

/-- Reads the start of a flow collection. -/
def flowStart (token : Token) (l : Lexer) : Except Fault Lexer := do
  let l ← l.noteKey
  return ({ l with keys := none :: l.keys, keyAllowed := true }.add token).skip 1

/-- Reads the end of a flow collection. -/
def flowEnd (token : Token) (l : Lexer) : Except Fault Lexer := do
  if !l.inFlow then throw .malformed
  let l ← l.dropKey
  return ({ l with keys := l.keys.tail, keyAllowed := false }.add token).skip 1

/-- Reads the comma of a flow collection. -/
def flowEntry (l : Lexer) : Except Fault Lexer := do
  let l ← { l with keyAllowed := true }.dropKey
  return (l.add .flowEntry).skip 1

/-- Reads the hyphen of a sequence. -/
def blockEntry (l : Lexer) : Except Fault Lexer := do
  if !l.inFlow && !l.keyAllowed then throw .malformed
  let l := if l.inFlow then l else l.openBlock .sequenceStart
  let l ← { l with keyAllowed := true }.dropKey
  return (l.add .blockEntry).skip 1

/-- Reads the question mark before a key. -/
def keyMark (l : Lexer) : Except Fault Lexer := do
  if !l.inFlow && !l.keyAllowed then throw .malformed
  let l := if l.inFlow then l else l.openBlock .mappingStart
  let l ← { l with keyAllowed := !l.inFlow }.dropKey
  return (l.add .key).skip 1

/-- Reads the colon before a value. -/
def valueMark (l : Lexer) : Except Fault Lexer := do
  match l.keys with
  | some place :: keys =>
    let l := { l with keys := none :: keys, keyAllowed := false }
    let l := match (if l.inFlow then none else l.openBlock? place.column) with
      | some l => l.insertAt place.number [.mappingStart, .key]
      | none => l.insertAt place.number [.key]
    return (l.add .value).skip 1
  | _ =>
    if !l.inFlow && !l.keyAllowed then throw .malformed
    let l := if l.inFlow then l else l.openBlock .mappingStart
    let l ← { l with keyAllowed := !l.inFlow }.dropKey
    return (l.add .value).skip 1

/-- Reads what starts with a sign and may be the start of a key. -/
def signed {α : Type} (take : Text → Except Fault (α × Text)) (token : α → Token) (l : Lexer) :
    Except Fault Lexer := do
  let l ← l.noteKey
  let (found, rest) ← take l.cursor.rest.tail
  return { l with cursor := l.cursor.moveTo rest, keyAllowed := false }.add (token found)

def quotedScalar (quote : Char) (l : Lexer) : Except Fault Lexer :=
  l.signed (fun text => takeQuoted quote (text.length + 1) [] text) fun text => .scalar text false

def blockScalar (folded : Bool) (l : Lexer) : Except Fault Lexer := do
  let l ← l.dropKey
  let (text, cursor) ← Block.take folded (max 1 (l.indent + 1).toNat) l.cursor.next
  return { l with cursor, keyAllowed := true }.add (.scalar text false)

def plainScalar (l : Lexer) : Except Fault Lexer := do
  let l ← l.noteKey
  let found := takePlain l.inFlow (l.indent + 1) l.cursor.rest.length [] [] false l.cursor
  return { l with cursor := found.cursor, keyAllowed := found.broken }.add
    (.scalar found.text true)

/-- Whether a character cannot start a plain scalar, or only before something that is no gap. -/
def isIndicator (c : Char) : Bool :=
  c ∈ ['-', '?', ':', ',', '[', ']', '\x7b', '\x7d', '#', '&', '*', '!', '|', '>', '\'', '"', '%',
    '@', '\x60']

/-- Whether a plain scalar starts here. -/
def startsPlain (flow : Bool) (c : Char) (rest : Text) : Bool :=
  !(isSpace c || isBreak c || isIndicator c) ||
    (!isGap rest && (c == '-' || (!flow && (c == '?' || c == ':'))))

/-- Reads the token that starts with the character `c`. -/
def token (c : Char) (rest : Text) (l : Lexer) : Except Fault Lexer :=
  let atStart := l.cursor.column = 0
  let marks := l.inFlow || isGap rest
  if atStart && c == '%' then l.directive
  else if atStart && c == '-' && isSeparator (c :: rest) then l.separator .documentStart 3
  else if atStart && c == '.' && isSeparator (c :: rest) then l.separator .documentEnd 3
  else if c == '[' then l.flowStart .flowSequenceStart
  else if c == '\x7b' then l.flowStart .flowMappingStart
  else if c == ']' then l.flowEnd .flowSequenceEnd
  else if c == '\x7d' then l.flowEnd .flowMappingEnd
  else if c == ',' then l.flowEntry
  else if c == '-' && isGap rest then l.blockEntry
  else if c == '?' && marks then l.keyMark
  else if c == ':' && marks then l.valueMark
  else if c == '*' then l.signed takeAnchor .alias
  else if c == '&' then l.signed takeAnchor .anchor
  else if c == '!' then l.signed takeTag .tag
  else if c == '|' && !l.inFlow then l.blockScalar false
  else if c == '>' && !l.inFlow then l.blockScalar true
  else if c == '\'' || c == '"' then l.quotedScalar c
  else if startsPlain l.inFlow c rest then l.plainScalar
  else throw .malformed

/-- Goes on to the next token and reads it; true says that the text ended. -/
def step (l : Lexer) : Except Fault (Lexer × Bool) := do
  let l ← (l.toNext (l.cursor.rest.length + 1)).dropStale
  let l := l.unwind l.cursor.column
  match l.cursor.rest with
  | [] => return (← (l.unwind (-1)).dropKey, true)
  | c :: rest => return (← l.token c rest, false)

/-- The number of the first token that may turn out to be the start of a key. -/
def firstOpen (l : Lexer) : Nat :=
  l.keys.foldl (fun number key => match key with
    | some place => min number place.number
    | none => number) l.tokens.length

/-- The tokens up to a fault in the next one. A token that may be the start of a key is known only
when what follows is read, so the fault stands in its place. -/
def stopped (fault : Fault) (l : Lexer) : List Token :=
  match l.dropStale with
  | .ok l => l.tokens.reverse.take l.firstOpen ++ [.stop fault]
  | .error fault => l.tokens.reverse ++ [.stop fault]

/-- Reads the tokens up to the end of the text. -/
def run : (fuel : Nat) → Lexer → List Token
  | 0, l => l.stopped .malformed
  | fuel + 1, l => match l.step with
    | .error fault => l.stopped fault
    | .ok (l, true) => l.tokens.reverse ++ [.textEnd]
    | .ok (l, false) => run fuel l

end Lexer

/-- Whether a character may stand in a text at all. -/
def isAllowed (c : Char) : Bool :=
  let code := c.toNat
  code == 9 || code == 10 || code == 13 || (0x20 ≤ code && code ≤ 0x7E) || code == 0x85 ||
    (0xA0 ≤ code && code ≤ 0xFFFD) || 0x10000 ≤ code

/-- The tokens of a text. A byte order mark at the start is dropped. -/
def tokensOf (text : Text) : List Token :=
  if !text.all isAllowed then [.stop .malformed]
  else
    let cursor : Cursor := { rest := text }
    let cursor := if text.head? = some '\ufeff' then cursor.next else cursor
    Lexer.run (text.length + 1) { cursor }

end CorpusSearch.Yaml
