-- Anchors and tags as they are written before nodes, and directives, which are written before
-- documents.
import CorpusSearch.Text.Utf8
import CorpusSearch.Yaml.Fault

namespace CorpusSearch.Yaml

/-! ## Names -/

/-- Whether a character may stand in the name of an anchor, a handle or a directive. -/
def isNamePart (c : Char) : Bool := c.isAlphanum || c == '-' || c == '_'

/-- The name of an anchor or an alias behind its sign, and what stands behind it. -/
def takeAnchor (text : Text) : Except Fault (Text × Text) :=
  let (name, rest) := text.span isNamePart
  let mayFollow := match rest with
    | [] => true
    | c :: _ => isSpace c || isBreak c || "?:,]\x7d%@\x60".toList.contains c
  if name.isEmpty || !mayFollow then .error .malformed else .ok (name, rest)

/-! ## Tags -/

/-- A tag as it is written: the rest of its name behind what a handle stands for, or all of it. -/
structure WrittenTag where
  handle : Option Text
  name : Text
  deriving DecidableEq, Repr

/-- A handle, which has an exclamation mark at its start, and what stands behind it. A name and
another mark follow, if no space does. -/
def takeHandle (text : Text) : Except Fault (Text × Text) :=
  match text with
  | '!' :: ' ' :: rest => .ok (['!'], ' ' :: rest)
  | '!' :: rest =>
    let (name, rest) := rest.span isNamePart
    match rest with
    | '!' :: rest => .ok ('!' :: name ++ ['!'], rest)
    | _ => .error .malformed
  | _ => .error .malformed

/-- Whether a character may stand in the name of a tag. -/
def isTagPart (c : Char) : Bool :=
  c.isAlphanum || "-;/?:@&=+$,_.!~*'()[]%".toList.contains c

/-- The bytes of escapes at the start of a text, and what stands behind them. -/
def takeBytes : Text → Except Fault (List UInt8 × Text)
  | '%' :: a :: b :: rest => match Number.ofHex? [a, b] with
    | some byte => (takeBytes rest).map fun (bytes, rest) => (byte.toUInt8 :: bytes, rest)
    | none => .error .malformed
  | '%' :: _ => .error .malformed
  | text => .ok ([], text)

/-- The name of a tag, where bytes of UTF-8 may be escaped, and what stands behind it. -/
def takeTagParts : (fuel : Nat) → Text → Except Fault (Text × Text)
  | 0, _ => .error .malformed
  | _ + 1, [] => .ok ([], [])
  | fuel + 1, c :: rest =>
    if c = '%' then do
      let (bytes, behind) ← takeBytes (c :: rest)
      let name := Text.ofUtf8 bytes
      if name.utf8 ≠ bytes then throw .malformed
      let (more, behind) ← takeTagParts fuel behind
      return (name ++ more, behind)
    else if isTagPart c then (takeTagParts fuel rest).map fun (more, behind) => (c :: more, behind)
    else .ok ([], c :: rest)

/-- The name of a tag, which is not empty, and what stands behind it. -/
def takeTagName (text : Text) : Except Fault (Text × Text) :=
  match takeTagParts (text.length + 1) text with
  | .ok ([], _) => .error .malformed
  | found => found

/-- A tag behind its exclamation mark, and what stands behind it. -/
def takeTagBody (text : Text) : Except Fault (WrittenTag × Text) :=
  match text with
  | '<' :: rest => do
    let (name, rest) ← takeTagName rest
    match rest with
    | '>' :: rest => return (⟨none, name⟩, rest)
    | _ => throw .malformed
  | text =>
    if isGap text then .ok (⟨none, ['!']⟩, text)
    else do
      let run := text.takeWhile fun c => !(c == ' ' || isBreak c)
      let (handle, rest) ← if run.contains '!' then takeHandle ('!' :: text) else .ok (['!'], text)
      let (name, rest) ← takeTagName rest
      return (⟨some handle, name⟩, rest)

/-- A tag behind its exclamation mark, and what stands behind it, which is a space or an end. -/
def takeTag (text : Text) : Except Fault (WrittenTag × Text) := do
  let (tag, rest) ← takeTagBody text
  if isStop rest then return (tag, rest) else throw .malformed

/-! ## Directives -/

/-- A directive: the version of the language, a handle with what it stands for, or one that is
passed over. -/
inductive Directive where
  | version (major : Nat)
  | handle (handle name : Text)
  | other
  deriving DecidableEq, Repr

/-- A number of a version, and what stands behind it. -/
def takeVersionNumber (text : Text) : Except Fault (Nat × Text) :=
  let (figures, rest) := text.span Char.isDigit
  if figures.isEmpty then .error .malformed
  else if Number.maxDigits < figures.length then .error (.tooManyDigits figures.length)
  else .ok (Number.ofDigits figures, rest)

/-- A version, and what stands behind it. -/
def takeVersion (text : Text) : Except Fault (Directive × Text) := do
  let (major, rest) ← takeVersionNumber text
  match rest with
  | '.' :: rest =>
    let (_, rest) ← takeVersionNumber rest
    if isStop rest then return (.version major, rest) else throw .malformed
  | _ => throw .malformed

/-- A handle with what it stands for, and what stands behind them. -/
def takeHandleName (text : Text) : Except Fault (Directive × Text) := do
  let (handle, rest) ← takeHandle text
  if rest.head? ≠ some ' ' then throw .malformed
  let (name, rest) ← takeTagName (rest.dropWhile (· == ' '))
  if isStop rest then return (.handle handle name, rest) else throw .malformed

/-- A directive behind its percent sign, and what stands behind its line. -/
def takeDirective (text : Text) : Except Fault (Directive × Text) := do
  let (name, rest) := text.span isNamePart
  if name.isEmpty || !isStop rest then throw .malformed
  let content := rest.dropWhile (· == ' ')
  let (directive, rest) ←
    if name = "YAML".toList then takeVersion content
    else if name = "TAG".toList then takeHandleName content
    else .ok (.other, content.dropWhile fun c => !isBreak c)
  match takeLineEnd? rest with
  | some rest => return (directive, rest)
  | none => throw .malformed

end CorpusSearch.Yaml
