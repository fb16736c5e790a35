-- Plain scalars, which end where something else must start. A line break inside them is a space,
-- and further breaks behind it stay.
import CorpusSearch.Yaml.Cursor

namespace CorpusSearch.Yaml

/-- Whether a character marks a part of a flow collection. -/
def isFlowMark (c : Char) : Bool := c == ',' || c == '[' || c == ']' || c == '\x7b' || c == '\x7d'

/-- Whether a plain scalar stops before the rest of the text. -/
def stopsPlain (flow : Bool) : Text → Bool
  | [] => true
  | c :: rest =>
    isSpace c || isBreak c ||
      (c == ':' && (isGap rest || (flow && rest.head?.any isFlowMark))) ||
      (flow && (isFlowMark c || c == '?'))

/-- The length of the run of a plain scalar up to the next blank. -/
def plainRun (flow : Bool) : Text → Nat
  | [] => 0
  | c :: rest => if stopsPlain flow (c :: rest) then 0 else plainRun flow rest + 1

/-- The breaks of blank lines behind a line of a plain scalar, and what stands behind them and the
spaces of the next line, none when a mark between documents follows a break. -/
def plainBreaks : (fuel : Nat) → Text → Option Text × Text
  | 0, text => (none, text)
  | fuel + 1, text =>
    if isSeparator text then (none, text)
    else
      let text := text.dropWhile (· == ' ')
      match takeBreak text with
      | ([], _) => (some [], text)
      | (first, rest) =>
        let (breaks, rest) := plainBreaks fuel rest
        (breaks.map fun breaks => first ++ breaks, rest)

/-- What stands between two runs of a plain scalar. -/
structure PlainSpace where
  /-- What counts in the scalar, when that can go on. -/
  space : Option Text
  rest : Text
  /-- Whether a line ended. -/
  broken : Bool

/-- Reads the spaces and breaks behind a run. -/
def takePlainSpace (text : Text) : PlainSpace :=
  let (spaces, rest) := text.span (· == ' ')
  match takeBreak rest with
  | ([], _) => ⟨if spaces.isEmpty then none else some spaces, rest, false⟩
  | (first, rest) =>
    let (breaks, rest) := plainBreaks (rest.length + 1) rest
    ⟨breaks.map (fold first), rest, true⟩

/-- A plain scalar: its text, the place behind it, and whether that place starts a line. -/
structure Plain where
  text : Text
  cursor : Cursor
  broken : Bool

/-- Reads a plain scalar behind what was read of it; its further lines stand at the column `indent`
or behind it, unless they stand in a flow collection. -/
def takePlain (flow : Bool) (indent : Int) : (fuel : Nat) → (read space : Text) → (broken : Bool) →
    Cursor → Plain
  | 0, read, _, broken, cursor => ⟨read, cursor, broken⟩
  | fuel + 1, read, space, broken, cursor =>
    let length := if cursor.rest.head? = some '#' then 0 else plainRun flow cursor.rest
    if length = 0 then ⟨read, cursor, broken⟩
    else
      let read := read ++ space ++ cursor.rest.take length
      let cursor := cursor.advance length
      let found := takePlainSpace cursor.rest
      let cursor := cursor.moveTo found.rest
      match found.space with
      | none => ⟨read, cursor, found.broken⟩
      | some space =>
        if !flow && (cursor.column : Int) < indent then ⟨read, cursor, found.broken⟩
        else takePlain flow indent fuel read space found.broken cursor

end CorpusSearch.Yaml
