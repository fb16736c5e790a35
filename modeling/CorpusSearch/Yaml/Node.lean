-- The tree of a YAML document, from its tokens. An alias stands for the node of its anchor.
import CorpusSearch.Yaml.Tag
import CorpusSearch.Yaml.Token

namespace CorpusSearch.Yaml

inductive Node where
  | scalar (tag : Tag) (text : Text)
  | sequence (tag : Tag) (items : List Node)
  | mapping (tag : Tag) (entries : List (Node × Node))
  /-- A collection that the node stands in. -/
  | around
  deriving Repr, Inhabited

namespace Node

/-- The node where nothing is written. -/
def empty : Node := .scalar .null []

/-- A document whose tokens are being read. -/
structure Source where
  tokens : List Token
  /-- What the handles of tags stand for. -/
  handles : List (Text × Text) := []
  /-- The nodes with anchors that were read, or that are being read. -/
  anchors : List (Text × Node) := []

abbrev Reading (α : Type) := StateT Source (Except Fault) α

/-! ## Tokens -/

/-- The next token. A fault in it ends the reading. -/
def peek : Reading Token := do
  match (← get).tokens with
  | [] => throw .malformed
  | .stop fault :: _ => throw fault
  | token :: _ => return token

/-- Passes over the next token. -/
def skip : Reading Unit := modify fun source => { source with tokens := source.tokens.tail }

/-- Whether the next token is one of some. -/
def nextIs (tokens : List Token) : Reading Bool := return tokens.contains (← peek)

/-- Passes over a token that has to be there. -/
def expect (token : Token) : Reading Unit := do
  if (← peek) = token then skip else throw .malformed

/-! ## Anchors and tags -/

/-- What may stand before the content of a node. -/
structure Properties where
  anchor : Option Text := none
  tag : Option Text := none

namespace Properties

/-- The tag of a scalar. The lone mark of a tag makes it as if it were plain. -/
def ofScalar (properties : Properties) (text : Text) (plain : Bool) : Tag :=
  match properties.tag with
  | none => if plain then .ofLook text else .text
  | some name => if name = ['!'] then .ofLook text else .ofName name

/-- The tag of a collection, which has one without being written. -/
def ofCollection (properties : Properties) (tag : Tag) : Tag :=
  match properties.tag with
  | none => tag
  | some name => if name = ['!'] then tag else .ofName name

/-- Whether a node without content is there because something stands before it. -/
def areWritten (properties : Properties) : Bool :=
  properties.anchor.isSome || properties.tag.isSome

end Properties

/-- The name of a tag, its handle being replaced by what it stands for. -/
def tagName (tag : WrittenTag) : Reading Text := do
  match tag.handle with
  | none => return tag.name
  | some handle => match (← get).handles.lookup handle with
    | some name => return name ++ tag.name
    | none => throw .malformed

/-- Reads an anchor and a tag in either order. -/
def readProperties : Reading Properties := do
  match ← peek with
  | .anchor name =>
    skip
    match ← peek with
    | .tag tag => skip; return { anchor := some name, tag := some (← tagName tag) }
    | _ => return { anchor := some name }
  | .tag tag =>
    skip
    match ← peek with
    | .anchor name => skip; return { anchor := some name, tag := some (← tagName tag) }
    | _ => return { tag := some (← tagName tag) }
  | _ => return {}

def aliased (name : Text) : Reading Node := do
  match (← get).anchors.lookup name with
  | some node => return node
  | none => throw .malformed

/-- Refuses an anchor that was used before. -/
def checkAnchor (properties : Properties) : Reading Unit := do
  match properties.anchor with
  | some name => if ((← get).anchors.lookup name).isSome then throw .malformed
  | none => return ()

def anchored (properties : Properties) (node : Node) : Reading Node := do
  match properties.anchor with
  | some name =>
    modify fun source => { source with anchors := (name, node) :: source.anchors }
    return node
  | none => return node

/-! ## Nodes -/

mutual

/-- The next node. Outside of flow collections it may be a block, and as a value it may be a
sequence that is not indented. -/
def read (block bare : Bool) : (fuel : Nat) → Reading Node
  | 0 => throw .malformed
  | fuel + 1 => do
    match ← peek with
    | .alias name => skip; aliased name
    | _ =>
      let properties ← readProperties
      let token ← peek
      checkAnchor properties
      readContent block bare properties token fuel

/-- The content of a node, which starts with `token`. -/
def readContent (block bare : Bool) (properties : Properties) (token : Token) : (fuel : Nat) →
    Reading Node
  | 0 => throw .malformed
  | fuel + 1 => do
    let sequence (items : Reading (List Node)) : Reading Node := do
      let _ ← anchored properties .around
      anchored properties (.sequence (properties.ofCollection .sequence) (← items))
    let mapping (entries : Reading (List (Node × Node))) : Reading Node := do
      let _ ← anchored properties .around
      anchored properties (.mapping (properties.ofCollection .mapping) (← entries))
    if bare && token = .blockEntry then sequence (readBareItems fuel)
    else match token with
      | .scalar text plain =>
        skip
        anchored properties (.scalar (properties.ofScalar text plain) text)
      | .flowSequenceStart => skip; sequence (readFlowItems true fuel)
      | .flowMappingStart => skip; mapping (readFlowEntries true fuel)
      | _ =>
        if block && token = .sequenceStart then skip; sequence (readItems fuel)
        else if block && token = .mappingStart then skip; mapping (readEntries fuel)
        else if properties.areWritten then
          anchored properties (.scalar (properties.ofScalar [] true) [])
        else throw .malformed

/-- A node, or the empty one before a token of `stops`. -/
def readOr (stops : List Token) (block bare : Bool) : (fuel : Nat) → Reading Node
  | 0 => throw .malformed
  | fuel + 1 => do if ← nextIs stops then return empty else read block bare fuel

/-- The items of a sequence up to the end of its block. -/
def readItems : (fuel : Nat) → Reading (List Node)
  | 0 => throw .malformed
  | fuel + 1 => do
    if ← nextIs [.blockEntry] then
      skip
      let item ← readOr [.blockEntry, .blockEnd] true false fuel
      return item :: (← readItems fuel)
    else
      expect .blockEnd
      return []

/-- The items of a sequence that is not indented. -/
def readBareItems : (fuel : Nat) → Reading (List Node)
  | 0 => throw .malformed
  | fuel + 1 => do
    if ← nextIs [.blockEntry] then
      skip
      let item ← readOr [.blockEntry, .key, .value, .blockEnd] true false fuel
      return item :: (← readBareItems fuel)
    else return []

/-- The entries of a mapping up to the end of its block. -/
def readEntries : (fuel : Nat) → Reading (List (Node × Node))
  | 0 => throw .malformed
  | fuel + 1 => do
    if ← nextIs [.key] then
      skip
      let name ← readOr [.key, .value, .blockEnd] true true fuel
      let value ← readValue [.key, .value, .blockEnd] true fuel
      return (name, value) :: (← readEntries fuel)
    else
      expect .blockEnd
      return []

/-- The value of an entry, empty without a mark of a value. -/
def readValue (stops : List Token) (block : Bool) : (fuel : Nat) → Reading Node
  | 0 => throw .malformed
  | fuel + 1 => do
    if ← nextIs [.value] then
      skip
      readOr stops block block fuel
    else return empty

/-- The key behind its mark and the value of an entry in a flow collection that ends with `stop`. -/
def readFlowEntry (stop : Token) : (fuel : Nat) → Reading (Node × Node)
  | 0 => throw .malformed
  | fuel + 1 => do
    let name ← readOr [.value, .flowEntry, stop] false false fuel
    let value ← readValue [.flowEntry, stop] false fuel
    return (name, value)

/-- The items of a sequence in brackets; an item with the mark of a key is a mapping of one entry.
-/
def readFlowItems (first : Bool) : (fuel : Nat) → Reading (List Node)
  | 0 => throw .malformed
  | fuel + 1 => do
    if ← nextIs [.flowSequenceEnd] then skip; return []
    if !first then expect .flowEntry
    match ← peek with
    | .flowSequenceEnd => skip; return []
    | .key =>
      skip
      let entry ← readFlowEntry .flowSequenceEnd fuel
      return .mapping .mapping [entry] :: (← readFlowItems false fuel)
    | _ =>
      let item ← read false false fuel
      return item :: (← readFlowItems false fuel)

/-- The entries of a mapping in braces; a node without the mark of a key is a key without a value.
-/
def readFlowEntries (first : Bool) : (fuel : Nat) → Reading (List (Node × Node))
  | 0 => throw .malformed
  | fuel + 1 => do
    if ← nextIs [.flowMappingEnd] then skip; return []
    if !first then expect .flowEntry
    match ← peek with
    | .flowMappingEnd => skip; return []
    | .key =>
      skip
      let entry ← readFlowEntry .flowMappingEnd fuel
      return entry :: (← readFlowEntries false fuel)
    | _ =>
      let name ← read false false fuel
      return (name, empty) :: (← readFlowEntries false fuel)

end

/-! ## Documents -/

/-- What the handles of tags stand for in every document. -/
def commonHandles : List (Text × Text) := [(['!'], ['!']), (['!', '!'], Tag.family)]

/-- The handles that directives declare, and the tokens behind these. A second version or a second
declaration of a handle is malformed, as is a version of the language that is not the first. -/
def readDirectives (isVersioned : Bool) (handles : List (Text × Text)) :
    List Token → Except Fault (List (Text × Text) × List Token)
  | .directive (.version major) :: rest =>
    if isVersioned || major ≠ 1 then .error .malformed else readDirectives true handles rest
  | .directive (.handle handle name) :: rest =>
    if (handles.lookup handle).isSome then .error .malformed
    else readDirectives isVersioned ((handle, name) :: handles) rest
  | .directive .other :: rest => readDirectives isVersioned handles rest
  | tokens => .ok (handles, tokens)

/-- Reads the directives of a document and the mark that starts it. -/
def startDocument : Reading Unit := do
  let (handles, tokens) ← readDirectives false [] (← get).tokens
  modify fun source => { source with tokens, handles := handles ++ commonHandles }
  expect .documentStart

/-- The fuel for the nodes of a document. -/
def fuelOf (source : Source) : Nat := 5 * source.tokens.length + 5

/-- The node of the document at the start of a text, empty when nothing is written. -/
def readDocument : Reading Node := do
  let isMarked := match ← peek with
    | .directive _ | .documentStart => true
    | _ => false
  if ← nextIs [.textEnd] then return empty
  else if isMarked then
    startDocument
    match ← peek with
    | .directive _ | .documentStart | .documentEnd | .textEnd => return empty
    | _ => read true false (fuelOf (← get))
  else
    modify fun source => { source with handles := commonHandles }
    read true false (fuelOf (← get))

/-- Reads the marks behind the document. A second document is not allowed. -/
def finish : Reading Unit := do
  modify fun source => { source with tokens := source.tokens.dropWhile (· == .documentEnd) }
  if ← nextIs [.textEnd] then return ()
  else
    startDocument
    throw .malformed

def ofTokens (tokens : List Token) : Except Fault Node := do
  let (node, source) ← readDocument.run { tokens }
  let _ ← finish.run source
  return node

end Node

end CorpusSearch.Yaml
