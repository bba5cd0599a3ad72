import CsdlRoutes.Yaml.Tag
import CsdlRoutes.Yaml.Token

/-!
# Nodes of a YAML document

A document is made of tagged scalars, sequences and mappings. A node is known by its number, and a
collection holds the numbers of its parts: an alias is the number of the node that its anchor marks,
even while that node is being read. A name is anchored once. Collections stand in one another up to a
depth of `nestingLimit`.

* `Graph` holds the nodes of a document by their numbers.
* `Graph.ofTokens` reads the one document of a stream, or finds that the stream is empty.
-/

namespace CsdlRoutes.Yaml

/-- The number of a node. -/
abbrev NodeId := Nat

/-- What a node holds. -/
inductive Content where
  | scalar (text : String)
  | sequence (items : List NodeId)
  | mapping (pairs : List (NodeId × NodeId))
  deriving DecidableEq, Repr, Inhabited

/-- A node. -/
structure Node where
  tag : Tag
  content : Content
  deriving DecidableEq, Repr

/-- The empty node. -/
def Node.empty : Node := ⟨.null, .scalar ""⟩

instance : Inhabited Node := ⟨Node.empty⟩

/-- The nodes of a document by their numbers. -/
abbrev Graph := Array Node

namespace Graph

/-- The node with a number. -/
def node (g : Graph) (id : NodeId) : Node := g.getD id Node.empty

/-- The tag of a node. -/
def tag (g : Graph) (id : NodeId) : Tag := (g.node id).tag

/-- The content of a node. -/
def content (g : Graph) (id : NodeId) : Content := (g.node id).content

/-- The pairs of a mapping. -/
def pairs (g : Graph) (id : NodeId) : List (NodeId × NodeId) :=
  match g.content id with
  | .mapping pairs => pairs
  | _ => []

/-- Gives a node another tag. -/
def retag (tag : Tag) (g : Graph) (id : NodeId) : Graph :=
  g.setIfInBounds id { g.node id with tag }

/-- Gives a mapping other pairs. -/
def setPairs (g : Graph) (id : NodeId) (pairs : List (NodeId × NodeId)) : Graph :=
  g.setIfInBounds id { g.node id with content := .mapping pairs }

end Graph

/-! ## Reading tokens -/

/-- What is known between two tokens. -/
structure Stream where
  /-- The tokens that are left. -/
  tokens : List Token
  /-- What the handles of tags stand for. -/
  handles : List (String × String)
  /-- The anchored nodes. -/
  anchors : List (String × NodeId)
  /-- The nodes that were met. -/
  nodes : Graph

/-- A step that takes tokens. -/
abbrev Reading := StateT Stream (Except Fault)

/-- The next token, if it can be told. -/
def nextToken : Reading Token := do
  match (← get).tokens.headD (.broken .unexpectedToken) with
  | .broken fault => throw fault
  | t => return t

/-- Moves on by a token. -/
def advance : Reading Unit := modify fun s => { s with tokens := s.tokens.drop 1 }

/-- Takes the next token if it is a given one, and says whether it was. -/
def accept (t : Token) : Reading Bool := do
  if (← nextToken) == t then
    advance
    return true
  else return false

/-- Gives up at the next token. -/
def refuse {α : Type} : Reading α := throw .unexpectedToken

/-- The handles that need no directive. -/
def commonHandles : List (String × String) := [("!", "!"), ("!!", commonTagStem)]

/-- The full name of a tag, the mark alone included. -/
def fullTag (handle : Option String) (suffix : String) : Reading String := do
  match handle with
  | none => return suffix
  | some h =>
    match (← get).handles.lookup h with
    | some stem => return stem ++ suffix
    | none => throw (.undefinedTagHandle h)

/-- The tag of a node, unless its name is missing or the mark alone, which leave it to the node. -/
def writtenTag? (name : Option String) : Option Tag :=
  match name with
  | none => none
  | some "!" => none
  | some n => some (Tag.ofName n)

/-- The anchor and the tag of a node, in either order. -/
def properties : Reading (Option String × Option String) := do
  match ← nextToken with
  | .anchor name =>
    advance
    match ← nextToken with
    | .tag handle suffix =>
      advance
      return (some name, some (← fullTag handle suffix))
    | _ => return (some name, none)
  | .tag handle suffix =>
    advance
    match ← nextToken with
    | .anchor name =>
      advance
      return (some name, some (← fullTag handle suffix))
    | _ => return (none, some (← fullTag handle suffix))
  | _ => return (none, none)

/-- The node that an alias stands for. -/
def aliased (name : String) : Reading NodeId := do
  match (← get).anchors.lookup name with
  | some id => return id
  | none => throw (.undefinedAlias name)

/-- Gives a node a number, before its parts are read. -/
def openNode (anchor : Option String) : Reading NodeId := do
  let id := (← get).nodes.size
  if let some name := anchor then
    if ((← get).anchors.lookup name).isSome then throw (.repeatedAnchor name)
    modify fun s => { s with anchors := (name, id) :: s.anchors }
  modify fun s => { s with nodes := s.nodes.push Node.empty }
  return id

/-- Fills in a node, after its parts were read. -/
def closeNode (id : NodeId) (tag : Tag) (content : Content) : Reading NodeId := do
  modify fun s => { s with nodes := s.nodes.setIfInBounds id ⟨tag, content⟩ }
  return id

/-- A node without content, which needs an anchor or a tag. -/
def noContent (anchor tagName : Option String) : Reading NodeId := do
  if anchor.isNone && tagName.isNone then refuse
  closeNode (← openNode anchor) ((writtenTag? tagName).getD .null) (.scalar "")

/-- The empty node, where a node is left out. -/
def leftOut : Reading NodeId := openNode none

/-- Whether a token ends an entry of a block or of brackets without a node. -/
def endsEntry (enders : List Token) : Reading Bool := do
  return enders.contains (← nextToken)

/-- How many collections may stand in one another. -/
def nestingLimit : Nat := 485

/-- How many collections may stand in one that is opened where `room` of them may. -/
def roomWithin : Nat → Reading Nat
  | 0 => throw .tooDeep
  | room + 1 => return room

mutual

/-- Reads a node in which `room` collections may stand in one another. In a block it may be a block
collection, and `indentless` allows a sequence whose entries stand at the column of the mapping around
it. -/
def readNode : Nat → Nat → Bool → Bool → Reading NodeId
  | 0, _, _, _ => refuse
  | fuel + 1, room, block, indentless => do
    if let .alias name ← nextToken then
      advance
      aliased name
    else
      let (anchor, tagName) ← properties
      let tag? := writtenTag? tagName
      match ← nextToken with
      | .blockEntry =>
        if indentless then
          let room ← roomWithin room
          let id ← openNode anchor
          closeNode id (tag?.getD .sequence) (.sequence (← readIndentless fuel room []))
        else noContent anchor tagName
      | .scalar plain text =>
        let id ← openNode anchor
        advance
        let implied := if plain || tagName.isSome then Tag.ofPlain text else .text
        closeNode id (tag?.getD implied) (.scalar text)
      | .flowSequenceStart =>
        let room ← roomWithin room
        let id ← openNode anchor
        advance
        closeNode id (tag?.getD .sequence) (.sequence (← readFlowSequence fuel room true []))
      | .flowMappingStart =>
        let room ← roomWithin room
        let id ← openNode anchor
        advance
        closeNode id (tag?.getD .mapping) (.mapping (← readFlowMapping fuel room true []))
      | .blockSequenceStart =>
        if block then
          let room ← roomWithin room
          let id ← openNode anchor
          advance
          closeNode id (tag?.getD .sequence) (.sequence (← readBlockSequence fuel room []))
        else noContent anchor tagName
      | .blockMappingStart =>
        if block then
          let room ← roomWithin room
          let id ← openNode anchor
          advance
          closeNode id (tag?.getD .mapping) (.mapping (← readBlockMapping fuel room []))
        else noContent anchor tagName
      | _ => noContent anchor tagName

/-- Reads the entries of a block sequence. -/
def readBlockSequence : Nat → Nat → List NodeId → Reading (List NodeId)
  | 0, _, _ => refuse
  | fuel + 1, room, items => do
    if ← accept .blockEntry then
      let item ←
        if ← endsEntry [.blockEntry, .blockEnd] then leftOut else readNode fuel room true false
      readBlockSequence fuel room (item :: items)
    else if ← accept .blockEnd then return items.reverse
    else refuse

/-- Reads the entries of a sequence at the column of the mapping around it. -/
def readIndentless : Nat → Nat → List NodeId → Reading (List NodeId)
  | 0, _, _ => refuse
  | fuel + 1, room, items => do
    if ← accept .blockEntry then
      let item ←
        if ← endsEntry [.blockEntry, .key, .value, .blockEnd] then leftOut
        else readNode fuel room true false
      readIndentless fuel room (item :: items)
    else return items.reverse

/-- Reads the pairs of a block mapping. -/
def readBlockMapping : Nat → Nat → List (NodeId × NodeId) → Reading (List (NodeId × NodeId))
  | 0, _, _ => refuse
  | fuel + 1, room, pairs => do
    if ← accept .key then
      let k ←
        if ← endsEntry [.key, .value, .blockEnd] then leftOut else readNode fuel room true true
      let v ←
        if ← accept .value then
          if ← endsEntry [.key, .value, .blockEnd] then leftOut
          else readNode fuel room true true
        else leftOut
      readBlockMapping fuel room ((k, v) :: pairs)
    else if ← accept .blockEnd then return pairs.reverse
    else refuse

/-- Reads the rest of a flow sequence. An entry with a key is a mapping of one pair. -/
def readFlowSequence : Nat → Nat → Bool → List NodeId → Reading (List NodeId)
  | 0, _, _, _ => refuse
  | fuel + 1, room, first, items => do
    if ← accept .flowSequenceEnd then return items.reverse
    if !first then
      unless ← accept .flowEntry do refuse
      if ← accept .flowSequenceEnd then return items.reverse
    if ← accept .key then
      let inner ← roomWithin room
      let k ←
        if ← endsEntry [.value, .flowEntry, .flowSequenceEnd] then leftOut
        else readNode fuel inner false false
      let v ←
        if ← accept .value then
          if ← endsEntry [.flowEntry, .flowSequenceEnd] then leftOut
          else readNode fuel inner false false
        else leftOut
      let id ← openNode none
      readFlowSequence fuel room false ((← closeNode id .mapping (.mapping [(k, v)])) :: items)
    else
      let item ← readNode fuel room false false
      readFlowSequence fuel room false (item :: items)

/-- Reads the rest of a flow mapping. An entry without a key's mark is a key without a value. -/
def readFlowMapping : Nat → Nat → Bool → List (NodeId × NodeId) → Reading (List (NodeId × NodeId))
  | 0, _, _, _ => refuse
  | fuel + 1, room, first, pairs => do
    if ← accept .flowMappingEnd then return pairs.reverse
    if !first then
      unless ← accept .flowEntry do refuse
      if ← accept .flowMappingEnd then return pairs.reverse
    if ← accept .key then
      let k ←
        if ← endsEntry [.value, .flowEntry, .flowMappingEnd] then leftOut
        else readNode fuel room false false
      let v ←
        if ← accept .value then
          if ← endsEntry [.flowEntry, .flowMappingEnd] then leftOut
          else readNode fuel room false false
        else leftOut
      readFlowMapping fuel room false ((k, v) :: pairs)
    else
      let k ← readNode fuel room false false
      readFlowMapping fuel room false ((k, ← leftOut) :: pairs)

end

/-! ## Documents -/

/-- Takes the directives before a document. -/
def readDirectives : Nat → Bool → List (String × String) → Reading (List (String × String))
  | 0, _, handles => return handles
  | fuel + 1, versionSeen, handles => do
    if let .directive d ← nextToken then
      advance
      match d with
      | .version major =>
        if versionSeen || major != 1 then throw .directive
        readDirectives fuel true handles
      | .handle name expansion =>
        if (handles.lookup name).isSome then throw .directive
        readDirectives fuel versionSeen (handles ++ [(name, expansion)])
      | .other => readDirectives fuel versionSeen handles
    else return handles

/-- Takes the marks at the end of a document. -/
def skipDocumentEnds : Nat → Reading Unit
  | 0 => return
  | fuel + 1 => do if ← accept .documentEnd then skipDocumentEnds fuel

/-- Takes the directives and the mark before a document: what they make of the handles of tags. -/
def readDocumentStart (fuel : Nat) : Reading (List (String × String)) := do
  let handles ← readDirectives fuel false []
  unless ← accept .documentStart do refuse
  return handles ++ commonHandles

/-- Reads a document that starts with directives or a mark. -/
def readMarkedDocument (fuel : Nat) : Reading NodeId := do
  let handles ← readDocumentStart fuel
  modify fun s => { s with handles }
  match ← nextToken with
  | .directive _ | .documentStart | .documentEnd | .streamEnd => leftOut
  | _ => readNode fuel nestingLimit true false

/-- Reads the one document of a stream. -/
def readStream (fuel : Nat) : Reading (Option NodeId) := do
  let root? ←
    match ← nextToken with
    | .streamEnd => pure none
    | .directive _ | .documentStart => some <$> readMarkedDocument fuel
    | _ => some <$> readNode fuel nestingLimit true false
  skipDocumentEnds fuel
  match ← nextToken with
  | .streamEnd => return root?
  | _ =>
    let _ ← readDocumentStart fuel
    throw .severalDocuments

/-- The one document that tokens hold, if they hold any: its nodes and the number of its root. Each
call of a reader takes a token, or is the only one to take none before the next, so a multiple of
their number bounds the calls. -/
def Graph.ofTokens (tokens : List Token) : Except Fault (Option (Graph × NodeId)) := do
  let fuel := 4 * tokens.length + 8
  let (root?, s) ← (readStream fuel).run ⟨tokens, commonHandles, [], #[]⟩
  return root?.map fun root => (s.nodes, root)

end CsdlRoutes.Yaml
