import CsdlRoutes.Yaml.Leaf
import CsdlRoutes.Yaml.Merge

/-!
# What the nodes of a document denote

A node denotes a leaf or a collection, and a collection is described by the numbers of its parts. A
collection is known to be one as soon as it is met, and its parts are read when its turn comes: the
collections take turns in the order in which they were met. So of several faults the one nearest to
the root is reported, and of those at one depth the first. What a node denotes is worked out once,
whatever leads to it.

* `Shape` describes what a node denotes.
* `shapesOf` works out the shapes of all nodes that a document reaches.
-/

namespace CsdlRoutes.Yaml

/-- What a node denotes. -/
inductive Shape where
  | leaf (s : Scalar)
  | list (items : List NodeId)
  | object (members : Keyed NodeId)
  | set (keys : List Scalar)
  | pairs (entries : List (NodeId × NodeId))
  deriving Repr, Inhabited

/-- What is known while shapes are worked out. -/
structure Shaping where
  graph : Graph
  /-- How many merge keys there were at first. -/
  merges : Nat
  /-- The shapes of the nodes that were met. -/
  shapes : Array (Option Shape)
  /-- The collections in the order in which they were met. -/
  met : Array NodeId

/-- A step of working out shapes. -/
abbrev ShapingM := StateT Shaping (Except Fault)

/-! ## Leaves -/

/-- The text of a node that stands for a text: a scalar, or a mapping with a key for such a value. A
mapping that leads back to itself has none. -/
def textOf (g : Graph) (tag : Tag) : Nat → NodeId → Except Fault String
  | 0, _ => .error (.unreadable .selfReference)
  | fuel + 1, id =>
    match g.content id with
    | .scalar text => .ok text
    | .sequence _ => .error (.wrongKind tag.name)
    | .mapping pairs =>
      match pairs.find? fun (k, _) => g.tag k = .value with
      | some (_, v) => textOf g tag fuel v
      | none => .error (.wrongKind tag.name)

/-- The leaf that a node denotes. A date has to be a scalar. -/
def leafShape (g : Graph) (id : NodeId) : Except Fault Scalar :=
  let tag := g.tag id
  if tag.isUnknown then .error (.unknownTag tag.name)
  else do
    let text ← textOf g tag (g.size + 1) id
    match tag, g.content id with
    | .moment, .mapping _ => .error (.unreadable .objectAsDate)
    | _, _ => leafOf (id + 1) tag text

/-! ## Collections -/

/-- The shape of a node, which is worked out when the node is met for the first time. A collection is
empty until its turn comes. -/
def meet (id : NodeId) : ShapingM Shape := do
  let s ← get
  match s.shapes.getD id none with
  | some shape => return shape
  | none =>
    if (s.graph.tag id).isCollection then
      let shape := Shape.list []
      set { s with shapes := s.shapes.setIfInBounds id (some shape), met := s.met.push id }
      return shape
    else
      let shape := Shape.leaf (← leafShape s.graph id)
      set { s with shapes := s.shapes.setIfInBounds id (some shape) }
      return shape

/-- The key that a node denotes. -/
def meetKey (id : NodeId) : ShapingM Scalar := do
  match ← meet id with
  | .leaf s => return s
  | _ => throw .collectionAsKey

/-- Reads the pairs of a mapping. -/
def readMembers (members : Keyed NodeId) : List (NodeId × NodeId) → ShapingM (Keyed NodeId)
  | [] => return members
  | (k, v) :: rest => do
    let key ← meetKey k
    let _ ← meet v
    readMembers (Keyed.put key v members) rest

/-- Reads a mapping, after the mappings that it merges in. -/
def readObject (id : NodeId) : ShapingM (Keyed NodeId) := do
  let s ← get
  let (_, graph) ← (Graph.flattenWithin (s.merges + 1) id).run s.graph
  set { s with graph }
  readMembers [] (graph.pairs id)

/-- Reads an entry of a list of pairs, which is a mapping of one pair. -/
def readEntry (tag : Tag) (item : NodeId) : ShapingM (NodeId × NodeId) := do
  match (← get).graph.content item with
  | .mapping [(k, v)] =>
    let _ ← meet k
    let _ ← meet v
    return (k, v)
  | _ => throw (.wrongKind tag.name)

/-- Reads the parts of a collection. -/
def readCollection (id : NodeId) : ShapingM Shape := do
  let g := (← get).graph
  let tag := g.tag id
  match tag, g.content id with
  | .sequence, .sequence items =>
    items.forM fun item => discard (meet item)
    return .list items
  | .mapping, .mapping _ => return .object (← readObject id)
  | .set, .mapping _ => return .set ((← readObject id).map (·.1))
  | .orderedMap, .sequence items | .pairs, .sequence items =>
    return .pairs (← items.mapM (readEntry tag))
  | _, _ => throw (.wrongKind tag.name)

/-- Reads the parts of the collections that were met, from a position in their order on. Every node is
met once, so the count of the nodes bounds the positions. -/
def readCollections : Nat → Nat → ShapingM Unit
  | 0, _ => return
  | fuel + 1, position => do
    if let some id := (← get).met[position]? then
      let shape ← readCollection id
      modify fun s => { s with shapes := s.shapes.setIfInBounds id (some shape) }
      readCollections fuel (position + 1)

/-- The shapes of the nodes that the root of a document leads to. -/
def shapesOf (g : Graph) (root : NodeId) : Except Fault (Array Shape) := do
  let read : ShapingM Unit := do
    let _ ← meet root
    readCollections (g.size + 1) 0
  let (_, s) ← read.run ⟨g, g.mergeCount, Array.replicate g.size none, #[]⟩
  return s.shapes.map fun shape? => shape?.getD default

end CsdlRoutes.Yaml
