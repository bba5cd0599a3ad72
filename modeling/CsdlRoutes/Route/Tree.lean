import CsdlRoutes.Schema.Segments

/-!
# The tree of routes

The graph of a schema has cycles; its routes form a tree. A node of the tree is a property with the
properties that lead to it. Its children are the route segments of its target that are not on the way
already, unless it is a mere reference or as deep as allowed. Children are listed in reverse.

* `children` are the nodes below a node.
* `visit` lists a node and everything below it.
* `listing` lists the tree of a model.
-/

namespace CsdlRoutes.Route

open Schema (Model Property)

/-- A place in the tree: a property, and the properties that lead to it, the nearest first. -/
structure Node where
  property : Property
  above : List Property
  deriving DecidableEq, Repr

namespace Node

/-- The properties from the root down to a node. -/
def route (n : Node) : List Property := (n.property :: n.above).reverse

/-- The number of properties from the root down to a node. -/
def depth (n : Node) : Nat := n.above.length + 1

/-- The node right above a node. -/
def parent? (n : Node) : Option Node :=
  match n.above with
  | [] => none
  | p :: rest => some ⟨p, rest⟩

/-- A node, the one above it, and so on up to the root. -/
def ancestors (n : Node) : List Node :=
  go n.property n.above
where
  /-- The nodes from a property and those above it upwards. -/
  go (p : Property) : List Property → List Node
    | [] => [⟨p, []⟩]
    | q :: rest => ⟨p, q :: rest⟩ :: go q rest

/-- The node for a property below a node. -/
def child (n : Node) (p : Property) : Node := ⟨p, n.property :: n.above⟩

/-- The node for a property at the root. -/
def root (p : Property) : Node := ⟨p, []⟩

/-- The canonical names of the properties down to a node. -/
def onPath (n : Node) : List String := (n.property :: n.above).map (·.canonicalName)

/-- The names down to a node, as one text. -/
def names (n : Node) : String := "/".intercalate (n.route.map (·.name))

end Node

/-- The nodes below a node. -/
def children (m : Model) (n : Node) : Except Failure (List Node) := do
  let target ← m.targetType n.property
  let candidates ← m.segments target
  return (candidates.filter fun p => !n.onPath.contains p.canonicalName).map n.child

/-- What a listing yields: nodes, and the failure that ended it, if one did. -/
structure Emission where
  nodes : List Node
  failure : Option Failure
  deriving Repr

namespace Emission

/-- Nothing. -/
def empty : Emission := ⟨[], none⟩

/-- A node, and then what a listing yields. -/
def cons (n : Node) (e : Emission) : Emission := ⟨n :: e.nodes, e.failure⟩

/-- What one listing yields and, unless it failed, what another one does. -/
def append (e f : Emission) : Emission :=
  match e.failure with
  | some failure => ⟨e.nodes, some failure⟩
  | none => ⟨e.nodes ++ f.nodes, f.failure⟩

/-- What a row of listings yields. -/
def concat : List Emission → Emission
  | [] => empty
  | e :: rest => e.append (concat rest)

end Emission

/-- Lists a node and what is below it, down to a number of levels. -/
def visit (m : Model) : Nat → Node → Emission
  | 0, n => .cons n .empty
  | levels + 1, n =>
    if m.isReference n.property then .cons n .empty
    else
      match children m n with
      | .error failure => ⟨[n], some failure⟩
      | .ok below => .cons n (.concat (below.reverse.map (visit m levels)))

/-- A failure to find the entity container, as a wrong argument. -/
def asArgument : Failure → Failure
  | .schema (.containerNotFound name) => .argument (.noContainer name)
  | f => f

/-- The nodes at the root: one for each member of the entity container. -/
def roots (m : Model) : Except Failure (List Node) := do
  let container ← m.rootContainer.mapError asArgument
  return (← m.segmentsAs true container).map Node.root

/-- Lists the tree of a model, with routes of at most a number of segments. The roots are listed
whatever the number. -/
def listing (m : Model) (cap : Nat) : Except Failure Emission := do
  return .concat ((← roots m).reverse.map (visit m (cap - 1)))

/-- The greatest number of segments, from a value that may be anything. -/
def capOf (v : Value) : Except Failure Nat :=
  match v with
  | .scalar (.int (.ofNat n)) => .ok n
  | v => .error (.argument (.depthNoCount v))

/-- The greatest number of segments where none is given. -/
def defaultCap : Nat := 5

end CsdlRoutes.Route
