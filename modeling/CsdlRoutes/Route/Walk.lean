import CsdlRoutes.Route.Tree

/-!
# Walking the tree of routes

A walk lists the tree one node at a time. It keeps the nodes that are due on a stack, and looks for
the nodes below a node only when the node after it is asked for, so a failure there shows no earlier.
Walks are values: they do not share anything, and each can be resumed at any time.

* `Walk.start` begins a walk.
* `Walk.next` asks for a node, `Walk.take` for several.
-/

namespace CsdlRoutes.Route

open Schema (Model)

/-- A walk between two nodes. -/
structure Walk where
  model : Model
  cap : Nat
  /-- The node that was handed out last, if the nodes below it are not looked up yet. -/
  last? : Option Node
  /-- The nodes that are due, the next one first. -/
  stack : List Node

/-- What a walk answers. -/
inductive Step where
  | node (n : Node)
  | finished
  | failed (failure : Failure)
  deriving Repr

namespace Walk

/-- A walk through the tree of a model, with routes of at most a number of segments. -/
def start (m : Model) (cap : Nat) : Except Failure Walk := do
  return ⟨m, cap, none, (← roots m).reverse⟩

/-- The nodes below a node, unless the node may not have any. -/
def below (w : Walk) (n : Node) : Except Failure (List Node) :=
  if n.depth < w.cap && !w.model.isReference n.property then children w.model n else .ok []

/-- Hands out the next node of the stack. -/
def pop (w : Walk) : Step × Walk :=
  match w.stack with
  | [] => (.finished, { w with last? := none })
  | n :: rest => (.node n, { w with last? := some n, stack := rest })

/-- Asks for the next node. After a failure the walk is at its end. -/
def next (w : Walk) : Step × Walk :=
  match w.last? with
  | none => w.pop
  | some n =>
    match w.below n with
    | .error failure => (.failed failure, { w with last? := none, stack := [] })
    | .ok nodes => { w with last? := none, stack := nodes.reverse ++ w.stack }.pop

/-- What several answers in a row yield: nodes, and how they ended, if they did before the number of
nodes was reached. -/
structure Taken where
  nodes : List Node
  finished : Bool
  failure : Option Failure

/-- Asks for a number of nodes. -/
def take : Nat → Walk → Taken × Walk
  | 0, w => (⟨[], false, none⟩, w)
  | count + 1, w =>
    match w.next with
    | (.node n, w) =>
      let (taken, w) := take count w
      (⟨n :: taken.nodes, taken.finished, taken.failure⟩, w)
    | (.finished, w) => (⟨[], true, none⟩, w)
    | (.failed failure, w) => (⟨[], false, some failure⟩, w)

end Walk

end CsdlRoutes.Route
