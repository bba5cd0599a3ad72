import CsdlRoutes.Route.Walk
import CsdlRoutes.Schema.SubtypeIndex

/-!
# Several walks through one model

Any number of walks may be under way through one model, each with its own greatest number of segments
and its own stack. They are begun and asked for their next node in any order. All that they share is
the index of subtypes that the model keeps: whichever walk needs it first has it built.

* `Walk.cachedStart`, `Walk.cachedNext` are the steps of one walk.
* `Walks` are the walks through a model.
* `Walks.answer` answers one request, `Walks.run` a row of them.
-/

namespace CsdlRoutes.Route

open Schema (Cached Model SubtypeIndex)

/-- The nodes below a node. -/
def cachedChildren (m : Model) (n : Node) : Cached (List Node) := do
  let target ← m.targetType n.property
  let candidates ← m.cachedSegments target
  return (candidates.filter fun p => !n.onPath.contains p.canonicalName).map n.child

/-- The nodes at the root: one for each member of the entity container. -/
def cachedRoots (m : Model) : Cached (List Node) := do
  let container ← m.rootContainer.mapError asArgument
  let members ← m.cachedSegmentsAs true container
  return members.map Node.root

namespace Walk

/-- A walk through the tree of a model, with routes of at most a number of segments. -/
def cachedStart (m : Model) (cap : Nat) : Cached Walk := do
  let rs ← cachedRoots m
  return ⟨m, cap, none, rs.reverse⟩

/-- The nodes below a node, unless the node may not have any. -/
def cachedBelow (w : Walk) (n : Node) : Cached (List Node) :=
  if n.depth < w.cap && !w.model.isReference n.property then cachedChildren w.model n else return []

/-- Asks for the next node. After a failure the walk is at its end. -/
def cachedNext (w : Walk) : StateM (Option SubtypeIndex) (Step × Walk) :=
  match w.last? with
  | none => return w.pop
  | some n => do
    match ← (w.cachedBelow n).run with
    | .error failure => return (.failed failure, { w with last? := none, stack := [] })
    | .ok nodes => return { w with last? := none, stack := nodes.reverse ++ w.stack }.pop

end Walk

/-- What may be asked for: another walk, or the next node of one of the walks. -/
inductive Request where
  | start (cap : Nat)
  | next (walk : Nat)
  deriving DecidableEq, Repr

/-- What is answered. -/
inductive Reply where
  | started
  | refused (failure : Failure)
  | answered (step : Step)
  | noWalk
  deriving Repr

/-- The walks through a model in the order in which they were begun, and the index of subtypes, if
one of them had it built. -/
structure Walks where
  index? : Option SubtypeIndex
  walks : List Walk

namespace Walks

/-- No walks, and no index. -/
def fresh : Walks := ⟨none, []⟩

/-- Answers a request. -/
def answer (m : Model) (ws : Walks) : Request → Reply × Walks
  | .start cap =>
    match (Walk.cachedStart m cap).run.run ws.index? with
    | (.ok w, index?) => (.started, ⟨index?, ws.walks ++ [w]⟩)
    | (.error failure, index?) => (.refused failure, ⟨index?, ws.walks⟩)
  | .next i =>
    match ws.walks[i]? with
    | none => (.noWalk, ws)
    | some w =>
      match w.cachedNext.run ws.index? with
      | ((step, w'), index?) => (.answered step, ⟨index?, ws.walks.set i w'⟩)

/-- Answers requests one after another. -/
def run (m : Model) : Walks → List Request → List Reply × Walks
  | ws, [] => ([], ws)
  | ws, request :: rest =>
    let (reply, ws) := ws.answer m request
    let (replies, ws) := run m ws rest
    (reply :: replies, ws)

end Walks

end CsdlRoutes.Route
