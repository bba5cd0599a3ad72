import CsdlRoutes.Route.Template
import CsdlRoutes.Route.Tree

/-!
# Rows of a listing of routes

A listing shows each node of the tree as a row: its template, its depth, the type that it leads to,
and the kind of its last edge.

* `rows` are the rows of a model.
* `withoutReferences` and `byPath` select and order rows.
-/

namespace CsdlRoutes.Route

open Schema (Model)

/-- The kind of the edge that leads to a node. -/
inductive Edge where
  /-- A collection at the root. -/
  | entitySet
  /-- A single resource at the root. -/
  | singleton
  | reference
  | containment
  deriving DecidableEq, Repr

/-- The word for a kind of edge. -/
def Edge.word : Edge → String
  | .entitySet => "entity-set"
  | .singleton => "singleton"
  | .reference => "reference"
  | .containment => "containment"

/-- The kind of the edge that leads to a node. -/
def Node.edge (m : Model) (n : Node) : Edge :=
  match n.above with
  | [] => if n.property.isCollection then .entitySet else .singleton
  | _ => if m.isReference n.property then .reference else .containment

/-- A row of a listing. -/
structure Row where
  path : String
  depth : Nat
  target : String
  edge : Edge
  deriving DecidableEq, Repr

/-- The headers of a listing. -/
def Row.headers : List String := ["Path", "Depth", "Target", "Edge"]

/-- The cells of a row. -/
def Row.cells (r : Row) : List String := [r.path, toString r.depth, r.target, r.edge.word]

/-- The row of a node. -/
def Node.row (m : Model) (n : Node) : Except Failure Row := do
  return ⟨← template m n.route, n.depth, n.property.typeName, n.edge m⟩

/-- The rows of a model, with routes of at most a number of segments. -/
def rows (m : Model) (cap : Nat) : Except Failure (List Row) := do
  let emission ← listing m cap
  let rows ← emission.nodes.mapM (Node.row m)
  match emission.failure with
  | some failure => throw failure
  | none => return rows

/-- The rows whose last edge is more than a reference. -/
def withoutReferences (rows : List Row) : List Row := rows.filter (·.edge != .reference)

/-- Rows in the order of their paths. Rows of one path stay in their order. -/
def byPath (rows : List Row) : List Row := rows.mergeSort fun a b => decide (a.path ≤ b.path)

end CsdlRoutes.Route
