import CsdlRoutes.Yaml.Shape

/-!
# Values of YAML documents

The shapes of nodes are put together to the value of a document. Parts that several aliases lead to
are put together once. Where a collection leads to itself there is no finite value: such a document is
unfolded level by level, and its collections are labelled by the numbers of their nodes. A way through
a document that meets no collection twice has at most as many steps as there are collections, and
whatever reads a document looks at no more than `lookDepth` levels before it starts on such a way.

* `valueOf?` is the value of a node, unless some collection leads to itself.
* `unfolded` is the value of every node, unfolded by a number of levels.
* `Yaml.read` reads a text.
-/

namespace CsdlRoutes.Yaml

/-- The value that a shape describes, given how those of its parts are found. -/
def Shape.value {m : Type → Type} [Monad m] (part : NodeId → m Value) : Shape → m Value
  | .leaf s => pure (.scalar s)
  | .set keys => pure (.set keys)
  | .list items => .list <$> items.mapM part
  | .object members => .object <$> members.mapM fun (k, v) => Prod.mk k <$> part v
  | .pairs entries => .list <$> entries.mapM fun (k, v) => Value.pair <$> part k <*> part v

/-! ## Documents without loops -/

/-- A step that looks up and keeps the values of the nodes that were put together. -/
abbrev Assembly := StateT (Array (Option Value)) Option

/-- The value of a node, put together once. A way that is longer than there are nodes leads to some
collection twice. -/
def assemble (shapes : Array Shape) : Nat → NodeId → Assembly Value
  | 0, _ => failure
  | fuel + 1, id => do
    if let some v := (← get).getD id none then return v
    let v ← (shapes.getD id default).value (assemble shapes fuel)
    modify fun values => values.setIfInBounds id (some v)
    return v

/-- The value of a node, unless some collection leads to itself. -/
def valueOf? (shapes : Array Shape) (root : NodeId) : Option Value :=
  (assemble shapes (shapes.size + 1) root).run' (Array.replicate shapes.size none)

/-! ## Documents with loops -/

/-- Whether a shape is that of a collection. -/
def Shape.isCollection : Shape → Bool
  | .leaf _ => false
  | _ => true

/-- The value of a node, given those of its parts. A collection is labelled. -/
def Shape.labelledValue (part : NodeId → Value) (id : NodeId) (shape : Shape) : Value :=
  let v := Id.run (shape.value fun id => pure (part id))
  if shape.isCollection then .labelled id v else v

/-- The values of all nodes, unfolded by a number of levels. On the last level collections are given
as if they were empty. -/
def unfolded (shapes : Array Shape) : Nat → Array Value
  | 0 => shapes.map fun shape => if let .leaf s := shape then .scalar s else .list []
  | levels + 1 =>
    let parts := unfolded shapes levels
    shapes.mapIdx fun id shape => shape.labelledValue (fun id => parts.getD id .null) id

/-- How many levels of a document are looked at one by one. -/
def lookDepth : Nat := 8

/-- The value of a node of a document with loops. -/
def unfoldedValue (shapes : Array Shape) (root : NodeId) : Value :=
  let collections := (shapes.filter Shape.isCollection).size
  (unfolded shapes (collections + lookDepth)).getD root .null

/-! ## Texts -/

/-- Reads a text. An empty one is null. -/
def read (text : String) : Except Fault Value := do
  match ← Graph.ofTokens (Token.scan text) with
  | none => return .null
  | some (g, root) =>
    let shapes ← shapesOf g root
    return (valueOf? shapes root).getD (unfoldedValue shapes root)

end CsdlRoutes.Yaml
