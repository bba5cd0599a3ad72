import CsdlRoutes.Yaml.Node

/-!
# Merged mappings

The key `<<` merges the pairs of other mappings in front of the pairs of its own mapping. Its value is
a mapping, or a sequence of mappings, of which later ones come first. The key `=` is a text where a
mapping is read as a whole, also where an alias leads to that key.

* `Graph.flattenWithin` merges the pairs of a mapping, and those of the mappings that it merges in.
-/

namespace CsdlRoutes.Yaml

/-- A step that changes the nodes of a document. -/
abbrev Merging := StateT Graph (Except Fault)

namespace Graph

/-- The first pair with a merge key: its value, and the other pairs. -/
def firstMerge? (g : Graph) :
    List (NodeId × NodeId) → Option (NodeId × List (NodeId × NodeId))
  | [] => none
  | (k, v) :: rest =>
    if g.tag k = .merge then some (v, rest)
    else (firstMerge? g rest).map fun (source, others) => (source, (k, v) :: others)

/-- Makes texts of the keys `=` of a mapping. -/
def settleKeys (g : Graph) (id : NodeId) : Graph :=
  (g.pairs id).foldl (fun g (k, _) => if g.tag k = .value then g.retag .text k else g) g

/-- How many pairs with a merge key there are. -/
def mergeCount (g : Graph) : Nat :=
  g.foldl (fun n node =>
    match node.content with
    | .mapping pairs => n + (pairs.filter fun (k, _) => g.tag k = .merge).length
    | _ => n) 0

/-- Merges the pairs of a mapping. Every call but the last one takes a merge key away, so one more
than the count of these bounds the calls. -/
def flattenWithin : Nat → NodeId → Merging Unit
  | 0, _ => return
  | fuel + 1, id => do
    let g ← get
    match g.firstMerge? (g.pairs id) with
    | none => set (g.settleKeys id)
    | some (source, others) =>
      set (g.setPairs id others)
      let part (item : NodeId) : Merging (List (NodeId × NodeId)) := do
        match (← get).content item with
        | .mapping _ =>
          flattenWithin fuel item
          return (← get).pairs item
        | _ => throw .merge
      let merged ←
        match g.content source with
        | .sequence items => (fun parts => parts.reverse.flatten) <$> items.mapM part
        | _ => part source
      flattenWithin fuel id
      modify fun g => g.setPairs id (merged ++ g.pairs id)

end Graph

end CsdlRoutes.Yaml
