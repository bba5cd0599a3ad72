import CsdlRoutes.Proofs.Route.ClosedWalk

/-!
# The cap only leaves nodes out

Two walks through one model with different caps part ways at every node that is as deep as the lower
cap. Still the walk with the lower cap hands out what the other one does, in the same order, without
the nodes that are too deep: whether a node is listed, and where, does not depend on how much deeper
the walk may go. Roots are listed whatever the cap.

* `offspring_of_le`: a node above the lower cap has the same nodes below it under both caps.
* `subtree_capped`: the subtree of a node under the lower cap.
* `walk_lists_capped`: the two walks.
-/

namespace CsdlRoutes.Route

open Schema (Model)

variable {m : Model} {low high : Nat}

/-- Whether a node may be listed under a cap. -/
def Node.isWithin (cap : Nat) (n : Node) : Bool := decide (n.depth ≤ max 1 cap)

theorem offspring_of_le (h : low ≤ high) {n : Node} (hn : n.depth < low) :
    offspring m low n = offspring m high n := by
  have hhigh : n.depth < high := by omega
  simp only [offspring, hn, hhigh]

theorem offspring_of_deep {n : Node} (hn : low ≤ n.depth) : offspring m low n = .ok [] := by
  have hdeep : ¬ n.depth < low := by omega
  simp [offspring, hdeep]

/-- Nothing that is listed below a node as deep as the lower cap may be listed under it. -/
theorem filter_forest_of_deep (hm : m.Closed) {n : Node} (hn : n.Leads m) {nodes : List Node}
    (hnodes : offspring m high n = .ok nodes) (hdeep : low ≤ n.depth) :
    (forest m high nodes.reverse).filter (Node.isWithin low) = [] := by
  rw [List.filter_eq_nil_iff]
  intro d hd hwithin
  have hlt := depth_lt_of_mem_forest hm hn hnodes hd
  have hpos : 1 ≤ n.depth := Nat.le_add_left 1 _
  have hle : d.depth ≤ max 1 low := by simpa [Node.isWithin] using hwithin
  omega

/-- Under the lower cap a subtree is what may be listed of the one under the higher cap. The
induction goes downwards as far as the higher cap allows. -/
theorem subtree_capped (hm : m.Closed) (h : low ≤ high) {n : Node} (hn : n.Leads m)
    (hwithin : n.isWithin low = true) :
    subtree m low n = (subtree m high n).filter (Node.isWithin low) := by
  refine downwards (P := fun n => n.isWithin low = true →
    subtree m low n = (subtree m high n).filter (Node.isWithin low)) hm high ?_ hn hwithin
  intro n nodes hn hnodes ih hwithin
  rw [subtree_eq hm hn hnodes, List.filter_cons_of_pos hwithin]
  by_cases hshallow : n.depth < low
  · rw [subtree_eq hm hn ((offspring_of_le h hshallow).trans hnodes), forest, forest,
      List.filter_flatMap]
    congr 1
    refine List.flatMap_congr fun c hc => ?_
    have hc := List.mem_reverse.mp hc
    have hbelow : Below m high n c := ⟨nodes, hnodes, hc⟩
    have hdepth := depth_of_below hbelow
    refine ih c hc ?_
    simp only [Node.isWithin, decide_eq_true_eq]
    omega
  · have hdeep : low ≤ n.depth := by omega
    rw [subtree_eq hm hn (offspring_of_deep hdeep), filter_forest_of_deep hm hn hnodes hdeep]
    rfl

theorem forest_capped (hm : m.Closed) (h : low ≤ high) {rs : List Node} (hrs : roots m = .ok rs) :
    forest m low rs.reverse = (forest m high rs.reverse).filter (Node.isWithin low) := by
  rw [forest, forest, List.filter_flatMap]
  refine List.flatMap_congr fun r hr => ?_
  have hr := List.mem_reverse.mp hr
  refine subtree_capped hm h (leads_of_mem_roots hm hrs hr) ?_
  simp only [Node.isWithin, depth_of_mem_roots hrs hr, decide_eq_true_eq]
  omega

/-- Whether a walk begins does not depend on its cap. -/
theorem start_eq_error_iff {failure : Failure} :
    Walk.start m low = .error failure ↔ Walk.start m high = .error failure := by
  unfold Walk.start
  cases roots m with
  | error why => exact Iff.rfl
  | ok rs =>
    constructor
    · intro h
      cases h
    · intro h
      cases h

/-- **The cap is a filter.** Of two walks through a closed model the one with the lower cap hands
out those nodes of the other one that are not deeper than its cap allows, in their order. If one
walk does not begin, neither does the other. -/
theorem walk_lists_capped (hm : m.Closed) (h : low ≤ high) :
    (∀ failure, Walk.start m low = .error failure ↔ Walk.start m high = .error failure) ∧
      ∀ w, Walk.start m low = .ok w → ∃ v nodes, Walk.start m high = .ok v ∧ v.Lists nodes ∧
        w.Lists (nodes.filter fun n => decide (n.depth ≤ max 1 low)) := by
  refine ⟨fun failure => start_eq_error_iff, fun w hw => ?_⟩
  obtain ⟨rs, hrs, hlists, _⟩ := lists_forest hm hw
  obtain ⟨v, hv⟩ := (exists_walk_iff hm high).mpr ((exists_walk_iff hm low).mp ⟨w, hw⟩)
  obtain ⟨rs', hrs', hlists', _⟩ := lists_forest hm hv
  rw [hrs] at hrs'
  cases hrs'
  exact ⟨v, _, hv, hlists', forest_capped hm h hrs ▸ hlists⟩

theorem directory_walk_lists_capped :
    Model.directory.Closed ∧ 2 ≤ 4 ∧
      (∀ failure, Walk.start Model.directory 2 = .error failure ↔
        Walk.start Model.directory 4 = .error failure) ∧
      ∃ w v nodes, Walk.start Model.directory 2 = .ok w ∧ Walk.start Model.directory 4 = .ok v ∧
        v.Lists nodes ∧ w.Lists (nodes.filter fun n => decide (n.depth ≤ max 1 2)) := by
  have hclosed : Model.directory.Closed := by decide
  have hle : 2 ≤ 4 := by decide
  obtain ⟨hsame, hlists⟩ := walk_lists_capped hclosed hle
  obtain ⟨w, hw⟩ : ∃ w, Walk.start Model.directory 2 = .ok w := ⟨_, rfl⟩
  obtain ⟨v, nodes, hv, hnodes⟩ := hlists w hw
  exact ⟨hclosed, hle, hsame, w, v, nodes, hw, hv, hnodes⟩

end CsdlRoutes.Route
