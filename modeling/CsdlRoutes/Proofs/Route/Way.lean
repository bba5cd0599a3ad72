import Mathlib.Data.List.Infix
import CsdlRoutes.Route.Tree

/-!
# The way to a node

A node is its property with the properties above it, the nearest first. This list, its way, says all
about where it stands: the nodes above it are the ends of its way, and the node right above it is
its way without the first property.

* `Node.mem_ancestors_iff`: a node is above another one when its way is an end of the way of that.
* `Node.parent?_eq_some_iff`: the node right above a node.
-/

namespace CsdlRoutes.Route.Node

open Schema (Property)

/-- The properties from a node up to the root. -/
def way (n : Node) : List Property := n.property :: n.above

theorem way_injective {a b : Node} (h : a.way = b.way) : a = b := by
  cases a
  cases b
  cases h
  rfl

theorem length_way (n : Node) : n.way.length = n.depth := rfl

theorem route_eq_reverse_way (n : Node) : n.route = n.way.reverse := rfl

theorem length_route (n : Node) : n.route.length = n.depth := by
  rw [route_eq_reverse_way, List.length_reverse, length_way]

theorem route_injective {a b : Node} (h : a.route = b.route) : a = b :=
  way_injective (List.reverse_injective h)

theorem way_child (n : Node) (p : Property) : (n.child p).way = p :: n.way := rfl

theorem mem_ancestors_go {a : Node} {p : Property} {above : List Property} :
    a ∈ ancestors.go p above ↔ a.way <:+ p :: above := by
  induction above generalizing p with
  | nil =>
    rw [ancestors.go, List.mem_singleton]
    constructor
    · rintro rfl
      exact List.suffix_rfl
    · intro h
      rcases List.suffix_cons_iff.mp h with h | h
      · exact way_injective (b := ⟨p, []⟩) h
      · exact absurd (List.suffix_nil.mp h) (List.cons_ne_nil _ _)
  | cons q rest ih =>
    rw [ancestors.go, List.mem_cons, ih]
    constructor
    · rintro (rfl | h)
      · exact List.suffix_rfl
      · exact h.trans (List.suffix_cons _ _)
    · intro h
      rcases List.suffix_cons_iff.mp h with h | h
      · exact Or.inl (way_injective (b := ⟨p, q :: rest⟩) h)
      · exact Or.inr h

theorem mem_ancestors_iff {a n : Node} : a ∈ n.ancestors ↔ a.way <:+ n.way := mem_ancestors_go

theorem parent?_eq_some_iff {a n : Node} : n.parent? = some a ↔ n.above = a.way := by
  obtain ⟨p, above⟩ := n
  cases above with
  | nil => simp [parent?, way]
  | cons q rest =>
    simp only [parent?, Option.some.injEq]
    constructor
    · rintro rfl
      rfl
    · intro h
      exact way_injective h

theorem parent?_eq_none_iff {n : Node} : n.parent? = none ↔ n.depth = 1 := by
  obtain ⟨p, above⟩ := n
  cases above <;> simp [parent?, depth]

/-- What stands right below a node on the way of a deeper node that has it above it. -/
theorem above_eq_way {a n : Node} (h : a.way <:+ n.way) (hdepth : n.depth = a.depth + 1) :
    n.above = a.way := by
  obtain ⟨front, hfront⟩ := h
  have hlength : front.length = 1 := by
    have := congrArg List.length hfront
    rw [List.length_append, length_way, length_way] at this
    omega
  obtain ⟨p, rfl⟩ := List.length_eq_one_iff.mp hlength
  exact (List.cons.inj hfront).2.symm

theorem eq_of_way_suffix {a b n : Node} (ha : a.way <:+ n.way) (hb : b.way <:+ n.way)
    (hdepth : a.depth = b.depth) : a = b := by
  have h := List.suffix_of_suffix_length_le ha hb (by rw [length_way, length_way]; omega)
  exact way_injective (h.eq_of_length (by rw [length_way, length_way]; exact hdepth))

end CsdlRoutes.Route.Node
