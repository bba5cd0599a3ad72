import Mathlib.Data.List.Chain
import CsdlRoutes.Proofs.Route.ClosedWalk

/-!
# Which routes are listed

A route is admissible when it begins with a segment of the entity container, goes on from target to
target by their segments, takes no canonical name twice, does not go on behind a mere reference, and
is not longer than allowed. In a closed model these are the routes of the nodes that a walk hands
out, and each of them is handed out once. The graph may have any cycles.

* `Admissible` states the conditions, for a route by itself.
* `admissible_child_iff`: how an admissible route grows by one property.
* `walk_lists_admissible`: what a walk hands out.
-/

namespace CsdlRoutes.Route

open Schema (Model Property SchemaType)

variable {m : Model} {cap : Nat}

/-- A property is a segment of the type that the one before it leads to. -/
def Continues (m : Model) (p q : Property) : Prop :=
  ∃ target segs, m.targetType p = .ok target ∧ m.segments target = .ok segs ∧ q ∈ segs

/-- A property is a segment of the entity container. -/
def Starts (m : Model) (p : Property) : Prop :=
  ∃ c segs, m.rootContainer = .ok c ∧ m.segmentsAs true c = .ok segs ∧ p ∈ segs

/-- The routes of a model with at most a number of segments. One segment is always allowed. -/
structure Admissible (m : Model) (cap : Nat) (route : List Property) : Prop where
  starts : ∃ p, route.head? = some p ∧ Starts m p
  continues : route.IsChain (Continues m)
  distinct : (route.map Property.canonicalName).Nodup
  resources : ∀ p ∈ route.dropLast, m.isReference p = false
  short : route.length ≤ max 1 cap

/-! ## Growth -/

theorem admissible_singleton_iff {p : Property} : Admissible m cap [p] ↔ Starts m p := by
  constructor
  · intro h
    obtain ⟨q, hq, hstarts⟩ := h.starts
    cases hq
    exact hstarts
  · intro h
    exact ⟨⟨p, rfl, h⟩, List.isChain_singleton p, List.nodup_singleton _, by simp,
      Nat.le_max_left 1 cap⟩

theorem below_child_iff {n : Node} {p : Property} :
    Below m cap n (n.child p) ↔ n.depth < cap ∧ m.isReference n.property = false ∧
      Continues m n.property p ∧ p.canonicalName ∉ n.onPath := by
  constructor
  · intro h
    obtain ⟨hdepth, href, nodes, hchildren, hc⟩ := children_of_below h
    obtain ⟨target, segs, htarget, hsegs, rfl⟩ := children_eq_ok hchildren
    obtain ⟨q, hq, he⟩ := List.mem_map.mp hc
    obtain rfl : q = p := congrArg Node.property he
    obtain ⟨hmem, hnew⟩ := List.mem_filter.mp hq
    exact ⟨hdepth, href, ⟨target, segs, htarget, hsegs, hmem⟩, by simpa using hnew⟩
  · rintro ⟨hdepth, href, ⟨target, segs, htarget, hsegs, hmem⟩, hnew⟩
    refine ⟨(segs.filter fun p => !n.onPath.contains p.canonicalName).map n.child, ?_, ?_⟩
    · simp only [offspring, hdepth, href, decide_true, Bool.not_false, Bool.and_self, if_true]
      rw [children, htarget, ok_bind, hsegs]
      rfl
    · exact List.mem_map_of_mem (List.mem_filter.mpr ⟨hmem, by simpa using hnew⟩)

theorem route_child (n : Node) (p : Property) : (n.child p).route = n.route ++ [p] := by
  rw [Node.route_eq_reverse_way, Node.way_child, List.reverse_cons, Node.route_eq_reverse_way]

theorem route_eq_concat (n : Node) : n.route = n.above.reverse ++ [n.property] := List.reverse_cons

theorem mem_onPath_iff {n : Node} {name : String} :
    name ∈ n.onPath ↔ name ∈ n.route.map Property.canonicalName := by
  rw [Node.onPath, Node.route, List.map_reverse, List.mem_reverse]

theorem Node.route_ne_nil (n : Node) : n.route ≠ [] := by simp [Node.route]

theorem Node.getLast?_route (n : Node) : n.route.getLast? = some n.property := by simp [route_eq_concat]

theorem Admissible.of_child {n : Node} {p : Property} (h : Admissible m cap (n.child p).route) :
    Admissible m cap n.route ∧ Below m cap n (n.child p) := by
  rw [route_child] at h
  rw [below_child_iff]
  obtain ⟨q, hq, hstarts⟩ := h.starts
  obtain ⟨hchain, _, hstep⟩ := List.isChain_append.mp h.continues
  have hdistinct := h.distinct
  rw [List.map_append, List.nodup_append] at hdistinct
  have hresources : ∀ q ∈ n.route, m.isReference q = false := by
    simpa [List.dropLast_append_of_ne_nil] using h.resources
  have hshort := h.short
  rw [List.length_append, Node.length_route, List.length_singleton] at hshort
  have hdepth : 1 ≤ n.depth := Nat.le_add_left 1 _
  refine ⟨⟨⟨q, ?_, hstarts⟩, hchain, hdistinct.1, ?_, ?_⟩, ?_, ?_, ?_, ?_⟩
  · rwa [List.head?_append_of_ne_nil _ n.route_ne_nil] at hq
  · exact fun q hq => hresources q (List.mem_of_mem_dropLast hq)
  · rw [Node.length_route]
    omega
  · omega
  · exact hresources _ (List.mem_of_getLast? n.getLast?_route)
  · exact hstep _ n.getLast?_route _ rfl
  · intro hmem
    rw [mem_onPath_iff] at hmem
    exact hdistinct.2.2 _ hmem _ List.mem_cons_self rfl

theorem Admissible.child {n : Node} {p : Property} (h : Admissible m cap n.route)
    (hbelow : Below m cap n (n.child p)) : Admissible m cap (n.child p).route := by
  obtain ⟨hdepth, href, hcontinues, hnew⟩ := below_child_iff.mp hbelow
  obtain ⟨q, hq, hstarts⟩ := h.starts
  rw [route_child]
  refine ⟨⟨q, ?_, hstarts⟩, ?_, ?_, ?_, ?_⟩
  · rwa [List.head?_append_of_ne_nil _ n.route_ne_nil]
  · refine List.isChain_append.mpr ⟨h.continues, List.isChain_singleton p, ?_⟩
    intro a ha b hb
    rw [n.getLast?_route] at ha
    cases ha
    cases hb
    exact hcontinues
  · rw [List.map_append, List.nodup_append]
    refine ⟨h.distinct, List.nodup_singleton _, ?_⟩
    intro a ha b hb he
    rw [List.map_singleton, List.mem_singleton] at hb
    rw [mem_onPath_iff] at hnew
    exact hnew (hb ▸ he ▸ ha)
  · intro q hq
    rw [List.dropLast_concat, route_eq_concat] at hq
    rcases List.mem_append.mp hq with hq | hq
    · refine h.resources q ?_
      rw [route_eq_concat, List.dropLast_concat]
      exact hq
    · rw [List.mem_singleton.mp hq]
      exact href
  · rw [List.length_append, Node.length_route, List.length_singleton]
    omega

/-- The route of a node grows by a property exactly when the node for the property is listed right
below it. -/
theorem admissible_child_iff {n : Node} {p : Property} :
    Admissible m cap (n.child p).route ↔
      Admissible m cap n.route ∧ Below m cap n (n.child p) :=
  ⟨Admissible.of_child, fun ⟨h, hbelow⟩ => h.child hbelow⟩

/-! ## Listed routes -/

/-- The routes that are reached from the roots are the admissible ones. The induction is on the
properties above a node, upwards from the nearest. -/
theorem reached_iff_admissible {rs : List Node} (hrs : roots m = .ok rs) (p : Property)
    (above : List Property) :
    (∃ r ∈ rs, Relation.ReflTransGen (Below m cap) r ⟨p, above⟩) ↔
      Admissible m cap (Node.mk p above).route := by
  obtain ⟨c, segs, hc, hsegs, rfl⟩ := roots_eq_ok hrs
  induction above generalizing p with
  | nil =>
    have hroute : (Node.mk p []).route = [p] := rfl
    rw [hroute, admissible_singleton_iff]
    constructor
    · rintro ⟨r, hr, hreach⟩
      obtain ⟨q, hq, rfl⟩ := List.mem_map.mp hr
      have hsame := (suffix_of_reach hreach).eq_of_length rfl
      cases hsame
      exact ⟨c, segs, hc, hsegs, hq⟩
    · rintro ⟨c', segs', hc', hsegs', hp⟩
      rw [hc] at hc'
      cases hc'
      rw [hsegs] at hsegs'
      cases hsegs'
      exact ⟨Node.root p, List.mem_map_of_mem hp, .refl⟩
  | cons q rest ih =>
    have hchild : Node.mk p (q :: rest) = (Node.mk q rest).child p := rfl
    rw [hchild, admissible_child_iff, ← ih q]
    constructor
    · rintro ⟨r, hr, hreach⟩
      rcases Relation.ReflTransGen.cases_tail hreach with he | ⟨b, hreach, hbelow⟩
      · obtain ⟨s, _, rfl⟩ := List.mem_map.mp hr
        cases he
      · have hway := way_of_below hbelow
        obtain rfl : Node.mk q rest = b := Node.way_injective (List.cons.inj hway).2
        exact ⟨⟨r, hr, hreach⟩, hbelow⟩
    · rintro ⟨⟨r, hr, hreach⟩, hbelow⟩
      exact ⟨r, hr, hreach.tail hbelow⟩

theorem mem_forest_iff_admissible (hm : m.Closed) {rs : List Node} (hrs : roots m = .ok rs)
    (n : Node) : n ∈ forest m cap rs.reverse ↔ Admissible m cap n.route := by
  rw [mem_forest_roots_iff hm hrs]
  exact reached_iff_admissible hrs n.property n.above

theorem exists_node_of_route {route : List Property} (h : route ≠ []) :
    ∃ n : Node, n.route = route := by
  obtain ⟨p, above, hway⟩ := List.exists_cons_of_ne_nil (List.reverse_ne_nil_iff.mpr h)
  exact ⟨⟨p, above⟩, by rw [Node.route, ← hway, List.reverse_reverse]⟩

theorem Admissible.ne_nil {route : List Property} (h : Admissible m cap route) : route ≠ [] := by
  obtain ⟨p, hp, _⟩ := h.starts
  rintro rfl
  cases hp

/-- **Exactness of a walk.** A walk through a closed model begins wherever there is an entity
container, ends without a failure, and hands out each admissible route once and no other route. -/
theorem walk_lists_admissible (hm : m.Closed) (cap : Nat) :
    ((∃ w, Walk.start m cap = .ok w) ↔ ∃ c, m.rootContainer = .ok c) ∧
      ∀ w, Walk.start m cap = .ok w → ∃ nodes, w.Lists nodes ∧
        (nodes.map Node.route).Nodup ∧
        ∀ route, route ∈ nodes.map Node.route ↔ Admissible m cap route := by
  refine ⟨exists_walk_iff hm cap, ?_⟩
  intro w hw
  obtain ⟨rs, hrs, hlists, _⟩ := lists_forest hm hw
  refine ⟨forest m cap rs.reverse, hlists, ?_, ?_⟩
  · exact (nodup_forest_roots hm hrs).map fun _ _ => Node.route_injective
  · intro route
    constructor
    · intro hroute
      obtain ⟨n, hn, rfl⟩ := List.mem_map.mp hroute
      exact (mem_forest_iff_admissible hm hrs n).mp hn
    · intro hroute
      obtain ⟨n, rfl⟩ := exists_node_of_route hroute.ne_nil
      exact List.mem_map_of_mem ((mem_forest_iff_admissible hm hrs n).mpr hroute)

theorem directory_walk_lists_admissible :
    Model.directory.Closed ∧ ∃ w nodes, Walk.start Model.directory 3 = .ok w ∧ w.Lists nodes ∧
      (nodes.map Node.route).Nodup ∧
      ∀ route, route ∈ nodes.map Node.route ↔ Admissible Model.directory 3 route := by
  have hclosed : Model.directory.Closed := by decide
  obtain ⟨hstarts, hlists⟩ := walk_lists_admissible hclosed 3
  obtain ⟨w, hw⟩ := hstarts.mpr ⟨_, rfl⟩
  obtain ⟨nodes, hnodes⟩ := hlists w hw
  exact ⟨hclosed, w, nodes, hw, hnodes⟩

end CsdlRoutes.Route
