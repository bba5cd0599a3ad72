import CsdlRoutes.Proofs.Route.Subtree

/-!
# Walks through closed models

A walk through a closed model begins wherever there is an entity container, never fails, and hands
out the forest of the roots, the last root first.

* `Walk.Lists` says what a walk hands out, whatever the number of requests.
* `exists_walk_iff`: when there is a walk at all.
* `lists_forest`: what it hands out.
-/

namespace CsdlRoutes.Route

open Schema (Model Property SchemaType)

variable {m : Model} {cap : Nat}

/-- A walk hands out exactly these nodes in this order, and then it is at its end: any number of
requests gets that many of them, and the walk has finished once more are asked for. -/
def Walk.Lists (w : Walk) (nodes : List Node) : Prop :=
  ∀ count, (w.take count).1 = ⟨nodes.take count, decide (nodes.length < count), none⟩

theorem Walk.lists_of_due {w : Walk} {nodes : List Node} (h : w.due = ⟨nodes, none⟩) :
    w.Lists nodes := by
  intro count
  rw [Walk.take_eq, h, Emission.taken]
  by_cases hcount : count ≤ nodes.length
  · have hopen : ¬ nodes.length < count := by omega
    simp [hcount, hopen]
  · have hended : nodes.length < count := by omega
    have hall : nodes.take count = nodes := List.take_of_length_le (by omega)
    simp [hcount, hended, hall]

theorem Walk.Lists.mem_of_take {w : Walk} {nodes : List Node} (h : w.Lists nodes) {count : Nat}
    {n : Node} (hn : n ∈ (w.take count).1.nodes) : n ∈ nodes := by
  rw [h count] at hn
  exact List.mem_of_mem_take hn

/-! ## Roots -/

theorem roots_eq_ok {rs : List Node} (h : roots m = .ok rs) :
    ∃ c segs, m.rootContainer = .ok c ∧ m.segmentsAs true c = .ok segs ∧
      rs = segs.map Node.root := by
  obtain ⟨c, hc, h⟩ := bind_eq_ok.mp h
  obtain ⟨segs, hsegs, h⟩ := bind_eq_ok.mp h
  cases h
  refine ⟨c, segs, ?_, hsegs, rfl⟩
  cases hroot : m.rootContainer with
  | error failure =>
    rw [hroot] at hc
    cases hc
  | ok c' =>
    rw [hroot] at hc
    cases hc
    rfl

theorem roots_of_rootContainer {c : SchemaType} {segs : List Property}
    (hc : m.rootContainer = .ok c) (hsegs : m.segmentsAs true c = .ok segs) :
    roots m = .ok (segs.map Node.root) := by
  rw [roots, hc]
  change (m.segmentsAs true c >>= fun segs => pure (segs.map Node.root)) = _
  rw [hsegs]
  rfl

theorem nodup_roots {rs : List Node} (h : roots m = .ok rs) : rs.Nodup := by
  obtain ⟨c, segs, _, hsegs, rfl⟩ := roots_eq_ok h
  have hroot : Function.Injective Node.root := fun _ _ he => congrArg Node.property he
  exact ((Model.nodup_segmentsAs hsegs).of_map _).map hroot

theorem leads_of_mem_roots (hm : m.Closed) {rs : List Node} (h : roots m = .ok rs) {r : Node}
    (hr : r ∈ rs) : r.Leads m := by
  obtain ⟨c, segs, hc, hsegs, rfl⟩ := roots_eq_ok h
  obtain ⟨p, hp, rfl⟩ := List.mem_map.mp hr
  exact hm.exists_target_of_segment (Model.knows_rootContainer hc) hsegs hp

/-! ## Declared properties -/

theorem declared_of_mem_segmentsAs (hm : m.Closed) {isRoot : Bool} {t : SchemaType}
    (ht : m.Knows t) {segs : List Property} (hsegs : m.segmentsAs isRoot t = .ok segs)
    {p : Property} (hp : p ∈ segs) : m.Declared p := by
  obtain ⟨types, htypes, ⟨u, hu, hpu⟩, _⟩ := Model.mem_of_mem_segmentsAs hsegs hp
  obtain ⟨types', htypes', hknown⟩ := hm.exists_contributors ht
  rw [htypes] at htypes'
  cases htypes'
  exact Model.declared_of_knows (hknown u hu) hpu

theorem declared_of_below (hm : m.Closed) {n c : Node} (h : Below m cap n c) :
    m.Declared c.property := by
  obtain ⟨_, _, nodes, hchildren, hc⟩ := children_of_below h
  obtain ⟨target, segs, htarget, hsegs, rfl⟩ := children_eq_ok hchildren
  obtain ⟨p, hp, rfl⟩ := List.mem_map.mp hc
  exact declared_of_mem_segmentsAs hm (Model.knows_targetType htarget) hsegs
    (List.mem_filter.mp hp).1

theorem declared_of_mem_roots (hm : m.Closed) {rs : List Node} (hrs : roots m = .ok rs) {r : Node}
    (hr : r ∈ rs) : m.Declared r.property := by
  obtain ⟨c, segs, hc, hsegs, rfl⟩ := roots_eq_ok hrs
  obtain ⟨p, hp, rfl⟩ := List.mem_map.mp hr
  exact declared_of_mem_segmentsAs hm (Model.knows_rootContainer hc) hsegs hp

/-! ## Walks -/

/-- A walk through a closed model begins wherever there is an entity container. -/
theorem exists_walk_iff (hm : m.Closed) (cap : Nat) :
    (∃ w, Walk.start m cap = .ok w) ↔ ∃ c, m.rootContainer = .ok c := by
  constructor
  · rintro ⟨w, hw⟩
    obtain ⟨rs, hrs, _⟩ := walk_start_eq_ok hw
    obtain ⟨c, _, hc, _⟩ := roots_eq_ok hrs
    exact ⟨c, hc⟩
  · rintro ⟨c, hc⟩
    obtain ⟨segs, hsegs⟩ := hm.exists_segmentsAs true (Model.knows_rootContainer hc)
    exact ⟨_, by rw [Walk.start, roots_of_rootContainer hc hsegs, ok_bind]; rfl⟩

/-- At the beginning of a walk through a closed model the forest of the roots is due, the last root
first. -/
theorem due_eq_forest (hm : m.Closed) {w : Walk} (hw : Walk.start m cap = .ok w) :
    ∃ rs, roots m = .ok rs ∧ w.due = ⟨forest m cap rs.reverse, none⟩ := by
  obtain ⟨rs, hrs, rfl⟩ := walk_start_eq_ok hw
  refine ⟨rs, hrs, ?_⟩
  exact concat_listingFrom hm fun r hr => leads_of_mem_roots hm hrs (List.mem_reverse.mp hr)

/-- A walk through a closed model hands out what the recursive listing lists. -/
theorem lists_forest (hm : m.Closed) {w : Walk} (hw : Walk.start m cap = .ok w) :
    ∃ rs, roots m = .ok rs ∧ w.Lists (forest m cap rs.reverse) ∧
      listing m cap = .ok ⟨forest m cap rs.reverse, none⟩ := by
  obtain ⟨rs, hrs, hdue⟩ := due_eq_forest hm hw
  exact ⟨rs, hrs, Walk.lists_of_due hdue, hdue ▸ listing_eq_due hw⟩

theorem mem_forest_roots_iff (hm : m.Closed) {rs : List Node} (hrs : roots m = .ok rs) {d : Node} :
    d ∈ forest m cap rs.reverse ↔ ∃ r ∈ rs, Relation.ReflTransGen (Below m cap) r d := by
  rw [mem_forest]
  constructor
  · rintro ⟨r, hr, hd⟩
    have hr := List.mem_reverse.mp hr
    exact ⟨r, hr, (mem_subtree_iff hm (leads_of_mem_roots hm hrs hr)).mp hd⟩
  · rintro ⟨r, hr, hd⟩
    exact ⟨r, List.mem_reverse.mpr hr, (mem_subtree_iff hm (leads_of_mem_roots hm hrs hr)).mpr hd⟩

theorem nodup_forest_roots (hm : m.Closed) {rs : List Node} (hrs : roots m = .ok rs) :
    (forest m cap rs.reverse).Nodup :=
  nodup_forest hm (List.nodup_reverse.mpr (nodup_roots hrs))
    (fun _ hr => leads_of_mem_roots hm hrs (List.mem_reverse.mp hr))
    (fun _ hr => depth_of_mem_roots hrs (List.mem_reverse.mp hr))

theorem leads_of_mem_forest (hm : m.Closed) {rs : List Node} (hrs : roots m = .ok rs) {d : Node}
    (hd : d ∈ forest m cap rs.reverse) : d.Leads m := by
  obtain ⟨r, hr, hreach⟩ := (mem_forest_roots_iff hm hrs).mp hd
  induction hreach with
  | refl => exact leads_of_mem_roots hm hrs hr
  | tail hreach hbelow ih =>
    exact leads_of_below hm (ih ((mem_forest_roots_iff hm hrs).mpr ⟨r, hr, hreach⟩)) hbelow

end CsdlRoutes.Route
