import Mathlib.Data.List.Dedup
import Mathlib.Data.List.Perm.Subperm
import CsdlRoutes.Proofs.Route.ClosedWalk

/-!
# Walks end by themselves

The graph of a model may have any cycles, and still a walk through a closed model ends, however deep
it may go. No canonical name stands twice on the way to a node. So a node of a walk is at most as
deep as there are canonical names, and right below it there are at most as many nodes as there are
names that are not on its way. This bounds the whole listing, and where the cap is not below the
number of names it is never what ends a route.

* `Node.Simple`: the way to a node takes declared properties, and no canonical name twice.
* `length_subtree_le`: the nodes below a node, counted by the names that are left.
* `subtree_saturated`: a greater cap changes nothing.
* `walk_saturates`: walks with any cap.
-/

namespace CsdlRoutes.Route

open Schema (Model Property)

variable {m : Model} {cap : Nat}

/-- The canonical names of the properties of a model, each once. -/
def canonicalNames (m : Model) : List String :=
  ((m.types.values.flatMap (·.properties)).map Property.canonicalName).dedup

/-- In how many ways some of a number of items can be put in a row, the empty row included. -/
def arrangements : Nat → Nat
  | 0 => 1
  | n + 1 => 1 + (n + 1) * arrangements n

/-! ## The way to a node -/

/-- The way to a node takes declared properties, and no canonical name twice. -/
structure Node.Simple (m : Model) (n : Node) : Prop where
  declared : ∀ p ∈ n.way, m.Declared p
  distinct : n.onPath.Nodup

theorem mem_canonicalNames {p : Property} (hp : m.Declared p) :
    p.canonicalName ∈ canonicalNames m := by
  obtain ⟨t, ht, hpt⟩ := hp
  exact List.mem_dedup.mpr (List.mem_map_of_mem (List.mem_flatMap.mpr ⟨t, ht, hpt⟩))

/-- Distinct names of declared properties are at most as many as there are such names. -/
theorem length_le_of_declared {names : List String} (hnames : names.Nodup)
    (h : ∀ name ∈ names, ∃ p, m.Declared p ∧ p.canonicalName = name) :
    names.length ≤ (canonicalNames m).length := by
  refine (List.subperm_of_subset hnames fun name hname => ?_).length_le
  obtain ⟨p, hp, rfl⟩ := h name hname
  exact mem_canonicalNames hp

namespace Node.Simple

variable {n : Node}

theorem names_declared (hn : n.Simple m) : ∀ name ∈ n.onPath,
    ∃ p, m.Declared p ∧ p.canonicalName = name := by
  intro name hname
  obtain ⟨p, hp, rfl⟩ := List.mem_map.mp hname
  exact ⟨p, hn.declared p hp, rfl⟩

theorem depth_le (hn : n.Simple m) : n.depth ≤ (canonicalNames m).length := by
  have hle := length_le_of_declared hn.distinct hn.names_declared
  rwa [onPath, List.length_map] at hle

theorem of_root {rs : List Node} (hm : m.Closed) (hrs : roots m = .ok rs) {r : Node}
    (hr : r ∈ rs) : r.Simple m := by
  have hdeclared := declared_of_mem_roots hm hrs hr
  obtain ⟨c, segs, _, _, rfl⟩ := roots_eq_ok hrs
  obtain ⟨p, _, rfl⟩ := List.mem_map.mp hr
  exact ⟨List.forall_mem_singleton.mpr hdeclared, List.nodup_singleton _⟩

theorem of_below (hm : m.Closed) (hn : n.Simple m) {c : Node} (h : Below m cap n c) :
    c.Simple m := by
  have hnames : c.onPath = c.property.canonicalName :: n.onPath :=
    congrArg (List.map Property.canonicalName) (way_of_below h)
  refine ⟨?_, ?_⟩
  · rw [way_of_below h]
    exact List.forall_mem_cons.mpr ⟨declared_of_below hm h, hn.declared⟩
  · rw [hnames]
    exact List.nodup_cons.mpr ⟨new_of_below h, hn.distinct⟩

/-- The nodes right below a node take up names that are not on its way. -/
theorem room (hm : m.Closed) (hn : n.Simple m) {nodes : List Node}
    (hnodes : offspring m cap n = .ok nodes) :
    nodes.length + n.depth ≤ (canonicalNames m).length := by
  have hbelow : ∀ c ∈ nodes, Below m cap n c := fun c hc => ⟨nodes, hnodes, hc⟩
  have hdistinct : (nodes.map (·.property.canonicalName) ++ n.onPath).Nodup := by
    refine List.nodup_append.mpr ⟨nodup_names_offspring hnodes, hn.distinct, ?_⟩
    intro a ha b hb he
    obtain ⟨c, hc, rfl⟩ := List.mem_map.mp ha
    exact new_of_below (hbelow c hc) (he ▸ hb)
  have hle := length_le_of_declared (m := m) hdistinct (List.forall_mem_append.mpr ⟨?_,
    hn.names_declared⟩)
  · rwa [List.length_append, List.length_map, onPath, List.length_map] at hle
  · intro name hname
    obtain ⟨c, hc, rfl⟩ := List.mem_map.mp hname
    exact ⟨c.property, declared_of_below hm (hbelow c hc), rfl⟩

end Node.Simple

/-! ## How much is listed -/

theorem length_forest_le {ns : List Node} {bound : Nat}
    (h : ∀ n ∈ ns, (subtree m cap n).length ≤ bound) :
    (forest m cap ns).length ≤ ns.length * bound := by
  induction ns with
  | nil => exact Nat.zero_le _
  | cons n ns ih =>
    obtain ⟨hn, hns⟩ := List.forall_mem_cons.mp h
    have hrest := ih hns
    rw [forest, List.flatMap_cons, List.length_append, List.length_cons, Nat.succ_mul]
    rw [forest] at hrest
    omega

/-- What is listed from a node on is bounded by the number of names that are not on its way, whatever
the cap. -/
theorem length_subtree_le (hm : m.Closed) {n : Node} (hn : n.Leads m) (hsimple : n.Simple m) :
    (subtree m cap n).length ≤ arrangements ((canonicalNames m).length - n.depth) := by
  refine downwards (P := fun n => n.Simple m → (subtree m cap n).length ≤
    arrangements ((canonicalNames m).length - n.depth)) hm cap ?_ hn hsimple
  intro n nodes hn hnodes ih hsimple
  have hroom := hsimple.room hm hnodes
  rw [subtree_eq hm hn hnodes, List.length_cons]
  cases hleft : (canonicalNames m).length - n.depth with
  | zero =>
    obtain rfl : nodes = [] := List.length_eq_zero_iff.mp (by omega)
    exact Nat.le_refl 1
  | succ left =>
    have hsub : ∀ c ∈ nodes.reverse, (subtree m cap c).length ≤ arrangements left := by
      intro c hc
      have hc := List.mem_reverse.mp hc
      have hbelow : Below m cap n c := ⟨nodes, hnodes, hc⟩
      have hle := ih c hc (hsimple.of_below hm hbelow)
      have hdepth : (canonicalNames m).length - c.depth = left := by
        rw [depth_of_below hbelow]
        omega
      rwa [hdepth] at hle
    have hforest := length_forest_le hsub
    have hwidth : nodes.length * arrangements left ≤ (left + 1) * arrangements left :=
      Nat.mul_le_mul_right _ (by omega)
    rw [List.length_reverse] at hforest
    rw [arrangements]
    omega

theorem length_forest_roots_lt (hm : m.Closed) {rs : List Node} (hrs : roots m = .ok rs) :
    (forest m cap rs.reverse).length < arrangements (canonicalNames m).length := by
  have hcount : rs.length ≤ (canonicalNames m).length := by
    have hdeclared : ∀ r ∈ rs, m.Declared r.property := fun r hr => declared_of_mem_roots hm hrs hr
    obtain ⟨c, segs, _, hsegs, rfl⟩ := roots_eq_ok hrs
    have hle := length_le_of_declared (m := m) (Model.nodup_segmentsAs hsegs) (by
      intro name hname
      obtain ⟨p, hp, rfl⟩ := List.mem_map.mp hname
      exact ⟨p, hdeclared _ (List.mem_map_of_mem hp), rfl⟩)
    rwa [List.length_map] at hle ⊢
  cases hnames : (canonicalNames m).length with
  | zero =>
    obtain rfl : rs = [] := List.length_eq_zero_iff.mp (by omega)
    exact Nat.one_pos
  | succ left =>
    have hsub : ∀ r ∈ rs.reverse, (subtree m cap r).length ≤ arrangements left := by
      intro r hr
      have hr := List.mem_reverse.mp hr
      have hle : (subtree m cap r).length ≤ _ :=
        length_subtree_le hm (leads_of_mem_roots hm hrs hr) (.of_root hm hrs hr)
      rwa [depth_of_mem_roots hrs hr, hnames, Nat.add_sub_cancel] at hle
    have hforest := length_forest_le hsub
    have hwidth : rs.length * arrangements left ≤ (left + 1) * arrangements left :=
      Nat.mul_le_mul_right _ (by omega)
    rw [List.length_reverse] at hforest
    rw [arrangements]
    omega

theorem simple_of_mem_forest (hm : m.Closed) {rs : List Node} (hrs : roots m = .ok rs) {n : Node}
    (hn : n ∈ forest m cap rs.reverse) : n.Simple m := by
  obtain ⟨r, hr, hreach⟩ := (mem_forest_roots_iff hm hrs).mp hn
  induction hreach with
  | refl => exact .of_root hm hrs hr
  | tail hreach hbelow ih =>
    exact (ih ((mem_forest_roots_iff hm hrs).mpr ⟨r, hr, hreach⟩)).of_below hm hbelow

/-! ## Greater caps -/

/-- A cap that is not below the number of canonical names never keeps a node from being looked
below: there is nothing new below a node that is as deep as that. -/
theorem offspring_saturated (hm : m.Closed) (hcap : (canonicalNames m).length ≤ cap) {n : Node}
    (hsimple : n.Simple m) {nodes : List Node} (hnodes : offspring m cap n = .ok nodes) :
    offspring m (canonicalNames m).length n = .ok nodes := by
  by_cases hshallow : n.depth < (canonicalNames m).length
  · have hbelow : n.depth < cap := by omega
    rw [← hnodes, offspring, offspring]
    simp only [hshallow, hbelow]
  · have hroom := hsimple.room hm hnodes
    obtain rfl : nodes = [] := List.length_eq_zero_iff.mp (by omega)
    rw [offspring]
    simp only [hshallow, decide_false, Bool.false_and, Bool.false_eq_true, if_false]

theorem subtree_saturated (hm : m.Closed) (hcap : (canonicalNames m).length ≤ cap) {n : Node}
    (hn : n.Leads m) (hsimple : n.Simple m) :
    subtree m cap n = subtree m (canonicalNames m).length n := by
  refine downwards (P := fun n => n.Simple m →
    subtree m cap n = subtree m (canonicalNames m).length n) hm cap ?_ hn hsimple
  intro n nodes hn hnodes ih hsimple
  rw [subtree_eq hm hn hnodes, subtree_eq hm hn (offspring_saturated hm hcap hsimple hnodes)]
  congr 1
  refine List.flatMap_congr fun c hc => ?_
  have hc := List.mem_reverse.mp hc
  exact ih c hc (hsimple.of_below hm ⟨nodes, hnodes, hc⟩)

theorem forest_saturated (hm : m.Closed) (hcap : (canonicalNames m).length ≤ cap) {rs : List Node}
    (hrs : roots m = .ok rs) :
    forest m cap rs.reverse = forest m (canonicalNames m).length rs.reverse := by
  refine List.flatMap_congr fun r hr => ?_
  have hr := List.mem_reverse.mp hr
  exact subtree_saturated hm hcap (leads_of_mem_roots hm hrs hr) (.of_root hm hrs hr)

/-! ## Walks -/

/-- **Walks end by themselves.** However deep a walk through a closed model may go, it hands out
fewer nodes than there are arrangements of the canonical names, none of them deeper than there are
names, and then it is at its end. Once the cap is not below the number of names, the walk hands out
the same nodes as with that number. -/
theorem walk_saturates (hm : m.Closed) (cap : Nat) :
    ((∃ w, Walk.start m cap = .ok w) ↔ ∃ c, m.rootContainer = .ok c) ∧
      ∀ w, Walk.start m cap = .ok w → ∃ nodes, w.Lists nodes ∧
        nodes.length < arrangements (canonicalNames m).length ∧
        (∀ n ∈ nodes, n.depth ≤ (canonicalNames m).length) ∧
        ((canonicalNames m).length ≤ cap →
          ∃ v, Walk.start m (canonicalNames m).length = .ok v ∧ v.Lists nodes) := by
  refine ⟨exists_walk_iff hm cap, ?_⟩
  intro w hw
  obtain ⟨rs, hrs, hlists, _⟩ := lists_forest hm hw
  refine ⟨forest m cap rs.reverse, hlists, length_forest_roots_lt hm hrs, ?_, ?_⟩
  · exact fun n hn => (simple_of_mem_forest hm hrs hn).depth_le
  · intro hcap
    obtain ⟨v, hv⟩ := (exists_walk_iff hm (canonicalNames m).length).mpr
      ((exists_walk_iff hm cap).mp ⟨w, hw⟩)
    obtain ⟨rs', hrs', hlists', _⟩ := lists_forest hm hv
    rw [hrs] at hrs'
    cases hrs'
    exact ⟨v, hv, forest_saturated hm hcap hrs ▸ hlists'⟩

theorem directory_walk_saturates :
    Model.directory.Closed ∧ (canonicalNames Model.directory).length = 6 ∧
      ∃ w nodes, Walk.start Model.directory 100 = .ok w ∧ w.Lists nodes ∧
        nodes.length < arrangements 6 ∧ (∀ n ∈ nodes, n.depth ≤ 6) ∧
        ∃ v, Walk.start Model.directory 6 = .ok v ∧ v.Lists nodes := by
  have hclosed : Model.directory.Closed := by decide
  have hnames : (canonicalNames Model.directory).length = 6 := by decide
  obtain ⟨hstarts, hends⟩ := walk_saturates hclosed 100
  obtain ⟨w, hw⟩ := hstarts.mpr ⟨_, rfl⟩
  obtain ⟨nodes, hlists, hcount, hdepth, hsame⟩ := hends w hw
  rw [hnames] at hcount hdepth hsame
  exact ⟨hclosed, hnames, w, nodes, hw, hlists, hcount, hdepth, hsame (by decide)⟩

end CsdlRoutes.Route
