import CsdlRoutes.Proofs.Route.ClosedWalk

/-!
# The order of a walk

The stack of a walk brings about the order of a plain recursion: a node, and then the nodes right
below it from the last to the first, each with everything below it, beginning with the last root. So
a node comes after all nodes above it, what is below a node is listed in one piece, and the nodes
right below a node come in the reverse of the order in which its segments are resolved.

* `InPreorder` says this of a row of nodes.
* `inPreorder_forest`: the recursive listing is in this order.
* `walk_lists_inPreorder`: what a walk hands out is in this order.
-/

namespace CsdlRoutes.Route

open Schema (Model Property SchemaType)

variable {m : Model} {cap : Nat}

/-- The order of a row of nodes that is listed from some roots on. -/
structure InPreorder (m : Model) (cap : Nat) (rs nodes : List Node) : Prop where
  /-- The roots are visited from the last to the first. -/
  roots : nodes = rs.reverse.flatMap (subtree m cap)
  /-- To visit a node is to list it and to visit the nodes right below it from the last to the
  first. -/
  visits : ∀ n ∈ nodes, ∃ below, offspring m cap n = .ok below ∧
    subtree m cap n = n :: below.reverse.flatMap (subtree m cap)
  once : nodes.Nodup
  /-- A node comes after the nodes above it. -/
  downwards : ∀ n ∈ nodes, ∀ a ∈ n.ancestors, a ≠ n → [a, n].Sublist nodes
  /-- What is below a node is listed in one piece. -/
  contiguous : ∀ n ∈ nodes, subtree m cap n <:+: nodes ∧
    ∀ d ∈ nodes, d ∈ subtree m cap n ↔ n ∈ d.ancestors
  siblings : ∀ n ∈ nodes, ∀ below, offspring m cap n = .ok below →
    nodes.filter (·.parent? == some n) = below.reverse
  rootSiblings : nodes.filter (·.parent? == none) = rs.reverse

/-! ## Subtrees in one piece -/

theorem subtree_infix_of_below (hm : m.Closed) {n c : Node} (hn : n.Leads m)
    (h : Below m cap n c) : subtree m cap c <:+: subtree m cap n := by
  obtain ⟨nodes, hnodes, hc⟩ := h
  rw [subtree_eq hm hn hnodes]
  have hpart : subtree m cap c <:+: forest m cap nodes.reverse :=
    List.infix_of_mem_flatten (List.mem_map_of_mem (List.mem_reverse.mpr hc))
  exact hpart.trans (List.suffix_cons _ _).isInfix

theorem subtree_infix_of_reach (hm : m.Closed) {n d : Node} (hn : n.Leads m)
    (h : Relation.ReflTransGen (Below m cap) n d) :
    d.Leads m ∧ subtree m cap d <:+: subtree m cap n := by
  induction h with
  | refl => exact ⟨hn, List.infix_rfl⟩
  | tail _ hbelow ih =>
    obtain ⟨hleads, hinfix⟩ := ih
    exact ⟨leads_of_below hm hleads hbelow, (subtree_infix_of_below hm hleads hbelow).trans hinfix⟩

/-- A node below which another one stands reaches it: the way to a listed node is unique, so it goes
through each node above it. -/
theorem reach_of_suffix {r a d : Node} (hdepth : r.depth ≤ a.depth)
    (h : Relation.ReflTransGen (Below m cap) r d) (ha : a.way <:+ d.way) :
    Relation.ReflTransGen (Below m cap) r a ∧ Relation.ReflTransGen (Below m cap) a d := by
  induction h with
  | refl =>
    have hle := ha.length_le
    rw [Node.length_way, Node.length_way] at hle
    obtain rfl : a = r := Node.eq_of_way_suffix ha List.suffix_rfl (by omega)
    exact ⟨.refl, .refl⟩
  | @tail b d hreach hbelow ih =>
    rw [way_of_below hbelow] at ha
    rcases List.suffix_cons_iff.mp ha with he | ha
    · obtain rfl : a = d := Node.way_injective (he.trans (way_of_below hbelow).symm)
      exact ⟨hreach.tail hbelow, .refl⟩
    · obtain ⟨hra, had⟩ := ih ha
      exact ⟨hra, had.tail hbelow⟩

variable {rs : List Node}

theorem subtree_infix_forest (hm : m.Closed) (hrs : roots m = .ok rs) {n : Node}
    (hn : n ∈ forest m cap rs.reverse) : subtree m cap n <:+: forest m cap rs.reverse := by
  obtain ⟨r, hr, hreach⟩ := (mem_forest_roots_iff hm hrs).mp hn
  have hpart : subtree m cap r <:+: forest m cap rs.reverse :=
    List.infix_of_mem_flatten (List.mem_map_of_mem (List.mem_reverse.mpr hr))
  exact (subtree_infix_of_reach hm (leads_of_mem_roots hm hrs hr) hreach).2.trans hpart

theorem mem_subtree_iff_ancestor (hm : m.Closed) (hrs : roots m = .ok rs) {n d : Node}
    (hn : n ∈ forest m cap rs.reverse) (hd : d ∈ forest m cap rs.reverse) :
    d ∈ subtree m cap n ↔ n ∈ d.ancestors := by
  rw [mem_subtree_iff hm (leads_of_mem_forest hm hrs hn), Node.mem_ancestors_iff]
  constructor
  · exact suffix_of_reach
  · intro hsuffix
    obtain ⟨r, hr, hreach⟩ := (mem_forest_roots_iff hm hrs).mp hd
    refine (reach_of_suffix ?_ hreach hsuffix).2
    rw [depth_of_mem_roots hrs hr]
    exact Nat.le_add_left 1 _

theorem ancestor_mem_forest (hm : m.Closed) (hrs : roots m = .ok rs) {a n : Node}
    (hn : n ∈ forest m cap rs.reverse) (ha : a ∈ n.ancestors) : a ∈ forest m cap rs.reverse := by
  obtain ⟨r, hr, hreach⟩ := (mem_forest_roots_iff hm hrs).mp hn
  refine (mem_forest_roots_iff hm hrs).mpr ⟨r, hr, (reach_of_suffix ?_ hreach
    (Node.mem_ancestors_iff.mp ha)).1⟩
  rw [depth_of_mem_roots hrs hr]
  exact Nat.le_add_left 1 _

theorem ancestor_before (hm : m.Closed) (hrs : roots m = .ok rs) {a n : Node}
    (hn : n ∈ forest m cap rs.reverse) (ha : a ∈ n.ancestors) (hne : a ≠ n) :
    [a, n].Sublist (forest m cap rs.reverse) := by
  have hmem := ancestor_mem_forest hm hrs hn ha
  have hleads := leads_of_mem_forest hm hrs hmem
  have hsub := (mem_subtree_iff_ancestor hm hrs hmem hn).mpr ha
  obtain ⟨nodes, hnodes, _⟩ := exists_offspring hm hleads cap
  have hinfix := subtree_infix_forest hm hrs hmem
  rw [subtree_eq hm hleads hnodes] at hsub hinfix
  rcases List.mem_cons.mp hsub with he | hsub
  · exact absurd he.symm hne
  · exact ((List.singleton_sublist.mpr hsub).cons_cons a).trans hinfix.sublist

/-! ## Siblings -/

/-- Among what is below a node, the nodes of the next level are the ones right below it. -/
theorem parent?_eq_some_iff_depth (hm : m.Closed) {n d : Node} (hn : n.Leads m)
    (hd : d ∈ subtree m cap n) : d.parent? = some n ↔ d.depth = n.depth + 1 := by
  rw [Node.parent?_eq_some_iff]
  constructor
  · intro h
    rw [← Node.length_way n, ← h]
    rfl
  · exact Node.above_eq_way (suffix_of_mem_subtree hm hn hd)

theorem filter_subtree (hm : m.Closed) {n : Node} (hn : n.Leads m) {nodes : List Node}
    (hnodes : offspring m cap n = .ok nodes) :
    (subtree m cap n).filter (·.parent? == some n) = nodes.reverse := by
  have hsame : (subtree m cap n).filter (·.parent? == some n) =
      (subtree m cap n).filter (·.depth == n.depth + 1) := by
    apply List.filter_congr
    intro d hd
    rw [Bool.eq_iff_iff, beq_iff_eq, beq_iff_eq]
    exact parent?_eq_some_iff_depth hm hn hd
  have hbelow : ∀ c ∈ nodes.reverse, Below m cap n c := fun c hc =>
    ⟨nodes, hnodes, List.mem_reverse.mp hc⟩
  rw [hsame, subtree_eq hm hn hnodes, List.filter_cons_of_neg (by simp)]
  exact filter_forest hm (fun c hc => leads_of_below hm hn (hbelow c hc))
    (fun c hc => depth_of_below (hbelow c hc))

theorem filter_siblings (hm : m.Closed) (hrs : roots m = .ok rs) {n : Node}
    (hn : n ∈ forest m cap rs.reverse) {nodes : List Node}
    (hnodes : offspring m cap n = .ok nodes) :
    (forest m cap rs.reverse).filter (·.parent? == some n) = nodes.reverse := by
  have hnodup : (forest m cap rs.reverse).Nodup := nodup_forest_roots hm hrs
  obtain ⟨before, after, hsplit⟩ := subtree_infix_forest hm hrs hn
  -- Children of the node are in its subtree, and so they are not in the rest of the forest.
  have hchild : ∀ d ∈ forest m cap rs.reverse, d.parent? = some n → d ∈ subtree m cap n := by
    intro d hd hparent
    refine (mem_subtree_iff_ancestor hm hrs hn hd).mpr (Node.mem_ancestors_iff.mpr ?_)
    rw [Node.parent?_eq_some_iff] at hparent
    rw [← hparent]
    exact List.suffix_cons _ _
  rw [← hsplit] at hnodup hchild ⊢
  rw [List.nodup_append, List.nodup_append] at hnodup
  obtain ⟨⟨_, _, hbefore⟩, _, hafter⟩ := hnodup
  have hnone : ∀ part : List Node, (∀ d ∈ part, d ∈ before ++ subtree m cap n ++ after) →
      (∀ d ∈ part, d ∉ subtree m cap n) → part.filter (·.parent? == some n) = [] := by
    intro part hpart hapart
    rw [List.filter_eq_nil_iff]
    intro d hd hparent
    exact hapart d hd (hchild d (hpart d hd) (by simpa using hparent))
  rw [List.filter_append, List.filter_append, hnone before, hnone after, List.nil_append,
    List.append_nil]
  · exact filter_subtree hm (leads_of_mem_forest hm hrs hn) hnodes
  · exact fun d hd => List.mem_append_right _ hd
  · exact fun d hd hsub => hafter d (List.mem_append_right _ hsub) d hd rfl
  · exact fun d hd => List.mem_append_left _ (List.mem_append_left _ hd)
  · exact fun d hd hsub => hbefore d hd d hsub rfl

theorem filter_roots (hm : m.Closed) (hrs : roots m = .ok rs) :
    (forest m cap rs.reverse).filter (·.parent? == none) = rs.reverse := by
  have hsame : (forest m cap rs.reverse).filter (·.parent? == none) =
      (forest m cap rs.reverse).filter (·.depth == 1) := by
    apply List.filter_congr
    intro d _
    rw [Bool.eq_iff_iff, beq_iff_eq, beq_iff_eq]
    exact Node.parent?_eq_none_iff
  rw [hsame]
  exact filter_forest hm (fun _ hr => leads_of_mem_roots hm hrs (List.mem_reverse.mp hr))
    (fun _ hr => depth_of_mem_roots hrs (List.mem_reverse.mp hr))

/-! ## The order -/

theorem inPreorder_forest (hm : m.Closed) (hrs : roots m = .ok rs) :
    InPreorder m cap rs (forest m cap rs.reverse) where
  roots := rfl
  visits := by
    intro n hn
    have hleads := leads_of_mem_forest hm hrs hn
    obtain ⟨nodes, hnodes, _⟩ := exists_offspring hm hleads cap
    exact ⟨nodes, hnodes, subtree_eq hm hleads hnodes⟩
  once := nodup_forest_roots hm hrs
  downwards := fun _ hn _ ha hne => ancestor_before hm hrs hn ha hne
  contiguous := fun _ hn =>
    ⟨subtree_infix_forest hm hrs hn, fun _ hd => mem_subtree_iff_ancestor hm hrs hn hd⟩
  siblings := fun _ hn _ hbelow => filter_siblings hm hrs hn hbelow
  rootSiblings := filter_roots hm hrs

/-- **The order of a walk.** A walk through a closed model hands out the recursive listing, in which
nodes come before what is below them, subtrees are in one piece and siblings are reversed. -/
theorem walk_lists_inPreorder (hm : m.Closed) (cap : Nat) :
    ((∃ w, Walk.start m cap = .ok w) ↔ ∃ c, m.rootContainer = .ok c) ∧
      ∀ w, Walk.start m cap = .ok w →
        ∃ rs nodes, Route.roots m = .ok rs ∧ w.Lists nodes ∧
          listing m cap = .ok ⟨nodes, none⟩ ∧ InPreorder m cap rs nodes := by
  refine ⟨exists_walk_iff hm cap, ?_⟩
  intro w hw
  obtain ⟨rs, hrs, hlists, hlisting⟩ := lists_forest hm hw
  exact ⟨rs, _, hrs, hlists, hlisting, inPreorder_forest hm hrs⟩

theorem directory_walk_lists_inPreorder :
    Model.directory.Closed ∧ ∃ w rs nodes, Walk.start Model.directory 3 = .ok w ∧
      Route.roots Model.directory = .ok rs ∧ w.Lists nodes ∧
      listing Model.directory 3 = .ok ⟨nodes, none⟩ ∧ InPreorder Model.directory 3 rs nodes := by
  have hclosed : Model.directory.Closed := by decide
  obtain ⟨hstarts, hlists⟩ := walk_lists_inPreorder hclosed 3
  obtain ⟨w, hw⟩ := hstarts.mpr ⟨_, rfl⟩
  obtain ⟨rs, nodes, h⟩ := hlists w hw
  exact ⟨hclosed, w, rs, nodes, hw, h⟩

end CsdlRoutes.Route
