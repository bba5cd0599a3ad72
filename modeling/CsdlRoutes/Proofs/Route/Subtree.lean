import Mathlib.Logic.Relation
import CsdlRoutes.Proofs.Route.WalkEmission
import CsdlRoutes.Proofs.Route.Way
import CsdlRoutes.Proofs.Schema.SegmentList

/-!
# Subtrees of a closed model

In a closed model no look-up of nodes fails, so what is listed from a node on is a list: the node,
and then the lists of the nodes right below it. The number of levels that are left bounds the
recursion. Each list holds what can be reached downwards, every node once.

* `subtree_eq`: the recursion.
* `mem_subtree_iff`: a subtree holds what can be reached.
* `nodup_forest`: the subtrees of siblings share nothing.
* `filter_forest`: at the level of its roots a forest lists the roots, in their order.
-/

namespace CsdlRoutes.Route

open Schema (Model Property SchemaType)

variable {m : Model} {cap : Nat}

/-- The nodes that are listed from a node on. -/
def subtree (m : Model) (cap : Nat) (n : Node) : List Node := (listingFrom m cap n).nodes

/-- The nodes that are listed from some nodes on, one after the other. -/
def forest (m : Model) (cap : Nat) (ns : List Node) : List Node := ns.flatMap (subtree m cap)

/-- A node is listed right below another one. -/
def Below (m : Model) (cap : Nat) (n c : Node) : Prop :=
  ∃ nodes, offspring m cap n = .ok nodes ∧ c ∈ nodes

/-- A node whose property leads to a type of the model. -/
def Node.Leads (m : Model) (n : Node) : Prop := ∃ target, m.targetType n.property = .ok target

/-! ## The nodes right below a node -/

theorem offspring_eq_ok {n : Node} {nodes : List Node} (h : offspring m cap n = .ok nodes) :
    nodes = [] ∨ n.depth < cap ∧ m.isReference n.property = false ∧ children m n = .ok nodes := by
  unfold offspring at h
  split at h
  · rename_i hopen
    simp only [Bool.and_eq_true, decide_eq_true_eq, Bool.not_eq_true'] at hopen
    exact Or.inr ⟨hopen.1, hopen.2, h⟩
  · cases h
    exact Or.inl rfl

theorem children_of_below {n c : Node} (h : Below m cap n c) :
    n.depth < cap ∧ m.isReference n.property = false ∧
      ∃ nodes, children m n = .ok nodes ∧ c ∈ nodes := by
  obtain ⟨nodes, hnodes, hc⟩ := h
  rcases offspring_eq_ok hnodes with rfl | ⟨hdepth, href, hchildren⟩
  · cases hc
  · exact ⟨hdepth, href, nodes, hchildren, hc⟩

theorem way_of_below {n c : Node} (h : Below m cap n c) : c.way = c.property :: n.way := by
  obtain ⟨_, _, nodes, hchildren, hc⟩ := children_of_below h
  obtain ⟨_, _, _, _, rfl⟩ := children_eq_ok hchildren
  obtain ⟨p, _, rfl⟩ := List.mem_map.mp hc
  rfl

theorem depth_of_below {n c : Node} (h : Below m cap n c) : c.depth = n.depth + 1 := by
  rw [← Node.length_way, way_of_below h, List.length_cons, Node.length_way]

theorem suffix_of_reach {n d : Node} (h : Relation.ReflTransGen (Below m cap) n d) :
    n.way <:+ d.way := by
  induction h with
  | refl => exact List.suffix_rfl
  | tail _ hbelow ih =>
    rw [way_of_below hbelow]
    exact ih.trans (List.suffix_cons _ _)

/-- No two nodes right below a node have the same canonical name. -/
theorem nodup_names_offspring {n : Node} {nodes : List Node} (h : offspring m cap n = .ok nodes) :
    (nodes.map (·.property.canonicalName)).Nodup := by
  rcases offspring_eq_ok h with rfl | ⟨_, _, hchildren⟩
  · exact List.nodup_nil
  · obtain ⟨target, segs, _, hsegs, rfl⟩ := children_eq_ok hchildren
    rw [List.map_map]
    exact (List.filter_sublist.map _).nodup (Model.nodup_segmentsAs hsegs)

theorem nodup_offspring {n : Node} {nodes : List Node} (h : offspring m cap n = .ok nodes) :
    nodes.Nodup := (nodup_names_offspring h).of_map _

theorem new_of_below {n c : Node} (h : Below m cap n c) :
    c.property.canonicalName ∉ n.onPath := by
  obtain ⟨_, _, nodes, hchildren, hc⟩ := children_of_below h
  obtain ⟨_, segs, _, _, rfl⟩ := children_eq_ok hchildren
  obtain ⟨p, hp, rfl⟩ := List.mem_map.mp hc
  have hnew := (List.mem_filter.mp hp).2
  change p.canonicalName ∉ n.onPath
  simpa using hnew

/-- In a closed model the nodes right below a node can be found, and each of them leads on. -/
theorem exists_offspring (hm : m.Closed) {n : Node} (hn : n.Leads m) (cap : Nat) :
    ∃ nodes, offspring m cap n = .ok nodes ∧ ∀ c ∈ nodes, c.Leads m := by
  obtain ⟨target, htarget⟩ := hn
  have hknown := Model.knows_targetType htarget
  obtain ⟨segs, hsegs⟩ := hm.exists_segmentsAs (m.isRootContainer target) hknown
  have hleads : ∀ p ∈ segs, ∃ t, m.targetType p = .ok t := fun p hp =>
    hm.exists_target_of_segment hknown hsegs hp
  have hchildren : children m n =
      .ok ((segs.filter fun p => !n.onPath.contains p.canonicalName).map n.child) := by
    rw [children, htarget, ok_bind, Model.segments, hsegs, ok_bind]
    rfl
  unfold offspring
  split
  · refine ⟨_, hchildren, ?_⟩
    intro c hc
    obtain ⟨p, hp, rfl⟩ := List.mem_map.mp hc
    exact hleads p (List.mem_filter.mp hp).1
  · exact ⟨[], rfl, by simp⟩

theorem leads_of_below (hm : m.Closed) {n c : Node} (hn : n.Leads m) (h : Below m cap n c) :
    c.Leads m := by
  obtain ⟨nodes, hnodes, hleads⟩ := exists_offspring hm hn cap
  obtain ⟨nodes', hnodes', hc⟩ := h
  rw [hnodes] at hnodes'
  cases hnodes'
  exact hleads c hc

/-- Induction downwards: what holds of a node if it holds of the nodes right below it holds of every
node that leads to a type. The number of levels that are left decreases. -/
theorem downwards (hm : m.Closed) (cap : Nat) {P : Node → Prop}
    (step : ∀ n nodes, n.Leads m → offspring m cap n = .ok nodes → (∀ c ∈ nodes, P c) → P n)
    {n : Node} (hn : n.Leads m) : P n := by
  generalize hlevels : cap - n.depth = levels
  induction levels generalizing n with
  | zero =>
    obtain ⟨nodes, hnodes, _⟩ := exists_offspring hm hn cap
    refine step n nodes hn hnodes ?_
    intro c hc
    have := (children_of_below ⟨nodes, hnodes, hc⟩).1
    omega
  | succ levels ih =>
    obtain ⟨nodes, hnodes, hleads⟩ := exists_offspring hm hn cap
    refine step n nodes hn hnodes ?_
    intro c hc
    have hdepth := depth_of_below ⟨nodes, hnodes, hc⟩
    exact ih (hleads c hc) (by omega)

/-! ## Subtrees -/

theorem Emission.concat_of_complete {es : List Emission} (h : ∀ e ∈ es, e.failure = none) :
    Emission.concat es = ⟨es.flatMap Emission.nodes, none⟩ := by
  induction es with
  | nil => rfl
  | cons e es ih =>
    have he := h e List.mem_cons_self
    have hes := ih fun f hf => h f (List.mem_cons_of_mem _ hf)
    rw [Emission.concat, hes, Emission.append, he]
    rfl

theorem failure_listingFrom (hm : m.Closed) {n : Node} (hn : n.Leads m) :
    (listingFrom m cap n).failure = none := by
  refine downwards (P := fun n => (listingFrom m cap n).failure = none) hm cap ?_ hn
  intro n nodes _ hnodes ih
  have hcomplete : ∀ e ∈ nodes.reverse.map (listingFrom m cap), e.failure = none := by
    intro e he
    obtain ⟨c, hc, rfl⟩ := List.mem_map.mp he
    exact ih c (List.mem_reverse.mp hc)
  rw [listingFrom_eq, hnodes]
  dsimp only
  rw [Emission.concat_of_complete hcomplete]
  rfl

/-- What a row of nodes has due in a closed model. -/
theorem concat_listingFrom (hm : m.Closed) {ns : List Node} (hns : ∀ n ∈ ns, n.Leads m) :
    Emission.concat (ns.map (listingFrom m cap)) = ⟨forest m cap ns, none⟩ := by
  rw [Emission.concat_of_complete, List.flatMap_map]
  · rfl
  · intro e he
    obtain ⟨n, hn, rfl⟩ := List.mem_map.mp he
    exact failure_listingFrom hm (hns n hn)

/-- A node comes first, and then the subtrees of the nodes right below it, in reverse. -/
theorem subtree_eq (hm : m.Closed) {n : Node} (hn : n.Leads m) {nodes : List Node}
    (hnodes : offspring m cap n = .ok nodes) :
    subtree m cap n = n :: forest m cap nodes.reverse := by
  have hleads : ∀ c ∈ nodes.reverse, c.Leads m := fun c hc =>
    leads_of_below hm hn ⟨nodes, hnodes, List.mem_reverse.mp hc⟩
  rw [subtree, listingFrom_eq, hnodes]
  dsimp only
  rw [concat_listingFrom hm hleads]
  rfl

theorem mem_forest {ns : List Node} {d : Node} :
    d ∈ forest m cap ns ↔ ∃ n ∈ ns, d ∈ subtree m cap n := List.mem_flatMap

/-- A subtree holds what can be reached downwards. -/
theorem mem_subtree_iff (hm : m.Closed) {n : Node} (hn : n.Leads m) {d : Node} :
    d ∈ subtree m cap n ↔ Relation.ReflTransGen (Below m cap) n d := by
  refine downwards (P := fun n => ∀ d, d ∈ subtree m cap n ↔
    Relation.ReflTransGen (Below m cap) n d) hm cap ?_ hn d
  intro n nodes hn hnodes ih d
  rw [subtree_eq hm hn hnodes, List.mem_cons, mem_forest]
  constructor
  · rintro (rfl | ⟨c, hc, hd⟩)
    · exact .refl
    · have hc := List.mem_reverse.mp hc
      exact .head ⟨nodes, hnodes, hc⟩ ((ih c hc d).mp hd)
  · intro h
    rcases Relation.ReflTransGen.cases_head h with rfl | ⟨c, hbelow, hd⟩
    · exact Or.inl rfl
    · obtain ⟨nodes', hnodes', hc⟩ := hbelow
      rw [hnodes] at hnodes'
      cases hnodes'
      exact Or.inr ⟨c, List.mem_reverse.mpr hc, (ih c hc d).mpr hd⟩

theorem suffix_of_mem_subtree (hm : m.Closed) {n d : Node} (hn : n.Leads m)
    (hd : d ∈ subtree m cap n) : n.way <:+ d.way := suffix_of_reach ((mem_subtree_iff hm hn).mp hd)

/-! ## Forests of siblings -/

/-- Nodes at one level share nothing below them. -/
theorem nodup_forest_of_nodup_subtree (hm : m.Closed) {ns : List Node} (hns : ns.Nodup)
    (hleads : ∀ n ∈ ns, n.Leads m) {level : Nat} (hlevel : ∀ n ∈ ns, n.depth = level)
    (hsub : ∀ n ∈ ns, (subtree m cap n).Nodup) : (forest m cap ns).Nodup := by
  rw [forest, List.nodup_flatMap]
  refine ⟨hsub, ?_⟩
  refine hns.imp_of_mem ?_
  intro a b ha hb hne d hda hdb
  apply hne
  refine Node.eq_of_way_suffix (suffix_of_mem_subtree hm (hleads a ha) hda)
    (suffix_of_mem_subtree hm (hleads b hb) hdb) ?_
  rw [hlevel a ha, hlevel b hb]

theorem depth_lt_of_mem_forest (hm : m.Closed) {n : Node} (hn : n.Leads m) {nodes : List Node}
    (hnodes : offspring m cap n = .ok nodes) {d : Node} (hd : d ∈ forest m cap nodes.reverse) :
    n.depth < d.depth := by
  obtain ⟨c, hc, hdc⟩ := mem_forest.mp hd
  have hbelow : Below m cap n c := ⟨nodes, hnodes, List.mem_reverse.mp hc⟩
  have hle := (suffix_of_mem_subtree hm (leads_of_below hm hn hbelow) hdc).length_le
  rw [Node.length_way, Node.length_way, depth_of_below hbelow] at hle
  omega

theorem nodup_subtree (hm : m.Closed) {n : Node} (hn : n.Leads m) : (subtree m cap n).Nodup := by
  refine downwards (P := fun n => (subtree m cap n).Nodup) hm cap ?_ hn
  intro n nodes hn hnodes ih
  rw [subtree_eq hm hn hnodes]
  refine List.nodup_cons.mpr ⟨?_, ?_⟩
  · intro hself
    exact Nat.lt_irrefl _ (depth_lt_of_mem_forest hm hn hnodes hself)
  · have hbelow : ∀ c ∈ nodes.reverse, Below m cap n c := fun c hc =>
      ⟨nodes, hnodes, List.mem_reverse.mp hc⟩
    exact nodup_forest_of_nodup_subtree hm (List.nodup_reverse.mpr (nodup_offspring hnodes))
      (fun c hc => leads_of_below hm hn (hbelow c hc)) (fun c hc => depth_of_below (hbelow c hc))
      (fun c hc => ih c (List.mem_reverse.mp hc))

theorem nodup_forest (hm : m.Closed) {ns : List Node} (hns : ns.Nodup)
    (hleads : ∀ n ∈ ns, n.Leads m) {level : Nat} (hlevel : ∀ n ∈ ns, n.depth = level) :
    (forest m cap ns).Nodup :=
  nodup_forest_of_nodup_subtree hm hns hleads hlevel fun n hn => nodup_subtree hm (hleads n hn)

/-- At the level of its roots a forest lists the roots, in their order. -/
theorem filter_forest (hm : m.Closed) {ns : List Node} (hleads : ∀ n ∈ ns, n.Leads m) {level : Nat}
    (hlevel : ∀ n ∈ ns, n.depth = level) :
    (forest m cap ns).filter (·.depth == level) = ns := by
  induction ns with
  | nil => rfl
  | cons n ns ih =>
    have hn := hleads n List.mem_cons_self
    obtain ⟨nodes, hnodes, _⟩ := exists_offspring hm hn cap
    have hdeeper : (forest m cap nodes.reverse).filter (·.depth == level) = [] := by
      rw [List.filter_eq_nil_iff]
      intro d hd
      have hlt := depth_lt_of_mem_forest hm hn hnodes hd
      have hd := hlevel n List.mem_cons_self
      simp only [beq_iff_eq]
      omega
    have hrest := ih (fun c hc => hleads c (List.mem_cons_of_mem _ hc))
      (fun c hc => hlevel c (List.mem_cons_of_mem _ hc))
    have hsplit : forest m cap (n :: ns) = subtree m cap n ++ forest m cap ns := rfl
    rw [hsplit, List.filter_append, hrest, subtree_eq hm hn hnodes, List.filter_cons_of_pos,
      hdeeper]
    · rfl
    · simp [hlevel n List.mem_cons_self]

end CsdlRoutes.Route
