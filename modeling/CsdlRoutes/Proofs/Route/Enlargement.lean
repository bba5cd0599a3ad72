import Mathlib.Data.List.Flatten
import CsdlRoutes.Proofs.Route.Address
import CsdlRoutes.Proofs.Schema.EnlargedModel

/-!
# Adding types

Types that are added to a model add routes and do nothing else. A walk through the new model hands
out the routes of the old one in the order in which a walk through the old model does, perhaps with
new routes between them, and each of them looks the same from outside. Types that descend from
nothing the old model uses add no routes.

A primitive type need not be declared, but it may have subtypes. So it counts among what the old
model uses as soon as a property leads to it.

* `subtree_sublist`: what is below a node stays below it, in its order.
* `walk_lists_enlarged`: what walks through both models hand out.
* `heir_of_primitive_adds_routes`: a new type that descends from no declared type and adds a route.
-/

namespace CsdlRoutes.Route

open Schema (Model Property SchemaType)

variable {m m' : Model} {cap : Nat}

/-! ## What routes look like -/

theorem namesakes_enlarged (h : m.Enlarged m') (hm : m.Closed) : Namesakes m m' where
  entityContainer := h.entityContainer
  getType := by
    intro name t ht
    exact ⟨t, h.getType ht, rfl, fun bases hbases => ⟨bases, h.baseTypes hm hbases, rfl⟩⟩

/-! ## Nodes right below a node -/

theorem leads_enlarged (h : m.Enlarged m') {n : Node} (hn : n.Leads m) : n.Leads m' := by
  obtain ⟨target, htarget⟩ := hn
  exact ⟨target, h.getType htarget⟩

theorem uses_target (hm : m.Closed) {p : Property} (hp : m.Declared p) {target : SchemaType}
    (htarget : m.targetType p = .ok target) : m.Uses target.name :=
  Or.inr ⟨p, hp, (hm.grounded.name_of_getType htarget).symm⟩

/-- The nodes right below a node stay right below it, in their order. None are added by detached
types. -/
theorem offspring_enlarged (h : m.Enlarged m') (hm : m.Closed) (hm' : m'.Closed) {n : Node}
    {nodes : List Node} (hnodes : offspring m cap n = .ok nodes) :
    ∃ nodes', offspring m' cap n = .ok nodes' ∧ nodes.Sublist nodes' ∧
      (m.Detached m' → m.Declared n.property → nodes' = nodes) := by
  unfold offspring at hnodes ⊢
  rw [← isReference_namesakes h.entityContainer]
  split at hnodes
  · rename_i hopen
    obtain ⟨target, segs, htarget, hsegs, rfl⟩ := children_eq_ok hnodes
    have htarget' : m'.targetType n.property = .ok target := h.getType htarget
    have hknown := Model.knows_targetType htarget
    obtain ⟨segs', hsegs'⟩ :=
      hm'.exists_segmentsAs (m.isRootContainer target) (Model.knows_targetType htarget')
    have hleft : segs.Sublist segs' := by
      rw [h.segmentsAs hm hm' hknown hsegs hsegs']
      exact List.filter_sublist
    refine ⟨(segs'.filter fun p => !n.onPath.contains p.canonicalName).map n.child, ?_,
      (hleft.filter _).map _, ?_⟩
    · rw [if_pos hopen, children, htarget', ok_bind, Model.segments, ← h.isRootContainer_eq, hsegs',
        ok_bind]
      rfl
    · intro hdetached hdeclared
      rw [h.segmentsAs_of_detached hm hm' hdetached hknown (uses_target hm hdeclared htarget) hsegs
        hsegs']
  · rename_i hclosed
    cases hnodes
    exact ⟨[], if_neg hclosed, .slnil, fun _ _ => rfl⟩

theorem roots_enlarged (h : m.Enlarged m') (hm : m.Closed) (hm' : m'.Closed) {rs : List Node}
    (hrs : roots m = .ok rs) :
    ∃ rs', roots m' = .ok rs' ∧ rs.Sublist rs' ∧ (m.Detached m' → rs' = rs) := by
  obtain ⟨c, segs, hc, hsegs, rfl⟩ := roots_eq_ok hrs
  obtain ⟨hfound, hkind⟩ := Model.rootContainer_eq_ok hc
  have hc' : m'.rootContainer = .ok c := by
    rw [Model.rootContainer, ← h.entityContainer, h.get? hfound]
    simp only [hkind, if_true]
  have hknown := Model.knows_rootContainer hc
  obtain ⟨segs', hsegs'⟩ := hm'.exists_segmentsAs true (Model.knows_rootContainer hc')
  have hleft : segs.Sublist segs' := by
    rw [h.segmentsAs hm hm' hknown hsegs hsegs']
    exact List.filter_sublist
  refine ⟨_, roots_of_rootContainer hc' hsegs', hleft.map _, fun hdetached => ?_⟩
  have huses : m.Uses c.name := by
    rw [hm.name_of_get? hfound]
    exact Or.inl (Table.mem_names_iff.mpr ⟨c, hfound⟩)
  rw [h.segmentsAs_of_detached hm hm' hdetached hknown huses hsegs hsegs']

/-! ## Subtrees -/

theorem forest_sublist {ns ns' : List Node} (h : ns.Sublist ns')
    (hsub : ∀ n ∈ ns, (subtree m cap n).Sublist (subtree m' cap n)) :
    (forest m cap ns.reverse).Sublist (forest m' cap ns'.reverse) :=
  (List.Sublist.flatMap_right _ fun n hn => hsub n (List.mem_reverse.mp hn)).trans
    (h.reverse.flatMap _)

/-- What is below a node stays below it, in its order. -/
theorem subtree_sublist (h : m.Enlarged m') (hm : m.Closed) (hm' : m'.Closed) {n : Node}
    (hn : n.Leads m) : (subtree m cap n).Sublist (subtree m' cap n) := by
  refine downwards (P := fun n => (subtree m cap n).Sublist (subtree m' cap n)) hm cap ?_ hn
  intro n nodes hn hnodes ih
  obtain ⟨nodes', hnodes', hleft, _⟩ := offspring_enlarged h hm hm' hnodes
  rw [subtree_eq hm hn hnodes, subtree_eq hm' (leads_enlarged h hn) hnodes']
  exact (forest_sublist hleft ih).cons_cons n

/-- Detached types add nothing below the nodes of the old model. -/
theorem subtree_of_detached (h : m.Enlarged m') (hm : m.Closed) (hm' : m'.Closed)
    (hdetached : m.Detached m') {n : Node} (hn : n.Leads m) (hdeclared : m.Declared n.property) :
    subtree m' cap n = subtree m cap n := by
  refine downwards (P := fun n => m.Declared n.property → subtree m' cap n = subtree m cap n) hm
    cap ?_ hn hdeclared
  intro n nodes hn hnodes ih hdeclared
  obtain ⟨nodes', hnodes', _, hsame⟩ := offspring_enlarged h hm hm' hnodes
  obtain rfl := hsame hdetached hdeclared
  rw [subtree_eq hm hn hnodes, subtree_eq hm' (leads_enlarged h hn) hnodes']
  congr 1
  refine List.flatMap_congr fun c hc => ?_
  have hc := List.mem_reverse.mp hc
  exact ih c hc (declared_of_below hm ⟨_, hnodes, hc⟩)

/-! ## Walks -/

/-- The route of a node has the same placeholders, casts, templates and command words in both
models. -/
structure SameAddress (m m' : Model) (n : Node) : Prop where
  keyParameters : ∃ keys, keyParameters m n.route = .ok keys ∧
    Route.keyParameters m' n.route = .ok keys
  casts : ∃ cs, casts m n.route = .ok cs ∧ Route.casts m' n.route = .ok cs
  outline : ∃ o, n.outline m = .ok o ∧ n.outline m' = .ok o

theorem sameAddress_of_mem_forest (h : m.Enlarged m') (hm : m.Closed) {rs : List Node}
    (hrs : roots m = .ok rs) {n : Node} (hn : n ∈ forest m cap rs.reverse) :
    SameAddress m m' n := by
  have hsame := namesakes_enlarged h hm
  have haddressable := addressable_of_mem_forest hm hrs hn
  obtain ⟨keys, hkeys⟩ := haddressable.keyParameters
  obtain ⟨cs, hcs, _⟩ := haddressable.casts
  obtain ⟨o, ho⟩ := exists_outline hm hrs hn
  exact ⟨⟨keys, hkeys, keyParameters_namesakes hsame hkeys⟩,
    ⟨cs, hcs, casts_namesakes hsame hcs⟩, ⟨o, ho, outline_namesakes hsame ho⟩⟩

theorem start_error_enlarged (h : m.Enlarged m') (hm : m.Closed) {failure : Failure}
    (hsame : m'.types.get? m.entityContainer = m.types.get? m.entityContainer)
    (hfailure : Walk.start m cap = .error failure) : Walk.start m' cap = .error failure := by
  have hroot : m'.rootContainer = m.rootContainer := by
    rw [Model.rootContainer, Model.rootContainer, ← h.entityContainer, hsame]
  cases hc : m.rootContainer with
  | ok c =>
    obtain ⟨w, hw⟩ := (exists_walk_iff hm cap).mpr ⟨c, hc⟩
    rw [hw] at hfailure
    cases hfailure
  | error e =>
    rw [Walk.start, roots, hc] at hfailure
    rw [Walk.start, roots, hroot, hc]
    exact hfailure

/-- **Adding types adds routes and nothing else.** A walk through the new model hands out the routes
of the old one in their order, perhaps with others between them, and each of these looks the same.
Detached types add none. Without an entity container both walks fail alike. -/
theorem walk_lists_enlarged (h : m.Enlarged m') (hm : m.Closed) (hm' : m'.Closed) (cap : Nat) :
    (∀ w, Walk.start m cap = .ok w → ∃ w' nodes nodes', Walk.start m' cap = .ok w' ∧
      w.Lists nodes ∧ w'.Lists nodes' ∧ nodes.Sublist nodes' ∧
      (∀ n ∈ nodes, SameAddress m m' n) ∧ (m.Detached m' → nodes' = nodes)) ∧
    ∀ failure, Walk.start m cap = .error failure →
      m'.types.get? m.entityContainer = m.types.get? m.entityContainer →
      Walk.start m' cap = .error failure := by
  refine ⟨fun w hw => ?_, fun _ hfailure hsame => start_error_enlarged h hm hsame hfailure⟩
  obtain ⟨rs, hrs, hlists, _⟩ := lists_forest hm hw
  obtain ⟨rs', hrs', hleft, hnone⟩ := roots_enlarged h hm hm' hrs
  obtain ⟨c', _, hc', _⟩ := roots_eq_ok hrs'
  obtain ⟨w', hw'⟩ := (exists_walk_iff hm' cap).mpr ⟨c', hc'⟩
  obtain ⟨rs'', hrs'', hlists', _⟩ := lists_forest hm' hw'
  rw [hrs'] at hrs''
  cases hrs''
  refine ⟨w', _, _, hw', hlists, hlists', ?_, fun n hn => sameAddress_of_mem_forest h hm hrs hn, ?_⟩
  · exact forest_sublist hleft fun r hr => subtree_sublist h hm hm' (leads_of_mem_roots hm hrs hr)
  · intro hdetached
    rw [hnone hdetached]
    refine List.flatMap_congr fun r hr => ?_
    have hr := List.mem_reverse.mp hr
    exact subtree_of_detached h hm hm' hdetached (leads_of_mem_roots hm hrs hr)
      (declared_of_mem_roots hm hrs hr)

/-- The directory with guests among the things, who are users that were invited by a user, and with
badges, which nothing leads to. -/
def directoryWithGuests : Model where
  version := "4.0"
  space := "t"
  types :=
    [("t.badge", ⟨"t.badge", .entity, none, false, [],
       [⟨"holder", "t.badge", "t.user", false, true, true⟩]⟩),
     ("t.thing", ⟨"t.thing", .entity, none, true, ["id"], []⟩),
     ("t.guest", ⟨"t.guest", .entity, some "t.user", false, [],
       [⟨"invitedBy", "t.guest", "t.user", false, true, true⟩]⟩),
     ("t.user", ⟨"t.user", .entity, some "t.thing", false, [],
       [⟨"name", "t.user", "Edm.String", false, false, false⟩,
        ⟨"manager", "t.user", "t.user", false, true, true⟩]⟩),
     ("t.group", ⟨"t.group", .entity, some "t.thing", false, [],
       [⟨"members", "t.group", "t.thing", true, true, true⟩,
        ⟨"owners", "t.group", "t.user", true, true, false⟩]⟩),
     ("t.root", ⟨"t.root", .container, none, false, [],
       [⟨"users", "t.root", "t.user", true, true, true⟩,
        ⟨"things", "t.root", "t.thing", true, true, true⟩]⟩)]
  entityContainer := "t.root"

/-- The directory with badges alone. -/
def directoryWithBadges : Model :=
  { directoryWithGuests with
    types := directoryWithGuests.types.filter fun entry => entry.1 != "t.guest" }

theorem directory_walk_lists_enlarged :
    (Model.directory.Enlarged directoryWithGuests ∧ Model.directory.Closed ∧
      directoryWithGuests.Closed ∧ ∃ w w' nodes nodes', Walk.start Model.directory 3 = .ok w ∧
      Walk.start directoryWithGuests 3 = .ok w' ∧ w.Lists nodes ∧ w'.Lists nodes' ∧
      nodes.Sublist nodes' ∧ ∀ n ∈ nodes, SameAddress Model.directory directoryWithGuests n) ∧
    (Model.directory.Enlarged directoryWithBadges ∧ Model.directory.Detached directoryWithBadges ∧
      directoryWithBadges.Closed ∧ ∃ w w' nodes, Walk.start Model.directory 3 = .ok w ∧
      Walk.start directoryWithBadges 3 = .ok w' ∧ w.Lists nodes ∧ w'.Lists nodes) := by
  have hclosed : Model.directory.Closed := by decide
  obtain ⟨w, hw⟩ : ∃ w, Walk.start Model.directory 3 = .ok w := ⟨_, rfl⟩
  have hguests : Model.directory.Enlarged directoryWithGuests := by decide
  have hguestsClosed : directoryWithGuests.Closed := by decide
  have hbadges : Model.directory.Enlarged directoryWithBadges := by decide
  have hbadgesClosed : directoryWithBadges.Closed := by decide
  have hdetached : Model.directory.Detached directoryWithBadges := by decide
  refine ⟨⟨hguests, hclosed, hguestsClosed, ?_⟩, hbadges, hdetached, hbadgesClosed, ?_⟩
  · obtain ⟨w', nodes, nodes', hw', hlists, hlists', hleft, hsame, _⟩ :=
      (walk_lists_enlarged hguests hclosed hguestsClosed 3).1 w hw
    exact ⟨w, w', nodes, nodes', hw, hw', hlists, hlists', hleft, hsame⟩
  · obtain ⟨w', nodes, nodes', hw', hlists, hlists', _, _, hnone⟩ :=
      (walk_lists_enlarged hbadges hclosed hbadgesClosed 3).1 w hw
    rw [hnone hdetached] at hlists'
    exact ⟨w, w', nodes, hw, hw', hlists, hlists'⟩

/-- A container that leads to a primitive type alone. -/
def clock : Model where
  version := "4.0"
  space := "t"
  types := [("t.root", ⟨"t.root", .container, none, false, [],
    [⟨"now", "t.root", "Edm.Stamp", false, true, true⟩]⟩)]
  entityContainer := "t.root"

/-- The same container, and a subtype of the primitive type. -/
def clockWithZone : Model :=
  { clock with
    types := clock.types ++
      [("t.zoned", ⟨"t.zoned", .entity, some "Edm.Stamp", false, [],
        [⟨"zone", "t.zoned", "t.zoned", false, true, true⟩]⟩)] }

/-- A new type that descends from no declared type may add routes, for a property may lead to a
primitive type that nobody declared. -/
theorem heir_of_primitive_adds_routes :
    clock.Enlarged clockWithZone ∧ clock.Closed ∧ clockWithZone.Closed ∧
    (∀ entry ∈ clockWithZone.types, entry.1 ∉ clock.types.names → ∀ bases,
      clockWithZone.baseTypes entry.2 = .ok bases → ∀ b ∈ bases, b.name ∉ clock.types.names) ∧
    ∃ w w', Walk.start clock 2 = .ok w ∧ Walk.start clockWithZone 2 = .ok w' ∧
      ¬ ∃ nodes, w.Lists nodes ∧ w'.Lists nodes := by
  refine ⟨by decide, by decide, by decide, ?_, _, _, rfl, rfl, ?_⟩
  · intro entry hentry hnew bases hbases b hb
    simp only [clockWithZone, clock, List.cons_append, List.nil_append, List.mem_cons,
      List.not_mem_nil, or_false] at hentry
    rcases hentry with rfl | rfl
    · exact absurd (by decide) hnew
    · have hchain : clockWithZone.baseTypes ⟨"t.zoned", .entity, some "Edm.Stamp", false, [],
          [⟨"zone", "t.zoned", "t.zoned", false, true, true⟩]⟩ =
          .ok [⟨"Edm.Stamp", .primitive, none, false, [], []⟩] := by rfl
      rw [hchain] at hbases
      cases hbases
      cases hb with
      | head => decide
      | tail _ h => cases h
  · rintro ⟨nodes, hlists, hlists'⟩
    have h := (hlists 2).trans (hlists' 2).symm
    exact absurd (congrArg Walk.Taken.finished h) (by decide)

end CsdlRoutes.Route
