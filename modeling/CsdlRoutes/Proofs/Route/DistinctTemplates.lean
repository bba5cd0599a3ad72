import CsdlRoutes.Proofs.Route.Admissible
import CsdlRoutes.Proofs.Route.TemplateParts
import CsdlRoutes.Proofs.Route.Totality
import CsdlRoutes.Proofs.Schema.RegularModel

/-!
# Templates identify nodes

A template shows the names of the properties of a route, and of their owners only those to which it
casts. That is enough. Without a cast a property is declared by the target of the one before it or by
a base type of that, and these have no name in common; with a cast the owner is named. So a route can
be followed again from its template, segment by segment, and different nodes have different
templates, even without placeholders.

* `Plain` states what names a model may have.
* `eq_of_starts`, `eq_of_continues`: a cast and a name determine a segment.
* `route_eq_of_legend_eq`: casts and names determine a route.
* `templates_identify_nodes`: the nodes that a walk hands out have different templates.
-/

namespace CsdlRoutes.Route

open Schema (Document Model Property SchemaType extract)

/-- Names are made of letters, digits and underscores, and those of types of dots as well. No type
has a property with a name that a property of one of its base types has, and none has the entity
container as a base type. -/
structure Plain (m : Model) : Prop where
  propertyNames : ∀ t ∈ m.types.values, ∀ p ∈ t.properties, isWord p.name = true
  typeNames : ∀ t ∈ m.types.values, isDotted t.name = true
  unshadowed : ∀ t ∈ m.types.values, ∀ b ∈ m.types.values, m.HasBase t b →
    ∀ p ∈ t.properties, ∀ q ∈ b.properties, p.name ≠ q.name
  heirless : ∀ t ∈ m.types.values, ∀ b ∈ m.types.values, m.HasBase t b →
    b.name ≠ m.entityContainer

variable {m : Model}

theorem plain_iff : Plain m ↔
    (∀ t ∈ m.types.values, (∀ p ∈ t.properties, isWord p.name = true) ∧ isDotted t.name = true) ∧
      ∀ t ∈ m.types.values, ∀ b ∈ m.types.values, m.HasBase t b →
        (∀ p ∈ t.properties, ∀ q ∈ b.properties, p.name ≠ q.name) ∧
          b.name ≠ m.entityContainer := by
  constructor
  · intro h
    exact ⟨fun t ht => ⟨h.propertyNames t ht, h.typeNames t ht⟩,
      fun t ht b hb hbase => ⟨h.unshadowed t ht b hb hbase, h.heirless t ht b hb hbase⟩⟩
  · rintro ⟨hnames, hbases⟩
    exact ⟨fun t ht => (hnames t ht).1, fun t ht => (hnames t ht).2,
      fun t ht b hb hbase => (hbases t ht b hb hbase).1,
      fun t ht b hb hbase => (hbases t ht b hb hbase).2⟩

instance : Decidable (Plain m) := decidable_of_iff _ plain_iff.symm

/-! ## Casts -/

/-- A cast is to the owner of the property behind it. -/
theorem cast_eq_owner {previous p : Property} {owner : String}
    (h : castBetween m previous p = .ok (some owner)) : owner = p.declaringType := by
  unfold castBetween at h
  split at h
  · cases h
  · obtain ⟨target, _, h⟩ := bind_eq_ok.mp h
    split at h
    · cases h
    · obtain ⟨bases, _, h⟩ := bind_eq_ok.mp h
      split at h
      · cases h
      · cases h
        rfl

/-- Without a cast the owner is the entity container, the target or a base type of the target. -/
theorem owner_of_no_cast {previous p : Property} {target : SchemaType} {bases : List SchemaType}
    (htarget : m.targetType previous = .ok target) (hbases : m.baseTypes target = .ok bases)
    (h : castBetween m previous p = .ok none) :
    p.declaringType = m.entityContainer ∨ ∃ u ∈ target :: bases, u.name = p.declaringType := by
  unfold castBetween at h
  rw [htarget, ok_bind, hbases] at h
  split at h
  · rename_i hroot
    exact Or.inl hroot
  · split at h
    · rename_i hself
      exact Or.inr ⟨target, List.mem_cons_self, hself.symm⟩
    · rw [ok_bind] at h
      split at h
      · rename_i hany
        obtain ⟨b, hb, hname⟩ := List.any_eq_true.mp hany
        exact Or.inr ⟨b, List.mem_cons_of_mem _ hb, by simpa using hname⟩
      · cases h

theorem cast_eq_owner_of_mem {previous? : Option Property} {route : List Property}
    {cs : List (Option String)} (h : castsFrom m previous? route = .ok cs) :
    ∀ s ∈ route.zip cs, s.1 ∈ route ∧ ∀ owner, s.2 = some owner → owner = s.1.declaringType := by
  induction route generalizing previous? cs with
  | nil => exact fun s hs => nomatch hs
  | cons p rest ih =>
    obtain ⟨cast, more, hcast, hmore, rfl⟩ := castsFrom_cons_eq_ok h
    intro s hs
    rcases List.mem_cons.mp hs with rfl | hs
    · refine ⟨List.mem_cons_self, ?_⟩
      rintro owner rfl
      cases previous? with
      | none => cases hcast
      | some previous => exact cast_eq_owner hcast
    · obtain ⟨hmem, howner⟩ := ih hmore s hs
      exact ⟨List.mem_cons_of_mem _ hmem, howner⟩

/-! ## Segments -/

/-- The owner of a segment of a type is in the chain of the type or descends from the type. -/
theorem owner_of_segment (hm : m.Regular) {isRoot : Bool} {t : SchemaType} (ht : m.Knows t)
    {bases : List SchemaType} (hbases : m.baseTypes t = .ok bases) {segs : List Property}
    (hsegs : m.segmentsAs isRoot t = .ok segs) {p : Property} (hp : p ∈ segs) :
    ∃ u ∈ m.types.values, p ∈ u.properties ∧ (u ∈ t :: bases ∨ m.Descends u t) := by
  obtain ⟨types, htypes, ⟨u, hu, hpu⟩, _⟩ := Model.mem_of_mem_segmentsAs hsegs hp
  have hknown : m.Knows u := hm.closed.knows_of_mem_contributors ht htypes u hu
  refine ⟨u, Model.value_of_mem_properties hknown hpu, hpu, ?_⟩
  obtain ⟨bases', derived, hbases', hderived, rfl⟩ := Model.contributors_eq_ok htypes
  rw [hbases] at hbases'
  cases hbases'
  rw [← List.cons_append] at hu
  rcases List.mem_append.mp hu with hu | hu
  · exact Or.inl hu
  · have hname := List.mem_map_of_mem (f := SchemaType.name) hu
    exact Or.inr ((hm.closed.grounded.mem_derivedTypes_iff hderived).mp hname).2

theorem declared_of_starts (hm : m.Regular) {p : Property} (h : Starts m p) : m.Declared p := by
  obtain ⟨c, segs, hc, hsegs, hp⟩ := h
  exact declared_of_mem_segmentsAs hm.closed (Model.knows_rootContainer hc) hsegs hp

theorem declared_of_continues (hm : m.Regular) {previous p : Property}
    (h : Continues m previous p) : m.Declared p := by
  obtain ⟨target, segs, htarget, hsegs, hp⟩ := h
  exact declared_of_mem_segmentsAs hm.closed (Model.knows_targetType htarget) hsegs hp

/-- A route starts with a property of the entity container itself. -/
theorem owner_of_starts (hm : m.Regular) (hplain : Plain m) {p : Property} (h : Starts m p) :
    ∃ c ∈ m.types.values, m.rootContainer = .ok c ∧ p ∈ c.properties := by
  obtain ⟨c, segs, hc, hsegs, hp⟩ := h
  obtain ⟨hfound, hkind⟩ := Model.rootContainer_eq_ok hc
  have hvalue := Table.mem_values.mpr ⟨_, Table.mem_of_get? hfound⟩
  have hknown := hm.knows_of_value hvalue
  have hbases : m.baseTypes c = .ok [] := Model.basesFrom_of_no_base (hm.baseless c hvalue hkind)
  obtain ⟨u, hu, hpu, hchain | hdescends⟩ := owner_of_segment hm hknown hbases hsegs hp
  · rw [List.mem_singleton.mp hchain] at hpu
    exact ⟨c, hvalue, hc, hpu⟩
  · by_cases hsame : c = u
    · exact ⟨c, hvalue, hc, hsame ▸ hpu⟩
    · have hbase :=
        hm.closed.grounded.hasBase_of_descends hm.names (hm.knows_of_value hu) hknown hdescends hsame
      exact absurd (hm.closed.name_of_get? hfound) (hplain.heirless u hu c hvalue hbase)

theorem eq_of_starts (hm : m.Regular) (hplain : Plain m) {p q : Property} (hp : Starts m p)
    (hq : Starts m q) (h : p.name = q.name) : p = q := by
  obtain ⟨c, hvalue, hc, hpc⟩ := owner_of_starts hm hplain hp
  obtain ⟨c', _, hc', hqc⟩ := owner_of_starts hm hplain hq
  rw [hc] at hc'
  cases hc'
  exact hm.eq_of_mem_properties hvalue hpc hqc h

/-- Without a cast a property is declared by the target or by a base type of the target. -/
theorem owner_in_chain (hm : m.Regular) {previous p : Property} (h : Continues m previous p)
    {target : SchemaType} (htarget : m.targetType previous = .ok target) {bases : List SchemaType}
    (hbases : m.baseTypes target = .ok bases) (hcast : castBetween m previous p = .ok none) :
    ∃ u ∈ m.types.values, p ∈ u.properties ∧ u ∈ target :: bases := by
  obtain ⟨target', segs, htarget', hsegs, hp⟩ := h
  rw [htarget] at htarget'
  cases htarget'
  have hknown := Model.knows_targetType htarget
  obtain ⟨u, hu, hpu, hchain | hdescends⟩ := owner_of_segment hm hknown hbases hsegs hp
  · exact ⟨u, hu, hpu, hchain⟩
  · have howner := (hm.orderly u hu).owned p hpu
    rcases owner_of_no_cast htarget hbases hcast with hroot | ⟨v, hv, hname⟩
    · -- the entity container descends from nothing
      obtain ⟨c, hc⟩ := hm.container
      have hcname := hm.closed.name_of_get? (Model.rootContainer_eq_ok hc).1
      rw [Model.Descends, ← howner, hroot, ← hcname] at hdescends
      exact absurd hdescends (hm.not_descends_container hc)
    · have hvknown := hm.closed.grounded.knows_of_mem_chain hknown hbases v hv
      obtain rfl : v = u :=
        hm.closed.grounded.eq_of_name_eq hvknown (hm.knows_of_value hu) (hname.trans howner)
      exact ⟨v, hu, hpu, hv⟩

/-- Behind a property the cast and the name of the next one tell which it is. -/
theorem eq_of_continues (hm : m.Regular) (hplain : Plain m) {previous p q : Property}
    (hp : Continues m previous p) (hq : Continues m previous q) {cast : Option String}
    (hcastp : castBetween m previous p = .ok cast) (hcastq : castBetween m previous q = .ok cast)
    (h : p.name = q.name) : p = q := by
  have ⟨target, _, htarget, _⟩ := hp
  have hknown := Model.knows_targetType htarget
  obtain ⟨bases, hbases, _⟩ := hm.closed.exists_baseTypes hknown
  cases cast with
  | none =>
    obtain ⟨u, hu, hpu, hchainu⟩ := owner_in_chain hm hp htarget hbases hcastp
    obtain ⟨v, hv, hqv, hchainv⟩ := owner_in_chain hm hq htarget hbases hcastq
    rcases hm.closed.grounded.comparable_of_mem_chain hm.names hknown hbases hchainu hchainv with
      rfl | hbase | hbase
    · exact hm.eq_of_mem_properties hu hpu hqv h
    · exact absurd h (hplain.unshadowed u hu v hv hbase p hpu q hqv)
    · exact absurd h.symm (hplain.unshadowed v hv u hu hbase q hqv p hpu)
  | some owner =>
    have hsame : p.declaringType = q.declaringType :=
      (cast_eq_owner hcastp).symm.trans (cast_eq_owner hcastq)
    obtain ⟨u, hu, hpu⟩ := declared_of_continues hm hp
    obtain ⟨v, hv, hqv⟩ := declared_of_continues hm hq
    rw [(hm.orderly u hu).owned p hpu, (hm.orderly v hv).owned q hqv] at hsame
    obtain rfl :=
      hm.closed.grounded.eq_of_name_eq (hm.knows_of_value hu) (hm.knows_of_value hv) hsame
    exact hm.eq_of_mem_properties hu hpu hqv h

/-! ## Routes -/

/-- Behind a property casts and names tell how a route goes on. The induction is on the route. -/
theorem rest_eq_of_legend_eq (hm : m.Regular) (hplain : Plain m) {previous : Property}
    {route route' : List Property} (hroute : (previous :: route).IsChain (Continues m))
    (hroute' : (previous :: route').IsChain (Continues m)) {cs cs' : List (Option String)}
    (hcs : castsFrom m (some previous) route = .ok cs)
    (hcs' : castsFrom m (some previous) route' = .ok cs')
    (h : (route.zip cs).map legend = (route'.zip cs').map legend) : route = route' := by
  induction route generalizing previous route' cs cs' with
  | nil =>
    cases route' with
    | nil => rfl
    | cons q rest' =>
      obtain ⟨_, _, _, _, rfl⟩ := castsFrom_cons_eq_ok hcs'
      cases h
  | cons p rest ih =>
    obtain ⟨cast, more, hcast, hmore, rfl⟩ := castsFrom_cons_eq_ok hcs
    cases route' with
    | nil => cases h
    | cons q rest' =>
      obtain ⟨cast', more', hcast', hmore', rfl⟩ := castsFrom_cons_eq_ok hcs'
      obtain ⟨hp, hrest⟩ := List.isChain_cons_cons.mp hroute
      obtain ⟨hq, hrest'⟩ := List.isChain_cons_cons.mp hroute'
      obtain ⟨hhead, htail⟩ := List.cons.inj h
      obtain ⟨hcasts, hname⟩ := Prod.mk.inj hhead
      cases hcasts
      obtain rfl := eq_of_continues hm hplain hp hq hcast hcast' hname
      rw [ih hrest hrest' hmore hmore' htail]

variable {cap : Nat}

/-- Casts and names tell which route it is. -/
theorem route_eq_of_legend_eq (hm : m.Regular) (hplain : Plain m) {route route' : List Property}
    (hroute : Admissible m cap route) (hroute' : Admissible m cap route')
    {cs cs' : List (Option String)} (hcs : casts m route = .ok cs)
    (hcs' : casts m route' = .ok cs')
    (h : (route.zip cs).map legend = (route'.zip cs').map legend) : route = route' := by
  obtain ⟨p, hp, hstarts⟩ := hroute.starts
  obtain ⟨q, hq, hstarts'⟩ := hroute'.starts
  obtain ⟨rest, rfl⟩ := List.head?_eq_some_iff.mp hp
  obtain ⟨rest', rfl⟩ := List.head?_eq_some_iff.mp hq
  obtain ⟨cast, more, _, hmore, rfl⟩ := castsFrom_cons_eq_ok hcs
  obtain ⟨cast', more', _, hmore', rfl⟩ := castsFrom_cons_eq_ok hcs'
  obtain ⟨hhead, htail⟩ := List.cons.inj h
  obtain rfl := eq_of_starts hm hplain hstarts hstarts' (Prod.mk.inj hhead).2
  rw [rest_eq_of_legend_eq hm hplain hroute.continues hroute'.continues hmore hmore' htail]

/-! ## What stands in a template -/

theorem declared_of_mem_route (hm : m.Regular) {route : List Property}
    (hroute : Admissible m cap route) : ∀ p ∈ route, m.Declared p := by
  have hrest : ∀ p rest, m.Declared p → (p :: rest).IsChain (Continues m) →
      ∀ q ∈ p :: rest, m.Declared q := by
    intro p rest hp hchain
    induction rest generalizing p with
    | nil => exact List.forall_mem_singleton.mpr hp
    | cons q rest ih =>
      obtain ⟨hstep, hrest⟩ := List.isChain_cons_cons.mp hchain
      exact List.forall_mem_cons.mpr ⟨hp, ih q (declared_of_continues hm hstep) hrest⟩
  obtain ⟨p, hp, hstarts⟩ := hroute.starts
  obtain ⟨rest, rfl⟩ := List.head?_eq_some_iff.mp hp
  exact hrest p rest (declared_of_starts hm hstarts) hroute.continues

/-- A type behind which a route goes on is declared: others have no segments. -/
theorem value_of_continues (hm : m.Regular) {previous p : Property} (h : Continues m previous p)
    {target : SchemaType} (htarget : m.targetType previous = .ok target) :
    target ∈ m.types.values := by
  obtain ⟨target', segs, htarget', hsegs, hp⟩ := h
  rw [htarget] at htarget'
  cases htarget'
  have hknown := Model.knows_targetType htarget
  obtain ⟨bases, hbases, _⟩ := hm.closed.exists_baseTypes hknown
  obtain ⟨u, hu, hpu, hchain | hdescends⟩ := owner_of_segment hm hknown hbases hsegs hp
  · cases hbase : target.base? with
    | none =>
      have hnone : m.baseTypes target = .ok [] := Model.basesFrom_of_no_base hbase
      rw [hbases] at hnone
      cases hnone
      exact List.mem_singleton.mp hchain ▸ hu
    | some base =>
      obtain ⟨v, hv, hname, _⟩ :=
        Model.exists_value_of_extends (Model.extends_of_base hknown hbase)
      exact hm.closed.grounded.eq_of_name_eq (hm.knows_of_value hv) hknown hname ▸ hv
  · obtain ⟨name, hstep, _⟩ := Relation.TransGen.head'_iff.mp hdescends
    exact hm.value_of_extends hknown hstep

theorem slash_notMem_targets (hm : m.Regular) (hplain : Plain m) {route : List Property}
    (hroute : route.IsChain (Continues m)) :
    ∀ p ∈ route.dropLast, ∀ t, m.targetType p = .ok t → '/' ∉ t.name.toList := by
  induction route with
  | nil => exact fun p hp => nomatch hp
  | cons p rest ih =>
    cases rest with
    | nil => exact fun p hp => nomatch hp
    | cons q rest =>
      obtain ⟨hstep, hrest⟩ := List.isChain_cons_cons.mp hroute
      refine List.forall_mem_cons.mpr ⟨fun t ht => ?_, ih hrest⟩
      exact notMem_of_isDotted (hplain.typeNames t (value_of_continues hm hstep ht)) (by decide)

theorem legible_of_admissible (hm : m.Regular) (hplain : Plain m) {route : List Property}
    (hroute : Admissible m cap route) {cs : List (Option String)} (hcs : casts m route = .ok cs) :
    ∀ s ∈ route.zip cs, Legible s := by
  intro s hs
  obtain ⟨hmem, howner⟩ := cast_eq_owner_of_mem hcs s hs
  obtain ⟨t, ht, hpt⟩ := declared_of_mem_route hm hroute s.1 hmem
  refine ⟨hplain.propertyNames t ht s.1 hpt, fun owner hcast => ?_⟩
  rw [howner owner hcast, (hm.orderly t ht).owned s.1 hpt]
  exact ⟨hplain.typeNames t ht, hm.qualified t ht⟩

/-! ## Templates -/

theorem template_eq_ok {route : List Property} {path : String} (h : template m route = .ok path) :
    ∃ keys cs, keyParameters m route = .ok keys ∧ casts m route = .ok cs ∧
      path = assemble m route keys cs := by
  obtain ⟨keys, hkeys, h⟩ := bind_eq_ok.mp h
  obtain ⟨cs, hcs, h⟩ := bind_eq_ok.mp h
  cases h
  exact ⟨keys, cs, hkeys, hcs, rfl⟩

theorem bareTemplate_eq_ok {route : List Property} {path : String}
    (h : bareTemplate m route = .ok path) :
    ∃ cs, casts m route = .ok cs ∧ path = assemble m route [] cs := by
  obtain ⟨cs, hcs, h⟩ := bind_eq_ok.mp h
  cases h
  exact ⟨cs, hcs, rfl⟩

theorem segments_ne_nil {route : List Property} (hroute : Admissible m cap route)
    {cs : List (Option String)} (hcs : casts m route = .ok cs) : route.zip cs ≠ [] := by
  obtain ⟨p, rest, rfl⟩ := List.exists_cons_of_ne_nil hroute.ne_nil
  obtain ⟨_, _, _, _, rfl⟩ := castsFrom_cons_eq_ok hcs
  exact List.cons_ne_nil _ _

/-- Routes that are written alike are the same, whatever the placeholders. -/
theorem route_eq_of_assemble_eq (hm : m.Regular) (hplain : Plain m) {route route' : List Property}
    (hroute : Admissible m cap route) (hroute' : Admissible m cap route')
    {cs cs' : List (Option String)} (hcs : casts m route = .ok cs)
    (hcs' : casts m route' = .ok cs') {keys keys' : List KeyParameter}
    (hkeys : ∀ k ∈ keys, '/' ∉ k.name.toList) (hkeys' : ∀ k ∈ keys', '/' ∉ k.name.toList)
    (h : assemble m route keys cs = assemble m route' keys' cs') : route = route' := by
  refine route_eq_of_legend_eq hm hplain hroute hroute' hcs hcs' ?_
  exact legend_eq_of_assemble_eq (legible_of_admissible hm hplain hroute hcs)
    (legible_of_admissible hm hplain hroute' hcs') hkeys hkeys' (segments_ne_nil hroute hcs)
    (segments_ne_nil hroute' hcs') h

theorem route_eq_of_template_eq (hm : m.Regular) (hplain : Plain m) {route route' : List Property}
    (hroute : Admissible m cap route) (hroute' : Admissible m cap route') {path : String}
    (h : template m route = .ok path) (h' : template m route' = .ok path) : route = route' := by
  obtain ⟨keys, cs, hkeys, hcs, rfl⟩ := template_eq_ok h
  obtain ⟨keys', cs', hkeys', hcs', hsame⟩ := template_eq_ok h'
  have hslash := slash_notMem_keyParameters (slash_notMem_targets hm hplain hroute.continues) hkeys
  have hslash' :=
    slash_notMem_keyParameters (slash_notMem_targets hm hplain hroute'.continues) hkeys'
  exact route_eq_of_assemble_eq hm hplain hroute hroute' hcs hcs' hslash hslash' hsame

theorem route_eq_of_bareTemplate_eq (hm : m.Regular) (hplain : Plain m)
    {route route' : List Property} (hroute : Admissible m cap route)
    (hroute' : Admissible m cap route') {path : String} (h : bareTemplate m route = .ok path)
    (h' : bareTemplate m route' = .ok path) : route = route' := by
  obtain ⟨cs, hcs, rfl⟩ := bareTemplate_eq_ok h
  obtain ⟨cs', hcs', hsame⟩ := bareTemplate_eq_ok h'
  exact route_eq_of_assemble_eq hm hplain hroute hroute' hcs hcs' (List.forall_mem_nil _)
    (List.forall_mem_nil _) hsame

/-- **Templates identify nodes.** A walk through the model of a document hands out nodes with
different templates, and with different templates without placeholders, if the names are plain, no
type has a property of the name of an inherited one, and nothing derives from the entity
container. -/
theorem templates_identify_nodes {version : String} {d : Document} (hd : Document.Proper d)
    (h : extract version d = .ok m) (hplain : Plain m) (cap : Nat) :
    ∃ w nodes paths barePaths, Walk.start m cap = .ok w ∧ w.Lists nodes ∧
      nodes.mapM (fun n => template m n.route) = .ok paths ∧ paths.Nodup ∧
      nodes.mapM (fun n => bareTemplate m n.route) = .ok barePaths ∧ barePaths.Nodup := by
  have hm := Schema.regular_of_extract hd h
  obtain ⟨w, hw⟩ := (exists_walk_iff hm.closed cap).mpr hm.container
  obtain ⟨rs, hrs, hlists, _⟩ := lists_forest hm.closed hw
  have hadmissible : ∀ n ∈ forest m cap rs.reverse, Admissible m cap n.route := fun n hn =>
    (mem_forest_iff_admissible hm.closed hrs n).mp hn
  have hnodup : (forest m cap rs.reverse).Nodup := nodup_forest_roots hm.closed hrs
  obtain ⟨paths, hpaths⟩ := exists_mapM_ok fun n (hn : n ∈ forest m cap rs.reverse) =>
    (addressable_of_mem_forest hm.closed hrs hn).template
  obtain ⟨barePaths, hbare⟩ := exists_mapM_ok fun n (hn : n ∈ forest m cap rs.reverse) =>
    (addressable_of_mem_forest hm.closed hrs hn).bareTemplate
  refine ⟨w, _, paths, barePaths, hw, hlists, hpaths, ?_, hbare, ?_⟩
  · refine nodup_of_mapM hpaths hnodup fun n hn n' hn' path hpath hpath' => ?_
    exact Node.route_injective (route_eq_of_template_eq hm hplain (hadmissible n hn)
      (hadmissible n' hn') hpath hpath')
  · refine nodup_of_mapM hbare hnodup fun n hn n' hn' path hpath hpath' => ?_
    exact Node.route_injective (route_eq_of_bareTemplate_eq hm hplain (hadmissible n hn)
      (hadmissible n' hn') hpath hpath')

/-- A document with users and groups, which are things. Both have an owner, so that the templates of
their owners differ in nothing but a cast. -/
def premises : Document :=
  [(.text "$EntityContainer", .text "p.root"),
   (.text "p", .object
     [(.text "thing", .object
       [(.text "$Kind", .text "EntityType"), (.text "$Key", .list [.text "id"]),
        (.text "id", .object []),
        (.text "place", .object
          [(.text "$Kind", .text "NavigationProperty"), (.text "$Type", .text "p.thing"),
           (.text "$ContainsTarget", .scalar (.bool true))])]),
      (.text "user", .object
       [(.text "$Kind", .text "EntityType"), (.text "$BaseType", .text "p.thing"),
        (.text "owner", .object
          [(.text "$Kind", .text "NavigationProperty"), (.text "$Type", .text "p.user")])]),
      (.text "group", .object
       [(.text "$Kind", .text "EntityType"), (.text "$BaseType", .text "p.thing"),
        (.text "owner", .object
          [(.text "$Kind", .text "NavigationProperty"), (.text "$Type", .text "p.user"),
           (.text "$ContainsTarget", .scalar (.bool true))])]),
      (.text "root", .object
       [(.text "$Kind", .text "EntityContainer"),
        (.text "things", .object
          [(.text "$Collection", .scalar (.bool true)), (.text "$Type", .text "p.thing")]),
        (.text "me", .object [(.text "$Type", .text "p.user")])])])]

theorem exists_plain_model_of_premises :
    ∃ m, extract "4.0" premises = .ok m ∧ Plain m := ⟨_, rfl, by decide⟩

theorem premises_templates_identify_nodes :
    Document.Proper premises ∧ ∃ m, extract "4.0" premises = .ok m ∧ Plain m ∧
      ∃ w nodes paths barePaths, Walk.start m 3 = .ok w ∧ w.Lists nodes ∧
        nodes.mapM (fun n => template m n.route) = .ok paths ∧ paths.Nodup ∧
        nodes.mapM (fun n => bareTemplate m n.route) = .ok barePaths ∧ barePaths.Nodup := by
  have hproper : Document.Proper premises := by decide
  obtain ⟨m, hm, hplain⟩ := exists_plain_model_of_premises
  exact ⟨hproper, m, hm, hplain, templates_identify_nodes hproper hm hplain 3⟩

end CsdlRoutes.Route
