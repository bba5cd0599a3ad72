import Mathlib.Data.List.Chain
import Mathlib.Data.List.Pairwise
import CsdlRoutes.Proofs.Route.ClosedWalk
import CsdlRoutes.Proofs.Schema.ExtractedModel
import CsdlRoutes.Proofs.Schema.InheritanceWalks
import CsdlRoutes.Route.Row

/-!
# Nothing fails behind extraction

The check of references that extraction makes is the only one that is needed. In the model of a
document every type has its base types, its subtypes and its segments, a walk never fails, neither
at its beginning nor at any later request, and the route of each node has its placeholders, casts
and templates. Whether a route ends in a reference and what its command words are needs no look-up
at all.

* `Answers`, `Addressable`: what can be asked of a type and of a route.
* `CastSettled`, `exists_casts_iff`: what a route needs to have its casts.
* `answers_of_knows`, `addressable_of_leads`: in a closed model everything has an answer.
* `extract_total`: in the model of a document nothing fails.
-/

namespace CsdlRoutes.Route

open Schema (Document Model Property SchemaType extract)

variable {m : Model} {cap : Nat}

/-- Every question about a type has an answer. The walks through inheritance end by themselves: any
greater number of steps gives the same types. -/
structure Answers (m : Model) (t : SchemaType) : Prop where
  base : ∀ name, t.base? = some name → ∃ b, m.getType name = .ok b
  targets : ∀ p ∈ t.properties, ∃ target, m.targetType p = .ok target
  baseTypes : ∃ bases, m.baseTypes t = .ok bases ∧
    ∀ fuel, 2 * m.types.length < fuel → m.basesFrom fuel [t.name] t = .ok bases
  derivedTypes : ∃ derived, m.derivedTypes t = .ok derived ∧
    ∀ fuel, m.types.length ≤ fuel →
      m.derivedFrom fuel [t.name] (m.directSubtypes t.name) = .ok derived
  segmentsAs : ∀ isRoot, ∃ segs, m.segmentsAs isRoot t = .ok segs
  segments : ∃ segs, m.segments t = .ok segs

/-- A route has its placeholders, a cast or none in front of each segment, and both templates. -/
structure Addressable (m : Model) (route : List Property) : Prop where
  keyParameters : ∃ keys, keyParameters m route = .ok keys
  casts : ∃ cs, casts m route = .ok cs ∧ cs.length = route.length
  template : ∃ path, template m route = .ok path
  bareTemplate : ∃ path, bareTemplate m route = .ok path

/-! ## Types -/

theorem answers_of_knows (hm : m.Closed) {t : SchemaType} (ht : m.Knows t) : Answers m t where
  base := fun _ hbase => hm.grounded.exists_base ht hbase
  targets := fun _ hp => hm.exists_target ht hp
  baseTypes := by
    obtain ⟨bases, hbases, _⟩ := hm.exists_baseTypes ht
    exact ⟨bases, hbases, fun _ hfuel => (Model.basesFrom_eq_baseTypes hm.named hfuel).trans hbases⟩
  derivedTypes := by
    obtain ⟨derived, hderived, _⟩ := hm.exists_derivedTypes t
    exact ⟨derived, hderived,
      fun _ hfuel => (Model.derivedFrom_eq_derivedTypes hfuel).trans hderived⟩
  segmentsAs := fun isRoot => hm.exists_segmentsAs isRoot ht
  segments := hm.exists_segmentsAs _ ht

/-! ## Routes -/

theorem exists_keyParametersFrom {route : List Property}
    (h : ∀ p ∈ route, ∃ target, m.targetType p = .ok target) (used : List String)
    (position : Nat) : ∃ keys, keyParametersFrom m used position route = .ok keys := by
  induction route generalizing used position with
  | nil => exact ⟨[], rfl⟩
  | cons p rest ih =>
    have hrest := ih fun q hq => h q (List.mem_cons_of_mem _ hq)
    rw [keyParametersFrom]
    split
    · obtain ⟨target, htarget⟩ := h p List.mem_cons_self
      obtain ⟨more, hmore⟩ := hrest (used ++ [lowerFirst target.shortName ++ "Id"]) (position + 1)
      exact ⟨_, by rw [htarget, ok_bind]; dsimp only; rw [hmore, ok_bind]; rfl⟩
    · exact hrest used (position + 1)

theorem exists_keyParameters {route : List Property}
    (h : ∀ p ∈ route, ∃ target, m.targetType p = .ok target) :
    ∃ keys, keyParameters m route = .ok keys :=
  exists_keyParametersFrom (fun p hp => h p (List.mem_of_mem_dropLast hp)) [] 0

theorem castsFrom_cons_eq_ok {previous? : Option Property} {p : Property} {rest : List Property}
    {cs : List (Option String)} (h : castsFrom m previous? (p :: rest) = .ok cs) :
    ∃ cast more, castBefore m previous? p = .ok cast ∧ castsFrom m (some p) rest = .ok more ∧
      cs = cast :: more := by
  obtain ⟨cast, hcast, h⟩ := bind_eq_ok.mp h
  obtain ⟨more, hmore, h⟩ := bind_eq_ok.mp h
  cases h
  exact ⟨cast, more, hcast, hmore, rfl⟩

theorem length_castsFrom {previous? : Option Property} {route : List Property}
    {cs : List (Option String)} (h : castsFrom m previous? route = .ok cs) :
    cs.length = route.length := by
  induction route generalizing previous? cs with
  | nil =>
    cases h
    rfl
  | cons p rest ih =>
    obtain ⟨cast, more, _, hmore, rfl⟩ := castsFrom_cons_eq_ok h
    rw [List.length_cons, List.length_cons, ih hmore]

/-- It can be told whether there is a cast between two segments. That is so at the entity container,
behind a target that owns the segment, and behind a target whose base types can be told. -/
def CastSettled (m : Model) (previous p : Property) : Prop :=
  p.declaringType = m.entityContainer ∨ ∃ target, m.targetType previous = .ok target ∧
    (p.declaringType = target.name ∨ ∃ bases, m.baseTypes target = .ok bases)

theorem exists_castBetween_iff {previous p : Property} :
    (∃ cast, castBetween m previous p = .ok cast) ↔ CastSettled m previous p := by
  unfold castBetween
  constructor
  · rintro ⟨cast, h⟩
    split at h
    · rename_i hroot
      exact Or.inl hroot
    · obtain ⟨target, htarget, h⟩ := bind_eq_ok.mp h
      refine Or.inr ⟨target, htarget, ?_⟩
      split at h
      · rename_i hself
        exact Or.inl hself
      · obtain ⟨bases, hbases, _⟩ := bind_eq_ok.mp h
        exact Or.inr ⟨bases, hbases⟩
  · intro h
    split
    · exact ⟨none, rfl⟩
    · rename_i hroot
      obtain ⟨target, htarget, howner⟩ := h.resolve_left hroot
      rw [htarget, ok_bind]
      split
      · exact ⟨none, rfl⟩
      · rename_i hself
        obtain ⟨bases, hbases⟩ := howner.resolve_left hself
        rw [hbases, ok_bind]
        split
        · exact ⟨none, rfl⟩
        · exact ⟨_, rfl⟩

theorem exists_castsFrom_iff {previous : Property} {route : List Property} :
    (∃ cs, castsFrom m (some previous) route = .ok cs) ↔
      (previous :: route).IsChain (CastSettled m) := by
  induction route generalizing previous with
  | nil => exact ⟨fun _ => List.isChain_singleton previous, fun _ => ⟨[], rfl⟩⟩
  | cons p rest ih =>
    rw [List.isChain_cons_cons, ← exists_castBetween_iff, ← ih]
    constructor
    · rintro ⟨cs, hcs⟩
      obtain ⟨cast, more, hcast, hmore, _⟩ := castsFrom_cons_eq_ok hcs
      exact ⟨⟨cast, hcast⟩, ⟨more, hmore⟩⟩
    · rintro ⟨⟨cast, hcast⟩, ⟨more, hmore⟩⟩
      exact ⟨cast :: more, by rw [castsFrom, castBefore, hcast, ok_bind, hmore]; rfl⟩

/-- The casts of a route can be told when each of them can. -/
theorem exists_casts_iff {route : List Property} :
    (∃ cs, casts m route = .ok cs) ↔ route.IsChain (CastSettled m) := by
  cases route with
  | nil => exact ⟨fun _ => List.isChain_nil, fun _ => ⟨[], rfl⟩⟩
  | cons p rest =>
    rw [← exists_castsFrom_iff]
    constructor
    · rintro ⟨cs, hcs⟩
      obtain ⟨_, more, _, hmore, _⟩ := castsFrom_cons_eq_ok hcs
      exact ⟨more, hmore⟩
    · rintro ⟨more, hmore⟩
      exact ⟨none :: more, by rw [casts, castsFrom, castBefore, ok_bind, hmore]; rfl⟩

theorem castSettled_of_leads (hm : m.Closed) {previous p : Property}
    (h : ∃ target, m.targetType previous = .ok target) : CastSettled m previous p := by
  obtain ⟨target, htarget⟩ := h
  obtain ⟨bases, hbases, _⟩ := hm.exists_baseTypes (Model.knows_targetType htarget)
  exact Or.inr ⟨target, htarget, Or.inr ⟨bases, hbases⟩⟩

theorem exists_casts (hm : m.Closed) {route : List Property}
    (h : ∀ p ∈ route, ∃ target, m.targetType p = .ok target) :
    ∃ cs, casts m route = .ok cs ∧ cs.length = route.length := by
  have hsettled : route.Pairwise (CastSettled m) :=
    List.pairwise_of_forall_mem_list fun p hp _ _ => castSettled_of_leads hm (h p hp)
  obtain ⟨cs, hcs⟩ := exists_casts_iff.mpr hsettled.isChain
  exact ⟨cs, hcs, length_castsFrom hcs⟩

/-- A route of properties that all lead to types of a closed model can be written down. -/
theorem addressable_of_leads (hm : m.Closed) {route : List Property}
    (h : ∀ p ∈ route, ∃ target, m.targetType p = .ok target) : Addressable m route := by
  obtain ⟨keys, hkeys⟩ := exists_keyParameters h
  obtain ⟨cs, hcasts, hlength⟩ := exists_casts hm h
  refine ⟨⟨keys, hkeys⟩, ⟨cs, hcasts, hlength⟩, ?_, ?_⟩
  · exact ⟨assemble m route keys cs, by rw [template, hkeys, ok_bind, hcasts]; rfl⟩
  · exact ⟨assemble m route [] cs, by rw [bareTemplate, hcasts]; rfl⟩

theorem leads_of_mem_route (hm : m.Closed) {rs : List Node} (hrs : roots m = .ok rs) {n : Node}
    (hn : n ∈ forest m cap rs.reverse) {p : Property} (hp : p ∈ n.route) :
    ∃ target, m.targetType p = .ok target := by
  obtain ⟨r, hr, hreach⟩ := (mem_forest_roots_iff hm hrs).mp hn
  have hleads := leads_of_mem_roots hm hrs hr
  rw [Node.route_eq_reverse_way, List.mem_reverse] at hp
  induction hreach with
  | refl =>
    obtain ⟨c, segs, _, _, rfl⟩ := roots_eq_ok hrs
    obtain ⟨q, _, rfl⟩ := List.mem_map.mp hr
    rw [List.mem_singleton.mp hp]
    exact hleads
  | @tail b d hreach hbelow ih =>
    have hb : b ∈ forest m cap rs.reverse := (mem_forest_roots_iff hm hrs).mpr ⟨r, hr, hreach⟩
    rw [way_of_below hbelow] at hp
    rcases List.mem_cons.mp hp with rfl | hp
    · exact leads_of_below hm (leads_of_mem_forest hm hrs hb) hbelow
    · exact ih hb hp

theorem addressable_of_mem_forest (hm : m.Closed) {rs : List Node} (hrs : roots m = .ok rs)
    {n : Node} (hn : n ∈ forest m cap rs.reverse) : Addressable m n.route :=
  addressable_of_leads hm fun _ hp => leads_of_mem_route hm hrs hn hp

/-! ## Rows -/

theorem exists_row (hm : m.Closed) {rs : List Node} (hrs : roots m = .ok rs) {n : Node}
    (hn : n ∈ forest m cap rs.reverse) : ∃ row, n.row m = .ok row := by
  obtain ⟨path, hpath⟩ := (addressable_of_mem_forest hm hrs hn).template
  exact ⟨_, by rw [Node.row, hpath, ok_bind]; rfl⟩

/-- A listing that does not fail has a row for each node. -/
theorem rows_eq_mapM {nodes : List Node} (h : listing m cap = .ok ⟨nodes, none⟩) :
    rows m cap = nodes.mapM (Node.row m) := by
  rw [rows, h, ok_bind]
  exact bind_pure _

/-! ## Models of documents -/

/-- **Nothing fails behind extraction.** The model of a document has its entity container, every
question about a type of it has an answer, a walk begins and never fails, the route of each node
that it hands out can be written down, and the rows of a listing exist. -/
theorem extract_total {version : String} {document : Document}
    (h : extract version document = .ok m) (cap : Nat) :
    (∃ c, m.rootContainer = .ok c) ∧
      (∀ t ∈ m.types.values, m.Knows t) ∧ (∀ t, m.Knows t → Answers m t) ∧
      (∃ w, Walk.start m cap = .ok w ∧ ∀ count, (w.take count).1.failure = none ∧
        ∀ n ∈ (w.take count).1.nodes, Addressable m n.route) ∧
      ∃ listed, rows m cap = .ok listed := by
  have hm := Schema.closed_of_extract h
  have hroot := Schema.exists_rootContainer_of_extract h
  refine ⟨hroot, ?_, fun t ht => answers_of_knows hm ht, ?_⟩
  · intro t ht
    obtain ⟨name, hentry⟩ := Table.mem_values.mp ht
    exact ⟨name, Model.getType_of_get?
      ((Table.get?_eq_some_iff (Schema.nodup_names_of_extract h)).mpr hentry)⟩
  · obtain ⟨w, hw⟩ := (exists_walk_iff hm cap).mpr hroot
    obtain ⟨rs, hrs, hlists, hlisting⟩ := lists_forest hm hw
    refine ⟨⟨w, hw, ?_⟩, ?_⟩
    · intro count
      rw [hlists count]
      exact ⟨rfl, fun n hn => addressable_of_mem_forest hm hrs (List.mem_of_mem_take hn)⟩
    · obtain ⟨listed, hlisted⟩ := exists_mapM_ok
        fun n (hn : n ∈ forest m cap rs.reverse) => exists_row hm hrs hn
      exact ⟨listed, by rw [rows_eq_mapM hlisting, hlisted]⟩

/-- A document whose types derive from each other in a circle or from the entity container, with a
type declared among the primitive ones, and with members of the container of every odd kind. -/
def crookedDocument : Document :=
  [(.text "$EntityContainer", .text "g.root"),
   (.text "Edm", .object
     [(.text "Odd", .object
       [(.text "$Kind", .text "EntityType"),
        (.text "back", .object
          [(.text "$Kind", .text "NavigationProperty"), (.text "$Type", .text "g.leaf")])])]),
   (.text "g", .object
     [(.text "leaf", .object
       [(.text "$Kind", .text "EntityType"), (.text "$BaseType", .text "g.loop"),
        (.text "odd", .object
          [(.text "$Kind", .text "NavigationProperty"), (.text "$Type", .text "Edm.Odd"),
           (.text "$ContainsTarget", .scalar (.bool true))])]),
      (.text "loop", .object
       [(.text "$Kind", .text "EntityType"), (.text "$BaseType", .text "g.leaf")]),
      (.text "heir", .object
       [(.text "$Kind", .text "EntityType"), (.text "$BaseType", .text "g.root")]),
      (.text "root", .object
       [(.text "$Kind", .text "EntityContainer"),
        (.text "leaves", .object
          [(.text "$Collection", .scalar (.bool true)), (.text "$Type", .text "g.leaf")]),
        (.text "texts", .object [(.text "$Type", .text "Edm.String")]),
        (.text "itself", .object [(.text "$Type", .text "g.root")])])])]

theorem crookedDocument_total :
    ∃ m, extract "4.0" crookedDocument = .ok m ∧ (∃ c, m.rootContainer = .ok c) ∧
      (∀ t ∈ m.types.values, m.Knows t) ∧ (∀ t, m.Knows t → Answers m t) ∧
      (∃ w, Walk.start m 4 = .ok w ∧ ∀ count, (w.take count).1.failure = none ∧
        ∀ n ∈ (w.take count).1.nodes, Addressable m n.route) ∧
      ∃ listed, rows m 4 = .ok listed := by
  obtain ⟨m, h⟩ : ∃ m, extract "4.0" crookedDocument = .ok m := ⟨_, rfl⟩
  exact ⟨m, h, extract_total h 4⟩

end CsdlRoutes.Route
