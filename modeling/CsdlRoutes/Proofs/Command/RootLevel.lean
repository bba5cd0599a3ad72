import CsdlRoutes.Command.Run
import CsdlRoutes.Proofs.Route.DistinctTemplates
import CsdlRoutes.Proofs.Route.Preorder

/-!
# The nodes at the root

Each member of the entity container is a root of the tree, and none of them is a mere reference. Yet
they need not be all roots. Extraction accepts a type that derives from the entity container, and the
properties of such an heir are segments of the container like those of any subtype. At the root every
property qualifies, references too, and a row at the root never counts as one of a reference.

* `segments_of_container`: the members of the container, and then what its heirs add.
* `name_of_ends_in_reference`: which templates end in the segment for references.
* `roots_of_document`: the nodes at the root, and the rows that are left without references.
* `heir_reference_at_root`: a document with an heir.
-/

namespace CsdlRoutes.Schema

variable {m : Model} {version : String} {d : Document}

/-! ## Names of properties -/

theorem not_skipped_of_mem_objectsAmong {skips : String → Bool} {ms : Members}
    {object : String × Members} (h : object ∈ objectsAmong skips ms) : skips object.1 = false := by
  obtain ⟨⟨key, v⟩, _, hobject⟩ := List.mem_filterMap.mp h
  cases key with
  | text name =>
    obtain ⟨hkept, hname, _⟩ := objectOf_eq_some_iff.mp hobject
    rw [hname]
    exact hkept
  | _ => cases hobject

/-- The name of a declared property does not begin with a dollar sign. -/
theorem unreserved_of_declared (h : extract version d = .ok m) {p : Property} (hp : m.Declared p) :
    isReserved p.name = false := by
  obtain ⟨t, ht, hpt⟩ := hp
  obtain ⟨table, container, declaring, declared, q, _, _, _, hdeclared, _, _, _, rfl⟩ :=
    extract_eq_ok_iff.mp h
  obtain ⟨name, hentry⟩ := Table.mem_values.mp ht
  have hrels := (declarations_eq_ok_iff_forall₂.mp hdeclared).2
  obtain ⟨r, _, hgives⟩ :=
    (Shuffled.of_forall₂ hrels.flip).exists_mem (name_of_mem_tableOf hentry).2
  obtain ⟨e, he, hreads⟩ := (Shuffled.of_forall₂ (reads_of_gives hgives).properties).exists_mem hpt
  have hobject : e ∈ objectsAmong isAside r.members := by
    unfold Recognised.elements at he
    split at he
    · exact (List.mem_filter.mp he).1
    · exact (List.mem_filter.mp he).1
    · exact (List.mem_filter.mp he).1
    · cases he
    · cases he
  have haside := not_skipped_of_mem_objectsAmong hobject
  rw [← hreads.name] at haside
  exact (Bool.or_eq_false_iff.mp haside).1

/-! ## Segments of the entity container -/

namespace Model

variable {isRoot : Bool}

theorem sublist_of_distinctSegments {taken : List String} {ps segs : List Property}
    (h : m.distinctSegments isRoot taken ps = .ok segs) : segs.Sublist ps := by
  induction ps generalizing taken segs with
  | nil =>
    cases h
    exact .slnil
  | cons p rest ih =>
    rcases distinctSegments_cons_eq_ok h with ⟨_, h⟩ | ⟨_, _, h⟩ | ⟨_, _, more, rfl, hmore⟩
    · exact (ih h).cons p
    · exact (ih h).cons p
    · exact (ih hmore).cons_cons p

/-- At the root properties with different canonical names are segments, all of them. -/
theorem distinctSegments_append {taken : List String} {ps qs segs : List Property}
    (h : m.distinctSegments true taken (ps ++ qs) = .ok segs)
    (hdistinct : (ps.map Property.canonicalName).Nodup)
    (hnew : ∀ p ∈ ps, p.canonicalName ∉ taken) :
    ∃ more, segs = ps ++ more ∧ more.Sublist qs := by
  induction ps generalizing taken segs with
  | nil => exact ⟨segs, rfl, sublist_of_distinctSegments h⟩
  | cons p rest ih =>
    rw [List.map_cons, List.nodup_cons] at hdistinct
    obtain ⟨hp, hrest⟩ := List.forall_mem_cons.mp hnew
    rcases distinctSegments_cons_eq_ok h with
      ⟨htaken, _⟩ | ⟨_, hno, _⟩ | ⟨_, _, others, rfl, hothers⟩
    · exact absurd htaken hp
    · cases hno
    · have hfresh : ∀ q ∈ rest, q.canonicalName ∉ p.canonicalName :: taken := by
        intro q hq hmem
        rcases List.mem_cons.mp hmem with hsame | hmem
        · exact hdistinct.1 (hsame ▸ List.mem_map_of_mem hq)
        · exact hrest q hq hmem
      obtain ⟨more, rfl, hmore⟩ := ih hothers hdistinct.2 hfresh
      exact ⟨more, rfl, hmore⟩

theorem Regular.distinct_canonicalNames (hm : m.Regular) {t : SchemaType}
    (ht : t ∈ m.types.values) : (t.properties.map Property.canonicalName).Nodup := by
  have hdistinct := (hm.orderly t ht).distinct
  rw [List.Nodup, List.pairwise_map] at hdistinct ⊢
  refine hdistinct.imp_of_mem fun {p q} hp hq hne hsame => hne ?_
  have howner := ((hm.orderly t ht).owned p hp).trans ((hm.orderly t ht).owned q hq).symm
  rw [Property.canonicalName, Property.canonicalName, howner] at hsame
  exact String.append_right_inj _ |>.mp hsame

/-- What is at the root: the members of the entity container in their order, and then properties of
its subtypes. -/
theorem segments_of_container (hm : m.Regular) {c : SchemaType} (hc : m.rootContainer = .ok c)
    {derived : List SchemaType} (hderived : m.derivedTypes c = .ok derived) {segs : List Property}
    (hsegs : m.segmentsAs true c = .ok segs) :
    ∃ more, segs = c.properties ++ more ∧ more.Sublist (derived.flatMap (·.properties)) := by
  obtain ⟨hfound, hkind⟩ := rootContainer_eq_ok hc
  have hvalue := Table.mem_values.mpr ⟨_, Table.mem_of_get? hfound⟩
  obtain ⟨types, htypes, hdistinct⟩ := segmentsAs_eq_ok hsegs
  obtain ⟨bases, derived', hbases, hderived', rfl⟩ := contributors_eq_ok htypes
  have hbaseless : m.baseTypes c = .ok [] := basesFrom_of_no_base (hm.baseless c hvalue hkind)
  rw [hbases] at hbaseless
  cases hbaseless
  rw [hderived] at hderived'
  cases hderived'
  rw [List.nil_append, List.flatMap_cons] at hdistinct
  exact distinctSegments_append hdistinct (hm.distinct_canonicalNames hvalue)
    fun _ _ => List.not_mem_nil

theorem not_isReference_of_member (hm : m.Regular) {c : SchemaType}
    (hc : m.rootContainer = .ok c) {p : Property} (hp : p ∈ c.properties) :
    m.isReference p = false := by
  obtain ⟨hfound, _⟩ := rootContainer_eq_ok hc
  have hvalue := Table.mem_values.mpr ⟨_, Table.mem_of_get? hfound⟩
  have howner := (hm.orderly c hvalue).owned p hp
  rw [hm.closed.name_of_get? hfound] at howner
  simp [isReference, howner]

end Model

end CsdlRoutes.Schema

namespace CsdlRoutes.Route

open Schema (Document Model Property SchemaType extract)

variable {m : Model}

/-! ## The end of a template -/

/-- The last part of a template without a segment for references is a name or a placeholder. -/
theorem exists_last_part (keys : List KeyParameter) (position : Nat)
    {segments : List (Property × Option String)} {s : Property × Option String}
    (h : segments.getLast? = some s) :
    ∃ before part, templateParts keys position segments = before ++ [part] ∧
      (part = s.1.name ∨ ∃ key : String, part = "\x7b" ++ key ++ "\x7d") := by
  induction segments generalizing position with
  | nil => cases h
  | cons first rest ih =>
    obtain ⟨p, cast⟩ := first
    rw [templateParts]
    cases rest with
    | nil =>
      cases h
      cases keys.find? (·.position == position) with
      | none => exact ⟨cast.toList, p.name, rfl, Or.inl rfl⟩
      | some k => exact ⟨cast.toList ++ [p.name], _, by simp [templateParts], Or.inr ⟨k.name, rfl⟩⟩
    | cons second rest =>
      rw [List.getLast?_cons_cons] at h
      obtain ⟨before, part, hparts, hpart⟩ := ih (position + 1) h
      exact ⟨_, part, by rw [hparts, List.append_cons, ← List.append_assoc, ← List.append_assoc],
        hpart⟩

theorem exists_slash_before (before : List (List Char)) (part : List Char) :
    ∃ front, '/' :: ['/'].intercalate (before ++ [part]) = front ++ '/' :: part := by
  induction before with
  | nil => exact ⟨[], by rw [List.nil_append, List.intercalate_singleton]; rfl⟩
  | cons first rest ih =>
    obtain ⟨front, hfront⟩ := ih
    refine ⟨'/' :: first ++ front, ?_⟩
    rw [List.cons_append, List.intercalate_cons_of_ne_nil (by simp), List.append_assoc,
      List.singleton_append, hfront, List.cons_append, List.cons_append, List.append_assoc]

/-- Only what stands behind the last slash of a text counts for how the text ends. -/
theorem eq_of_suffix_behind_slash {a b front : List Char} (ha : '/' ∉ a) (hb : '/' ∉ b)
    (h : '/' :: a <:+ front ++ '/' :: b) : a = b := by
  rcases List.suffix_or_suffix_of_suffix h (List.suffix_append front ('/' :: b)) with h | h
  · rcases List.suffix_cons_iff.mp h with h | h
    · exact (List.cons.inj h).2
    · exact absurd (h.mem List.mem_cons_self) hb
  · rcases List.suffix_cons_iff.mp h with h | h
    · exact (List.cons.inj h).2.symm
    · exact absurd (h.mem List.mem_cons_self) ha

theorem exists_last_segment {route : List Property} {cs : List (Option String)}
    (hcs : casts m route = .ok cs) {p : Property} (hp : route.getLast? = some p) :
    ∃ cast, (route.zip cs).getLast? = some (p, cast) := by
  have hlength : cs.length = route.length := length_castsFrom hcs
  rw [List.getLast?_eq_getElem?] at hp
  have hplace : route.length - 1 < cs.length := by
    have := (List.getElem?_eq_some_iff.mp hp).1
    omega
  refine ⟨cs[route.length - 1], ?_⟩
  rw [List.getLast?_eq_getElem?, List.length_zip, hlength, Nat.min_self,
    List.getElem?_zip_eq_some]
  exact ⟨hp, List.getElem?_eq_getElem hplace⟩

/-- The segment for references ends the template of a route to a resource only if the last property
of the route has its name. -/
theorem name_of_ends_in_reference {route : List Property} {path : String}
    (h : template m route = .ok path) {p : Property} (hp : route.getLast? = some p)
    (hresource : m.isReference p = false) (hslash : '/' ∉ p.name.toList)
    (hends : "/$ref".toList <:+ path.toList) : p.name = referenceSegment := by
  obtain ⟨keys, cs, _, hcs, rfl⟩ := template_eq_ok h
  obtain ⟨cast, hlast⟩ := exists_last_segment hcs hp
  obtain ⟨before, part, hparts, hpart⟩ := exists_last_part keys 0 hlast
  have hroute : isReference m route = false := by rw [isReference, hp, Option.any_some, hresource]
  obtain ⟨front, hfront⟩ := exists_slash_before (before.map String.toList) part.toList
  have htext : (assemble m route keys cs).toList = front ++ '/' :: part.toList := by
    rw [toList_assemble, allParts, hparts, hroute, ← hfront]
    simp
  rw [htext] at hends
  rcases hpart with rfl | ⟨key, rfl⟩
  · have hname : ['$', 'r', 'e', 'f'] = p.name.toList :=
      eq_of_suffix_behind_slash (by decide) hslash hends
    exact String.ext hname.symm
  · -- a placeholder ends in a brace
    obtain ⟨start, hstart⟩ := hends
    have hbrace := congrArg List.getLast? hstart
    simp [List.getLast?_append, List.getLast?_cons] at hbrace

/-! ## Rows -/

theorem Node.row_eq_ok {n : Node} {row : Row} (h : n.row m = .ok row) :
    template m n.route = .ok row.path ∧ row.edge = n.edge m := by
  obtain ⟨path, hpath, h⟩ := bind_eq_ok.mp h
  cases h
  exact ⟨hpath, rfl⟩

/-- Only at the root the edge to a reference counts as something else. -/
theorem Node.edge_ne_reference {n : Node} (h : n.edge m ≠ .reference) :
    n.parent? = none ∨ m.isReference n.property = false := by
  obtain ⟨p, above⟩ := n
  cases above with
  | nil => exact Or.inl rfl
  | cons q rest =>
    right
    by_contra hreference
    exact h (by simp [Node.edge, hreference])

end CsdlRoutes.Route

namespace CsdlRoutes.Command

open Route (Node Row Walk)
open Schema (Document Model Property SchemaType extract)

variable {m : Model}

theorem mem_selectRows_false {sorted : Bool} {listed : List Row} {row : Row}
    (h : row ∈ selectRows sorted false listed) : row ∈ listed ∧ row.edge ≠ .reference := by
  have hmem : row ∈ Route.withoutReferences listed := by
    cases sorted with
    | false => exact h
    | true => exact List.mem_mergeSort.mp h
  obtain ⟨hlisted, hedge⟩ := List.mem_filter.mp hmem
  exact ⟨hlisted, by simpa using hedge⟩

/-- What is at the root of the tree of a model with an entity container: its members, which are no
references, and further properties behind them, each once, the last one first. Of a listing without
references the rows that still end in the segment for references are those of further properties,
if no name of a property has a slash. -/
structure RootLevel (m : Model) (c : SchemaType) (further : List Property) (nodes : List Node)
    (listed : List Row) : Prop where
  roots : nodes.filter (·.parent? == none) = ((c.properties ++ further).map Node.root).reverse
  distinct : ((c.properties ++ further).map Property.canonicalName).Nodup
  resources : ∀ p ∈ c.properties, m.isReference p = false ∧ Route.isReference m [p] = false
  unlisted : (∀ p, m.Declared p → '/' ∉ p.name.toList) → ∀ sorted,
    ∀ row ∈ selectRows sorted false listed, "/$ref".toList <:+ row.path.toList →
      ∃ p ∈ further, m.isReference p = true ∧ (Node.root p).row m = .ok row

/-- Away from the root a row without a reference does not end in the segment for references. -/
theorem reference_of_ends_in_reference {version : String} {d : Document} (hd : Document.Proper d)
    (h : extract version d = .ok m) {cap : Nat} {n : Node} (hn : Route.Admissible m cap n.route)
    {row : Row} (hrow : n.row m = .ok row) (hslash : '/' ∉ n.property.name.toList)
    (hends : "/$ref".toList <:+ row.path.toList) : m.isReference n.property = true := by
  by_contra hresource
  have hlast := n.getLast?_route
  have hname := Route.name_of_ends_in_reference (Route.Node.row_eq_ok hrow).1 hlast
    (by simpa using hresource) hslash hends
  have hdeclared := Route.declared_of_mem_route (Schema.regular_of_extract hd h) hn n.property
    (List.mem_of_getLast? hlast)
  have hkept := Schema.unreserved_of_declared h hdeclared
  rw [hname] at hkept
  exact absurd hkept (by decide)

/-- **The nodes at the root.** A walk through the model of a document hands out a root for each
member of the entity container, and for properties of the types that derive from it. Where no type
derives from it, there are no roots but those of the members, and no path that is listed without
references ends in the segment for them. -/
theorem roots_of_document {version : String} {d : Document} (hd : Document.Proper d)
    (h : extract version d = .ok m) (cap : Nat) :
    ∃ c derived further w nodes listed, m.rootContainer = .ok c ∧ m.derivedTypes c = .ok derived ∧
      further.Sublist (derived.flatMap (·.properties)) ∧
      (∀ p ∈ derived.flatMap (·.properties),
        ∃ q ∈ c.properties ++ further, q.canonicalName = p.canonicalName) ∧
      Walk.start m cap = .ok w ∧ w.Lists nodes ∧ Route.rows m cap = .ok listed ∧
      RootLevel m c further nodes listed := by
  have hm := Schema.regular_of_extract hd h
  obtain ⟨w, hw⟩ := (Route.exists_walk_iff hm.closed cap).mpr hm.container
  obtain ⟨rs, hrs, hlists, hlisting⟩ := Route.lists_forest hm.closed hw
  obtain ⟨c, segs, hc, hsegs, rfl⟩ := Route.roots_eq_ok hrs
  obtain ⟨derived, hderived, _⟩ := hm.closed.exists_derivedTypes c
  obtain ⟨further, rfl, hfurther⟩ := Model.segments_of_container hm hc hderived hsegs
  obtain ⟨listed, hlisted⟩ := exists_mapM_ok
    fun n (hn : n ∈ Route.forest m cap ((c.properties ++ further).map Node.root).reverse) =>
      Route.exists_row hm.closed hrs hn
  have hroots : (Route.forest m cap ((c.properties ++ further).map Node.root).reverse).filter
      (·.parent? == none) = ((c.properties ++ further).map Node.root).reverse :=
    Route.filter_roots hm.closed hrs
  have hmembers : ∀ p ∈ c.properties, m.isReference p = false := fun p hp =>
    Model.not_isReference_of_member hm hc hp
  refine ⟨c, derived, further, w, _, listed, hc, hderived, hfurther, ?_, hw, hlists,
    (Route.rows_eq_mapM hlisting).trans hlisted, ⟨?_, Model.nodup_segmentsAs hsegs, ?_, ?_⟩⟩
  · intro p hp
    obtain ⟨u, hu, hpu⟩ := List.mem_flatMap.mp hp
    obtain ⟨types, htypes, _⟩ := Model.segmentsAs_eq_ok hsegs
    obtain ⟨bases, derived', _, hderived', rfl⟩ := Model.contributors_eq_ok htypes
    rw [hderived] at hderived'
    cases hderived'
    have hcontributes : u ∈ c :: (bases ++ derived) :=
      List.mem_cons_of_mem _ (List.mem_append_right bases hu)
    exact Model.exists_mem_segmentsAs hsegs htypes hcontributes hpu rfl
  · exact hroots
  · exact fun p hp => ⟨hmembers p hp, by simpa [Route.isReference] using hmembers p hp⟩
  · intro hslash sorted row hrow hends
    obtain ⟨hmem, hedge⟩ := mem_selectRows_false hrow
    obtain ⟨n, hn, hnrow⟩ := (Shuffled.of_forall₂ (mapM_eq_ok.mp hlisted).flip).exists_mem hmem
    have hadmissible := (Route.mem_forest_iff_admissible hm.closed hrs n).mp hn
    have hdeclared := Route.declared_of_mem_route hm hadmissible n.property
      (List.mem_of_getLast? n.getLast?_route)
    have hreference := reference_of_ends_in_reference hd h hadmissible hnrow
      (hslash n.property hdeclared) hends
    have hroot : n.parent? = none := by
      rw [(Route.Node.row_eq_ok hnrow).2] at hedge
      rcases Route.Node.edge_ne_reference hedge with hroot | hresource
      · exact hroot
      · rw [hresource] at hreference
        cases hreference
    have hfirst : n ∈ ((c.properties ++ further).map Node.root).reverse := by
      rw [← hroots]
      exact List.mem_filter.mpr ⟨hn, by simpa using hroot⟩
    obtain ⟨p, hp, rfl⟩ := List.mem_map.mp (List.mem_reverse.mp hfirst)
    rcases List.mem_append.mp hp with hp | hp
    · have hresource : m.isReference (Node.root p).property = false := hmembers p hp
      rw [hresource] at hreference
      cases hreference
    · exact ⟨p, hp, hreference, hnrow⟩

/-- A document in which a type derives from the entity container and has a relation of its own. -/
def succession : Document :=
  [(.text "$EntityContainer", .text "s.root"),
   (.text "s", .object
     [(.text "heir", .object
       [(.text "$Kind", .text "EntityType"), (.text "$BaseType", .text "s.root"),
        (.text "guardian", .object
          [(.text "$Kind", .text "NavigationProperty"), (.text "$Type", .text "s.heir")])]),
      (.text "root", .object
       [(.text "$Kind", .text "EntityContainer"),
        (.text "heirs", .object
          [(.text "$Collection", .scalar (.bool true)), (.text "$Type", .text "s.heir")])])])]

theorem roots_of_succession :
    Document.Proper succession ∧ ∃ m, extract "4.0" succession = .ok m ∧
      ∃ c derived further w nodes listed, m.rootContainer = .ok c ∧
        m.derivedTypes c = .ok derived ∧ further.Sublist (derived.flatMap (·.properties)) ∧
        (∀ p ∈ derived.flatMap (·.properties),
          ∃ q ∈ c.properties ++ further, q.canonicalName = p.canonicalName) ∧
        Walk.start m 2 = .ok w ∧ w.Lists nodes ∧ Route.rows m 2 = .ok listed ∧
        RootLevel m c further nodes listed := by
  have hproper : Document.Proper succession := by decide
  obtain ⟨m, hm⟩ : ∃ m, extract "4.0" succession = .ok m := ⟨_, rfl⟩
  exact ⟨hproper, m, hm, roots_of_document hproper hm 2⟩

/-- A property of an heir of the entity container is at the root. It is a reference, and its row is
listed without references. -/
theorem heir_reference_at_root :
    ∃ m c w p, extract "4.0" succession = .ok m ∧ m.rootContainer = .ok c ∧ p ∉ c.properties ∧
      Walk.start m 2 = .ok w ∧ Node.root p ∈ (w.take 5).1.nodes ∧ m.isReference p = true ∧
      Route.isReference m [p] = true ∧
      ∃ listed row, Route.rows m 2 = .ok listed ∧ row ∈ selectRows false false listed ∧
        row.path = "/guardian/$ref" := by
  refine ⟨_, _, _, ⟨"guardian", "s.heir", "s.heir", false, true, false⟩, rfl, rfl, ?_, rfl, ?_,
    rfl, rfl, ?_⟩
  · decide
  · decide
  · exact ⟨_, ⟨"/guardian/$ref", 1, "s.heir", .singleton⟩, rfl, by decide, rfl⟩

end CsdlRoutes.Command
