import CsdlRoutes.Proofs.Route.DistinctTemplates

/-!
# Casts are neither missing nor superfluous

The cast in front of a segment is worked out from names: that of the owner of the segment, those of
the target of the segment before and of its base types, and that of the entity container. What the
segments of a target are is worked out from the graph. The two agree. A segment stands without a cast
just where the target has it, of itself or from a base type, and else the cast is to a proper subtype
of the target that declares the segment. Neither circles of base types nor segments that lead to the
entity container make a difference.

* `RightCast` states what the cast between a target and a segment has to be.
* `rightCast_of_continues`: one step along a route.
* `castBetween_of_getElem?`: the casts of a route, place by place.
* `walk_casts_right`: all routes that a walk hands out.
-/

namespace CsdlRoutes.Route

open Schema (Document Model Property SchemaType extract)

/-- What the cast in front of a property has to be behind a target with its base types and its
subtypes. There is none just where the property is declared by the target or a base type. Otherwise
it is the owner of the property, which is a proper subtype of the target. -/
structure RightCast (target : SchemaType) (bases derived : List SchemaType) (p : Property)
    (cast : Option String) : Prop where
  omitted : cast = none ↔ ∃ u ∈ target :: bases, p ∈ u.properties
  owned : cast = none ↔ ∃ u ∈ target :: bases, u.name = p.declaringType
  printed : ∀ name, cast = some name → name = p.declaringType ∧ name ≠ target.name ∧
    ∃ u ∈ derived, u.name = name ∧ p ∈ u.properties

variable {m : Model} {previous p : Property} {target : SchemaType} {bases derived : List SchemaType}
  {cast : Option String}

/-! ## One step -/

/-- What the target or a base type owns needs no cast. -/
theorem no_cast_of_owner (htarget : m.targetType previous = .ok target)
    (hbases : m.baseTypes target = .ok bases)
    (howner : ∃ u ∈ target :: bases, u.name = p.declaringType) :
    castBetween m previous p = .ok none := by
  obtain ⟨u, hu, hname⟩ := howner
  unfold castBetween
  by_cases hroot : p.declaringType = m.entityContainer
  · rw [if_pos hroot]
  · rw [if_neg hroot, htarget, ok_bind]
    by_cases hself : p.declaringType = target.name
    · rw [if_pos hself]
      rfl
    · have hbase : u ∈ bases := by
        rcases List.mem_cons.mp hu with rfl | hu
        · exact absurd hname.symm hself
        · exact hu
      have hany : bases.any (·.name == p.declaringType) = true :=
        List.any_eq_true.mpr ⟨u, hbase, by simpa using hname⟩
      rw [if_neg hself, hbases, ok_bind, if_pos hany]
      rfl

/-- Behind a cast stands a property of a proper subtype of the target. -/
theorem owner_of_cast (hm : m.Regular) (h : Continues m previous p)
    (htarget : m.targetType previous = .ok target) (hbases : m.baseTypes target = .ok bases)
    (hderived : m.derivedTypes target = .ok derived) {name : String}
    (hcast : castBetween m previous p = .ok (some name)) :
    name ≠ target.name ∧ ∃ u ∈ derived, u.name = name ∧ p ∈ u.properties := by
  obtain ⟨target', segs, htarget', hsegs, hp⟩ := h
  rw [htarget] at htarget'
  cases htarget'
  obtain rfl := cast_eq_owner hcast
  have hunowned : ¬ ∃ u ∈ target :: bases, u.name = p.declaringType := by
    intro howner
    rw [no_cast_of_owner htarget hbases howner] at hcast
    cases hcast
  obtain ⟨u, hu, hpu, hchain | hdescends⟩ :=
    owner_of_segment hm (Model.knows_targetType htarget) hbases hsegs hp
  · have hname := (hm.orderly u hu).owned p hpu
    exact absurd ⟨u, hchain, hname.symm⟩ hunowned
  · have hname := (hm.orderly u hu).owned p hpu
    have hproper : u.name ≠ target.name := by
      intro hsame
      exact hunowned ⟨target, List.mem_cons_self, hsame.symm.trans hname.symm⟩
    have hmem := (hm.closed.grounded.mem_derivedTypes_iff hderived).mpr ⟨hproper, hdescends⟩
    obtain ⟨d, hd, hdname⟩ := List.mem_map.mp hmem
    have hknown : m.Knows d := ⟨_, hm.closed.grounded.getType_of_mem_derivedTypes hderived hd⟩
    obtain rfl := hm.closed.grounded.eq_of_name_eq hknown (hm.knows_of_value hu) hdname
    exact ⟨hname ▸ hproper, d, hd, hname.symm, hpu⟩

theorem rightCast_of_continues (hm : m.Regular) (h : Continues m previous p)
    (htarget : m.targetType previous = .ok target) (hbases : m.baseTypes target = .ok bases)
    (hderived : m.derivedTypes target = .ok derived)
    (hcast : castBetween m previous p = .ok cast) : RightCast target bases derived p cast := by
  have hdeclares : (∃ u ∈ target :: bases, p ∈ u.properties) →
      ∃ u ∈ target :: bases, u.name = p.declaringType := by
    rintro ⟨u, hu, hpu⟩
    have hknown :=
      hm.closed.grounded.knows_of_mem_chain (Model.knows_targetType htarget) hbases u hu
    have hvalue := Model.value_of_mem_properties hknown hpu
    exact ⟨u, hu, ((hm.orderly u hvalue).owned p hpu).symm⟩
  have hnone : (∃ u ∈ target :: bases, u.name = p.declaringType) → cast = none := by
    intro howner
    rw [no_cast_of_owner htarget hbases howner] at hcast
    exact (Except.ok.inj hcast).symm
  have hchain : cast = none → ∃ u ∈ target :: bases, p ∈ u.properties := by
    rintro rfl
    obtain ⟨u, _, hpu, hu⟩ := owner_in_chain hm h htarget hbases hcast
    exact ⟨u, hu, hpu⟩
  refine ⟨⟨hchain, hnone ∘ hdeclares⟩, ⟨hdeclares ∘ hchain, hnone⟩, ?_⟩
  rintro name rfl
  exact ⟨cast_eq_owner hcast, owner_of_cast hm h htarget hbases hderived hcast⟩

/-! ## Routes -/

/-- The casts of a route stand where its segments stand. The induction is on the route. -/
theorem castBetween_of_getElem? {previous? : Option Property} {route : List Property}
    {cs : List (Option String)} (hcs : castsFrom m previous? route = .ok cs) {i : Nat}
    (hp : route[i]? = some previous) (hq : route[i + 1]? = some p) :
    ∃ cast, cs[i + 1]? = some cast ∧ castBetween m previous p = .ok cast := by
  induction route generalizing previous? cs i with
  | nil => cases hp
  | cons first rest ih =>
    obtain ⟨_, more, _, hmore, rfl⟩ := castsFrom_cons_eq_ok hcs
    rw [List.getElem?_cons_succ] at hq
    cases i with
    | zero =>
      cases hp
      obtain ⟨rest, rfl⟩ := List.head?_eq_some_iff.mp (List.head?_eq_getElem? ▸ hq)
      obtain ⟨cast, _, hcast, _, rfl⟩ := castsFrom_cons_eq_ok hmore
      exact ⟨cast, rfl, hcast⟩
    | succ i =>
      rw [List.getElem?_cons_succ] at hp ⊢
      exact ih hmore hp hq

theorem continues_of_getElem? {route : List Property} (h : route.IsChain (Continues m)) {i : Nat}
    (hp : route[i]? = some previous) (hq : route[i + 1]? = some p) : Continues m previous p := by
  obtain ⟨_, rfl⟩ := List.getElem?_eq_some_iff.mp hp
  obtain ⟨hi, rfl⟩ := List.getElem?_eq_some_iff.mp hq
  exact h.getElem i hi

/-- **Casts are exactly right.** Every route that a walk through the model of a document hands out is
written with its casts, one place for each segment. In front of each segment but the first stands
the right cast behind the target of the segment before it. -/
theorem walk_casts_right {version : String} {d : Document} (hd : Document.Proper d)
    (h : extract version d = .ok m) (cap : Nat) :
    ∃ w nodes, Walk.start m cap = .ok w ∧ w.Lists nodes ∧ ∀ n ∈ nodes,
      ∃ keys cs, casts m n.route = .ok cs ∧ cs.length = n.route.length ∧
        template m n.route = .ok (assemble m n.route keys cs) ∧
        ∀ i previous p, n.route[i]? = some previous → n.route[i + 1]? = some p →
          ∃ target bases derived cast, m.targetType previous = .ok target ∧
            m.baseTypes target = .ok bases ∧ m.derivedTypes target = .ok derived ∧
            cs[i + 1]? = some cast ∧ RightCast target bases derived p cast := by
  have hm := Schema.regular_of_extract hd h
  obtain ⟨w, hw⟩ := (exists_walk_iff hm.closed cap).mpr hm.container
  obtain ⟨rs, hrs, hlists, _⟩ := lists_forest hm.closed hw
  refine ⟨w, _, hw, hlists, fun n hn => ?_⟩
  have haddressable := addressable_of_mem_forest hm.closed hrs hn
  have hadmissible := (mem_forest_iff_admissible hm.closed hrs n).mp hn
  obtain ⟨cs, hcs, hlength⟩ := haddressable.casts
  obtain ⟨keys, hkeys⟩ := haddressable.keyParameters
  refine ⟨keys, cs, hcs, hlength, by rw [template, hkeys, ok_bind, hcs]; rfl, ?_⟩
  intro i previous p hprevious hp
  obtain ⟨target, segs, htarget, hsegs, hmem⟩ :=
    continues_of_getElem? hadmissible.continues hprevious hp
  obtain ⟨cast, hplace, hcast⟩ := castBetween_of_getElem? hcs hprevious hp
  obtain ⟨bases, hbases, _⟩ := hm.closed.exists_baseTypes (Model.knows_targetType htarget)
  obtain ⟨derived, hderived, _⟩ := hm.closed.exists_derivedTypes target
  exact ⟨target, bases, derived, cast, htarget, hbases, hderived, hplace,
    rightCast_of_continues hm ⟨target, segs, htarget, hsegs, hmem⟩ htarget hbases hderived hcast⟩

theorem crookedDocument_walk_casts_right :
    Document.Proper crookedDocument ∧ ∃ m, extract "4.0" crookedDocument = .ok m ∧
      ∃ w nodes, Walk.start m 4 = .ok w ∧ w.Lists nodes ∧ ∀ n ∈ nodes,
        ∃ keys cs, casts m n.route = .ok cs ∧ cs.length = n.route.length ∧
          template m n.route = .ok (assemble m n.route keys cs) ∧
          ∀ i previous p, n.route[i]? = some previous → n.route[i + 1]? = some p →
            ∃ target bases derived cast, m.targetType previous = .ok target ∧
              m.baseTypes target = .ok bases ∧ m.derivedTypes target = .ok derived ∧
              cs[i + 1]? = some cast ∧ RightCast target bases derived p cast := by
  have hproper : Document.Proper crookedDocument := by decide
  obtain ⟨m, h⟩ : ∃ m, extract "4.0" crookedDocument = .ok m := ⟨_, rfl⟩
  exact ⟨hproper, m, h, walk_casts_right hproper h 4⟩

end CsdlRoutes.Route
