import CsdlRoutes.Proofs.Schema.InheritanceWalks
import CsdlRoutes.Proofs.Schema.RearrangedModel
import CsdlRoutes.Proofs.Schema.SegmentList

/-!
# Graphs in another order

The order of types and properties is not visible in the graph. Look-ups give the same types, chains
of base types are the same, and the search for subtypes finds the same types in another order. Of
the properties with one canonical name only the first one becomes a segment, and that is where the
order could show: it does not as long as a canonical name belongs to one property alone.

* `Model.Tidy`: a closed model in which canonical names identify properties.
* `tidy_of_extract`: where no name of a property has a slash, the model of a document is tidy.
* `Reordered.exists_contributors`, `Reordered.mem_segmentsAs`: what a type has in the other model.
-/

namespace CsdlRoutes.Schema

/-! ## Canonical names -/

theorem eq_of_append_mark {mark : Char} {as bs as' bs' : List Char} (ha : mark ∉ as)
    (ha' : mark ∉ as') (h : as ++ mark :: bs = as' ++ mark :: bs') : as = as' ∧ bs = bs' := by
  induction as generalizing as' with
  | nil =>
    cases as' with
    | nil => exact ⟨rfl, (List.cons.inj h).2⟩
    | cons c rest => exact absurd ((List.cons.inj h).1 ▸ List.mem_cons_self) ha'
  | cons c rest ih =>
    cases as' with
    | nil => exact absurd ((List.cons.inj h).1 ▸ List.mem_cons_self) ha
    | cons c' rest' =>
      obtain ⟨hc, hrest⟩ := List.cons.inj h
      obtain ⟨he, hb⟩ := ih (fun hmem => ha (List.mem_cons_of_mem _ hmem))
        (fun hmem => ha' (List.mem_cons_of_mem _ hmem)) hrest
      exact ⟨by rw [hc, he], hb⟩

/-- A name without a slash can be read off a canonical name. -/
theorem Property.eq_of_canonicalName_eq {p q : Property} (hp : '/' ∉ p.name.toList)
    (hq : '/' ∉ q.name.toList) (h : p.canonicalName = q.canonicalName) :
    p.declaringType = q.declaringType ∧ p.name = q.name := by
  -- The names stand last, so the last slash is the one between owner and name.
  have hreverse : ∀ r : Property, r.canonicalName.toList.reverse =
      r.name.toList.reverse ++ '/' :: r.declaringType.toList.reverse := by
    intro r
    simp [Property.canonicalName]
  have hsame := congrArg (fun s => s.toList.reverse) h
  rw [hreverse, hreverse] at hsame
  obtain ⟨hname, howner⟩ := eq_of_append_mark (by simpa using hp) (by simpa using hq) hsame
  exact ⟨String.ext (List.reverse_injective howner), String.ext (List.reverse_injective hname)⟩

namespace Model

variable {m m' : Model}

/-- A closed model in which no two types stand under one name and no two properties have the same
canonical name. -/
structure Tidy (m : Model) : Prop where
  closed : m.Closed
  names : m.types.names.Nodup
  identified : ∀ p q, m.Declared p → m.Declared q → p.canonicalName = q.canonicalName → p = q

theorem tidy_of_extract {version : String} {d : Document} (hd : Document.Proper d)
    (hm : extract version d = .ok m) (hslash : ∀ p, m.Declared p → '/' ∉ p.name.toList) :
    m.Tidy := by
  have hclosed := closed_of_extract hm
  have hnames := nodup_names_of_extract hm
  have horderly := orderly_of_extract hd hm
  refine ⟨hclosed, hnames, ?_⟩
  rintro p q ⟨t, ht, hpt⟩ ⟨u, hu, hqu⟩ h
  obtain ⟨howner, hname⟩ := Property.eq_of_canonicalName_eq (hslash p ⟨t, ht, hpt⟩)
    (hslash q ⟨u, hu, hqu⟩) h
  rw [(horderly t ht).owned p hpt, (horderly u hu).owned q hqu] at howner
  obtain ⟨key, hkey⟩ := Table.mem_values.mp ht
  obtain ⟨key', hkey'⟩ := Table.mem_values.mp hu
  have hkeys : key = key' :=
    (hclosed.named _ hkey).symm.trans (howner.trans (hclosed.named _ hkey'))
  obtain rfl : t = u := congrArg Prod.snd (List.inj_on_of_nodup_map hnames hkey hkey' hkeys)
  exact List.inj_on_of_nodup_map (horderly t ht).distinct hpt hqu hname

/-! ## Looking types up -/

namespace Reordered

theorem symm (h : m.Reordered m') : m'.Reordered m :=
  ⟨h.version.symm, h.space.symm, h.entityContainer.symm,
    fun name => rel_symm (fun _ _ h => h.symm) (h.types name)⟩

theorem get?_eq_some (h : m.Reordered m') {name : String} {t : SchemaType}
    (ht : m.types.get? name = some t) : ∃ u, m'.types.get? name = some u ∧ t.Reordered u :=
  exists_of_rel_some (ht ▸ h.types name)

theorem declared (h : m.Reordered m') (hnames : m.types.names.Nodup) {p : Property}
    (hp : m.Declared p) : m'.Declared p := by
  obtain ⟨t, ht, hpt⟩ := hp
  obtain ⟨name, hentry⟩ := Table.mem_values.mp ht
  obtain ⟨u, hu, htu⟩ := h.get?_eq_some ((Table.get?_eq_some_iff hnames).mpr hentry)
  exact ⟨u, Table.mem_values.mpr ⟨name, Table.mem_of_get? hu⟩, htu.properties.mem_iff.mp hpt⟩

theorem getType (h : m.Reordered m') {name : String} {t : SchemaType}
    (ht : m.getType name = .ok t) : ∃ u, m'.getType name = .ok u ∧ t.Reordered u := by
  rcases getType_eq_ok ht with ht | ⟨hnone, hprimitive, rfl⟩
  · obtain ⟨u, hu, htu⟩ := h.get?_eq_some ht
    exact ⟨u, getType_of_get? hu, htu⟩
  · have hnone' : m'.types.get? name = none := by
      have hsome := isSome_eq_of_rel (h.types name)
      rw [hnone] at hsome
      exact Option.isNone_iff_eq_none.mp (Option.isSome_eq_false_iff.mp hsome.symm)
    exact ⟨_, by simp only [Model.getType, hnone', hprimitive, if_true], .refl _⟩

theorem targetType (h : m.Reordered m') {p : Property} {t : SchemaType}
    (ht : m.targetType p = .ok t) : ∃ u, m'.targetType p = .ok u ∧ t.Reordered u :=
  h.getType ht

theorem rootContainer (h : m.Reordered m') {c : SchemaType} (hc : m.rootContainer = .ok c) :
    ∃ c', m'.rootContainer = .ok c' ∧ c.Reordered c' := by
  obtain ⟨hfound, hkind⟩ := rootContainer_eq_ok hc
  obtain ⟨c', hc', hreordered⟩ := h.get?_eq_some hfound
  refine ⟨c', ?_, hreordered⟩
  rw [Model.rootContainer, ← h.entityContainer, hc']
  simp only [← hreordered.kind, hkind, if_true]

theorem isRootContainer_eq (h : m.Reordered m') {t u : SchemaType} (htu : t.Reordered u) :
    m.isRootContainer t = m'.isRootContainer u := by
  rw [isRootContainer, isRootContainer, h.entityContainer, htu.name]

theorem isReference_eq (h : m.Reordered m') (p : Property) :
    m.isReference p = m'.isReference p := by
  rw [isReference, isReference, h.entityContainer]

theorem length_types_eq (h : m.Reordered m') (hm : m.types.names.Nodup)
    (hm' : m'.types.names.Nodup) : m.types.length = m'.types.length := by
  have hperm : m.types.names.Perm m'.types.names := by
    refine (List.perm_ext_iff_of_nodup hm hm').mpr fun name => ?_
    rw [Table.mem_names_iff, Table.mem_names_iff, ← Option.isSome_iff_exists,
      ← Option.isSome_iff_exists, isSome_eq_of_rel (h.types name)]
  simpa [Table.names] using hperm.length_eq

theorem tidy (h : m.Reordered m') (hm : m.Tidy) (hclosed : m'.Closed)
    (hnames : m'.types.names.Nodup) : m'.Tidy :=
  ⟨hclosed, hnames, fun p q hp hq =>
    hm.identified p q (h.symm.declared hnames hp) (h.symm.declared hnames hq)⟩

/-! ## Inheritance -/

theorem basesFrom (h : m.Reordered m') {fuel : Nat} {met : List String} {t u : SchemaType}
    (htu : t.Reordered u) {bases : List SchemaType} (hb : m.basesFrom fuel met t = .ok bases) :
    ∃ bases', m'.basesFrom fuel met u = .ok bases' ∧
      List.Forall₂ SchemaType.Reordered bases bases' := by
  induction fuel generalizing met t u bases with
  | zero =>
    cases hb
    exact ⟨[], rfl, .nil⟩
  | succ fuel ih =>
    rw [Model.basesFrom] at hb ⊢
    rw [← htu.base?]
    split at hb
    · cases hb
      exact ⟨[], rfl, .nil⟩
    · split at hb
      · rename_i hmet
        cases hb
        exact ⟨[], by simp only [hmet, if_true], .nil⟩
      · rename_i hnew
        obtain ⟨b, hbase, hb⟩ := bind_eq_ok.mp hb
        obtain ⟨more, hmore, hb⟩ := bind_eq_ok.mp hb
        cases hb
        obtain ⟨b', hbase', hbb'⟩ := h.getType hbase
        obtain ⟨more', hmore', hrel⟩ := ih hbb' hmore
        refine ⟨b' :: more', ?_, .cons hbb' hrel⟩
        simp only [hnew, if_false]
        rw [hbase', ok_bind, ← hbb'.name, hmore', ok_bind]
        rfl

theorem baseTypes (h : m.Reordered m') (hm : m.Tidy) (hm' : m'.Tidy) {t u : SchemaType}
    (htu : t.Reordered u) {bases : List SchemaType} (hb : m.baseTypes t = .ok bases) :
    ∃ bases', m'.baseTypes u = .ok bases' ∧ List.Forall₂ SchemaType.Reordered bases bases' := by
  rw [Model.baseTypes] at hb ⊢
  rw [← h.length_types_eq hm.names hm'.names, ← htu.name]
  exact h.basesFrom htu hb

theorem extends_of_extends (h : m.Reordered m') (hm : m.Tidy) {base name : String}
    (hextends : m.Extends base name) : m'.Extends base name := by
  obtain ⟨t, ht, rfl⟩ := List.mem_map.mp hextends
  obtain ⟨hvalue, hbase⟩ := List.mem_filter.mp ht
  obtain ⟨key, hentry⟩ := Table.mem_values.mp hvalue
  obtain ⟨u, hu, htu⟩ := h.get?_eq_some ((Table.get?_eq_some_iff hm.names).mpr hentry)
  refine List.mem_map.mpr ⟨u, List.mem_filter.mpr ⟨?_, ?_⟩, htu.name.symm⟩
  · exact Table.mem_values.mpr ⟨key, Table.mem_of_get? hu⟩
  · rw [← htu.base?]
    exact hbase

theorem derivedTypes (h : m.Reordered m') (hm : m.Tidy) (hm' : m'.Tidy) {t u : SchemaType}
    (htu : t.Reordered u) {derived derived' : List SchemaType} (hd : m.derivedTypes t = .ok derived)
    (hd' : m'.derivedTypes u = .ok derived') {d : SchemaType} (hmem : d ∈ derived) :
    ∃ d' ∈ derived', d.Reordered d' := by
  have hname := (hm.closed.grounded.mem_derivedTypes_iff hd).mp (List.mem_map_of_mem hmem)
  have hname' : d.name ∈ derived'.map (·.name) := by
    refine (hm'.closed.grounded.mem_derivedTypes_iff hd').mpr ⟨htu.name ▸ hname.1, ?_⟩
    rw [← htu.name]
    exact Relation.TransGen.mono (fun _ _ hstep => h.extends_of_extends hm hstep) _ _ hname.2
  obtain ⟨d', hmem', hsame⟩ := List.mem_map.mp hname'
  obtain ⟨d'', hfound, hreordered⟩ :=
    h.getType (hm.closed.grounded.getType_of_mem_derivedTypes hd hmem)
  rw [← hsame, hm'.closed.grounded.getType_of_mem_derivedTypes hd' hmem'] at hfound
  cases hfound
  exact ⟨d', hmem', hreordered⟩

theorem exists_contributor (h : m.Reordered m') (hm : m.Tidy) (hm' : m'.Tidy) {t u : SchemaType}
    (htu : t.Reordered u) {types types' : List SchemaType} (htypes : m.contributors t = .ok types)
    (htypes' : m'.contributors u = .ok types') {c : SchemaType} (hc : c ∈ types) :
    ∃ c' ∈ types', c.Reordered c' := by
  obtain ⟨bases, derived, hbases, hderived, rfl⟩ := contributors_eq_ok htypes
  obtain ⟨bases', derived', hbases', hderived', rfl⟩ := contributors_eq_ok htypes'
  rcases List.mem_cons.mp hc with rfl | hc
  · exact ⟨u, List.mem_cons_self, htu⟩
  · rcases List.mem_append.mp hc with hc | hc
    · obtain ⟨bases'', hbases'', hrel⟩ := h.baseTypes hm hm' htu hbases
      rw [hbases'] at hbases''
      cases hbases''
      obtain ⟨c', hc', hcc'⟩ := (Shuffled.of_forall₂ hrel).exists_mem hc
      exact ⟨c', List.mem_cons_of_mem _ (List.mem_append_left _ hc'), hcc'⟩
    · obtain ⟨c', hc', hcc'⟩ := h.derivedTypes hm hm' htu hderived hderived' hc
      exact ⟨c', List.mem_cons_of_mem _ (List.mem_append_right _ hc'), hcc'⟩

/-! ## Segments -/

theorem isSegment (h : m.Reordered m') {isRoot : Bool} {p : Property} {b : Bool}
    (hp : m.isSegment isRoot p = .ok b) : m'.isSegment isRoot p = .ok b := by
  cases isRoot with
  | true => exact hp
  | false =>
    obtain ⟨target, htarget, hb⟩ := bind_eq_ok.mp hp
    cases hb
    obtain ⟨target', htarget', hreordered⟩ := h.targetType htarget
    change (m'.targetType p >>= _) = _
    rw [htarget', ok_bind, hreordered.kind]
    rfl

/-- The segments of a type are the same in both models. -/
theorem mem_segmentsAs (h : m.Reordered m') (hm : m.Tidy) (hm' : m'.Tidy) {isRoot : Bool}
    {t u : SchemaType} (htu : t.Reordered u) (hu : m'.Knows u) {segs : List Property}
    (hsegs : m.segmentsAs isRoot t = .ok segs) :
    ∃ segs', m'.segmentsAs isRoot u = .ok segs' ∧ ∀ p ∈ segs, p ∈ segs' := by
  obtain ⟨segs', hsegs'⟩ := hm'.closed.exists_segmentsAs isRoot hu
  refine ⟨segs', hsegs', ?_⟩
  intro p hp
  obtain ⟨types, htypes, ⟨c, hc, hpc⟩, hsegment⟩ := mem_of_mem_segmentsAs hsegs hp
  obtain ⟨types', htypes', hknown⟩ := hm'.closed.exists_contributors hu
  obtain ⟨c', hc', hcc'⟩ := h.exists_contributor hm hm' htu htypes htypes' hc
  have hpc' := hcc'.properties.mem_iff.mp hpc
  obtain ⟨q, hq, hsame⟩ := exists_mem_segmentsAs hsegs' htypes' hc' hpc' (h.isSegment hsegment)
  obtain ⟨types'', htypes'', ⟨d, hd, hqd⟩, _⟩ := mem_of_mem_segmentsAs hsegs' hq
  rw [htypes'] at htypes''
  cases htypes''
  obtain rfl : q = p := hm'.identified q p (declared_of_knows (hknown d hd) hqd)
    (declared_of_knows (hknown c' hc') hpc') hsame
  exact hq

end Reordered

end Model

end CsdlRoutes.Schema
