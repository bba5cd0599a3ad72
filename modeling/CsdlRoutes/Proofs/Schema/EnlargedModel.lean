import Mathlib.Data.List.Perm.Subperm
import CsdlRoutes.Proofs.Schema.InheritanceWalks
import CsdlRoutes.Proofs.Schema.SegmentList

/-!
# Models with more types

Types are added to a model anywhere in its order, and nothing else changes. Each look-up that had an
answer keeps it, and so do the chains of base types. The search for subtypes may find new types in
between, and new segments come from these, but what was found before is found in the same order: no
old type has a new one as its base, so leaving out what is new gives the search of the old model.

* `Model.Enlarged` says which types may be added; whether they were is decidable.
* `Enlarged.getType`, `Enlarged.baseTypes`: answers that stay.
* `Enlarged.derivedTypes`, `Enlarged.segmentsAs`: the old subtypes and the old segments are what is
  left without the new ones.
* `Model.Detached`: new types that have nothing old among their base types; they change nothing.
-/

namespace CsdlRoutes.Schema.Model

/-- The same entity container, and the same types with further types anywhere among them. No name of
a new type is taken or primitive, and no canonical name of a new property is taken. -/
structure Enlarged (m m' : Model) : Prop where
  entityContainer : m.entityContainer = m'.entityContainer
  types : m.types.Sublist m'.types
  names : m'.types.names.Nodup
  unreserved : ∀ entry ∈ m'.types, entry.1 ∉ m.types.names → isPrimitive entry.1 = false
  fresh : ∀ entry ∈ m'.types, entry.1 ∉ m.types.names → ∀ p ∈ entry.2.properties,
    ∀ q, m.Declared q → p.canonicalName ≠ q.canonicalName

/-- A name that a model uses: a type is declared under it, or a property leads to it. -/
def Uses (m : Model) (name : String) : Prop :=
  name ∈ m.types.names ∨ ∃ p, m.Declared p ∧ p.typeName = name

/-- No new type has a type that the old model uses among its base types. -/
def Detached (m m' : Model) : Prop :=
  ∀ entry ∈ m'.types, entry.1 ∉ m.types.names → ∀ bases, m'.baseTypes entry.2 = .ok bases →
    ∀ b ∈ bases, ¬ m.Uses b.name

/-- Whether a name can be looked up. -/
def knowsName (m : Model) (name : String) : Bool := m.types.has name || isPrimitive name

/-- Whether a property has the canonical name of a declared one. -/
def ownsName (m : Model) (p : Property) : Bool :=
  m.types.values.any fun t => t.properties.any fun q => q.canonicalName == p.canonicalName

variable {m m' : Model} {isRoot : Bool}

theorem knowsName_iff {name : String} : m.knowsName name = true ↔ ∃ t, m.getType name = .ok t :=
  exists_getType_iff.symm

theorem ownsName_iff {p : Property} :
    m.ownsName p = true ↔ ∃ q, m.Declared q ∧ q.canonicalName = p.canonicalName := by
  simp only [ownsName, List.any_eq_true, beq_iff_eq]
  constructor
  · rintro ⟨t, ht, q, hq, hname⟩
    exact ⟨q, ⟨t, ht, hq⟩, hname⟩
  · rintro ⟨q, ⟨t, ht, hq⟩, hname⟩
    exact ⟨t, ht, q, hq, hname⟩

/-- Whether a name is used. -/
def usesName (m : Model) (name : String) : Bool :=
  m.types.has name || m.types.values.any fun t => t.properties.any fun p => p.typeName == name

theorem usesName_iff {name : String} : m.usesName name = true ↔ m.Uses name := by
  simp only [usesName, Uses, Bool.or_eq_true, Table.has_iff, Table.mem_names_iff, List.any_eq_true,
    beq_iff_eq]
  refine or_congr Iff.rfl ⟨?_, ?_⟩
  · rintro ⟨t, ht, p, hp, hname⟩
    exact ⟨p, ⟨t, ht, hp⟩, hname⟩
  · rintro ⟨p, ⟨t, ht, hp⟩, hname⟩
    exact ⟨t, ht, p, hp, hname⟩

/-! ## Deciding whether a model is enlarged -/

/-- Whether a type is an old one or may be added. -/
def entryFits (m : Model) (entry : String × SchemaType) : Bool :=
  m.types.has entry.1 ||
    (!isPrimitive entry.1 && entry.2.properties.all fun p => !m.ownsName p)

theorem enlarged_iff : m.Enlarged m' ↔ m.entityContainer = m'.entityContainer ∧
    m.types.Sublist m'.types ∧ m'.types.names.Nodup ∧ m'.types.all m.entryFits = true := by
  have hfits : ∀ entry : String × SchemaType, m.entryFits entry = true ↔
      (entry.1 ∉ m.types.names → isPrimitive entry.1 = false ∧ ∀ p ∈ entry.2.properties,
        ∀ q, m.Declared q → p.canonicalName ≠ q.canonicalName) := by
    intro entry
    simp only [entryFits, Bool.or_eq_true, Bool.and_eq_true, Bool.not_eq_true', List.all_eq_true,
      Table.has_iff, ← Table.mem_names_iff, ← Bool.not_eq_true (m.ownsName _), ownsName_iff,
      not_exists, not_and]
    rw [or_iff_not_imp_left]
    simp only [ne_eq, eq_comm]
  simp only [List.all_eq_true, hfits]
  constructor
  · intro h
    exact ⟨h.entityContainer, h.types, h.names, fun entry hentry hnew =>
      ⟨h.unreserved entry hentry hnew, h.fresh entry hentry hnew⟩⟩
  · rintro ⟨hcontainer, htypes, hnames, hentries⟩
    exact ⟨hcontainer, htypes, hnames, fun entry hentry hnew => (hentries entry hentry hnew).1,
      fun entry hentry hnew => (hentries entry hentry hnew).2⟩

instance : Decidable (m.Enlarged m') := decidable_of_iff _ enlarged_iff.symm

/-- Whether a type is an old one or has nothing that the old model uses among its base types. -/
def entryDetaches (m m' : Model) (entry : String × SchemaType) : Bool :=
  m.types.has entry.1 ||
    match m'.baseTypes entry.2 with
    | .ok bases => bases.all fun b => !m.usesName b.name
    | .error _ => true

theorem detached_iff : m.Detached m' ↔ m'.types.all (m.entryDetaches m') = true := by
  simp only [Detached, List.all_eq_true, entryDetaches, Bool.or_eq_true, Table.has_iff,
    ← Table.mem_names_iff, or_iff_not_imp_left]
  refine forall₂_congr fun entry _ => imp_congr Iff.rfl ?_
  cases m'.baseTypes entry.2 with
  | error _ => simp
  | ok bases => simp [← usesName_iff]

instance : Decidable (m.Detached m') := decidable_of_iff _ detached_iff.symm

namespace Enlarged

/-! ## Looking types up -/

theorem names_old (h : m.Enlarged m') : m.types.names.Nodup :=
  (h.types.map Prod.fst).nodup h.names

theorem length_le (h : m.Enlarged m') : m.types.length ≤ m'.types.length := h.types.length_le

theorem get? (h : m.Enlarged m') {name : String} {t : SchemaType}
    (ht : m.types.get? name = some t) : m'.types.get? name = some t :=
  (Table.get?_eq_some_iff h.names).mpr (h.types.subset (Table.mem_of_get? ht))

theorem getType (h : m.Enlarged m') {name : String} {t : SchemaType}
    (ht : m.getType name = .ok t) : m'.getType name = .ok t := by
  rcases getType_eq_ok ht with hfound | ⟨hnone, hprimitive, rfl⟩
  · exact getType_of_get? (h.get? hfound)
  · have hnone' : m'.types.get? name = none := by
      rw [Option.eq_none_iff_forall_ne_some]
      intro u hu
      have hnew : name ∉ m.types.names := by
        rw [Table.mem_names_iff, hnone]
        simp
      have hfalse := h.unreserved (name, u) (Table.mem_of_get? hu) hnew
      rw [hprimitive] at hfalse
      cases hfalse
    simp only [Model.getType, hnone', hprimitive, if_true]

theorem knows (h : m.Enlarged m') {t : SchemaType} (ht : m.Knows t) : m'.Knows t := by
  obtain ⟨name, hname⟩ := ht
  exact ⟨name, h.getType hname⟩

theorem isRootContainer_eq (h : m.Enlarged m') (t : SchemaType) :
    m.isRootContainer t = m'.isRootContainer t := by
  rw [isRootContainer, isRootContainer, h.entityContainer]

/-- An entry of the new model is one of the old model if its name can be looked up there. -/
theorem mem_types_iff (h : m.Enlarged m') {entry : String × SchemaType}
    (hentry : entry ∈ m'.types) : entry ∈ m.types ↔ m.knowsName entry.1 = true := by
  constructor
  · intro hold
    have hget := (Table.get?_eq_some_iff h.names_old).mpr hold
    rw [knowsName, Table.has_iff.mpr ⟨_, hget⟩, Bool.true_or]
  · intro hknown
    by_cases hold : entry.1 ∈ m.types.names
    · obtain ⟨t, ht⟩ := Table.mem_names_iff.mp hold
      have hsame := h.get? ht
      rw [(Table.get?_eq_some_iff h.names).mpr (show (entry.1, entry.2) ∈ m'.types from hentry)]
        at hsame
      cases hsame
      exact Table.mem_of_get? ht
    · have hhas : m.types.has entry.1 = false := by
        rw [← Bool.not_eq_true, Table.has_iff, ← Table.mem_names_iff]
        exact hold
      rw [knowsName, hhas, h.unreserved entry hentry hold] at hknown
      cases hknown

/-- The old types are what is left of the new model without the new names. -/
theorem types_eq_filter (h : m.Enlarged m') :
    m.types = m'.types.filter fun entry => m.knowsName entry.1 := by
  have hkept : m.types.filter (fun entry => m.knowsName entry.1) = m.types :=
    List.filter_eq_self.mpr fun entry hentry => (h.mem_types_iff (h.types.subset hentry)).mp hentry
  have hsublist := h.types.filter fun entry => m.knowsName entry.1
  rw [hkept] at hsublist
  have hnodup := (List.Nodup.of_map Prod.fst h.names).filter fun entry => m.knowsName entry.1
  refine hsublist.eq_of_length_le (hnodup.subperm ?_).length_le
  intro entry hentry
  obtain ⟨hmem, hknown⟩ := List.mem_filter.mp hentry
  exact (h.mem_types_iff hmem).mpr hknown

/-! ## Inheritance -/

theorem basesFrom (h : m.Enlarged m') {fuel : Nat} {met : List String} {t : SchemaType}
    {bases : List SchemaType} (hb : m.basesFrom fuel met t = .ok bases) :
    m'.basesFrom fuel met t = .ok bases := by
  induction fuel generalizing met t bases with
  | zero => exact hb
  | succ fuel ih =>
    rw [Model.basesFrom] at hb ⊢
    split at hb
    · exact hb
    · split at hb
      · rename_i hmet
        rw [if_pos hmet]
        exact hb
      · rename_i hnew
        obtain ⟨b, hbase, hb⟩ := bind_eq_ok.mp hb
        obtain ⟨more, hmore, hb⟩ := bind_eq_ok.mp hb
        cases hb
        rw [if_neg hnew, h.getType hbase, ok_bind, ih hmore, ok_bind]
        rfl

/-- A type keeps its chain of base types. -/
theorem baseTypes (h : m.Enlarged m') (hm : m.Closed) {t : SchemaType} {bases : List SchemaType}
    (hb : m.baseTypes t = .ok bases) : m'.baseTypes t = .ok bases := by
  have hle := h.length_le
  rw [← basesFrom_eq_baseTypes hm.named (show 2 * m.types.length < 2 * m'.types.length + 1 by omega)]
    at hb
  exact h.basesFrom hb

theorem directSubtypes_eq_filter (h : m.Enlarged m') (hm' : m'.Closed) (base : String) :
    m.directSubtypes base = (m'.directSubtypes base).filter m.knowsName := by
  have hvalues : m.types.values = m'.types.values.filter fun t => m.knowsName t.name := by
    rw [Table.values, Table.values, List.filter_map, h.types_eq_filter]
    congr 1
    apply List.filter_congr
    intro entry hentry
    rw [Function.comp_apply, hm'.named entry hentry]
  rw [directSubtypes, directSubtypes, hvalues, List.filter_map, List.filter_filter,
    List.filter_filter]
  congr 1
  apply List.filter_congr
  intro t _
  rw [Function.comp_apply, Bool.and_comm]

theorem directSubtypes_of_new (hm : m.Closed) {name : String}
    (hnew : m.knowsName name = false) : m.directSubtypes name = [] := by
  rw [directSubtypes, List.map_eq_nil_iff, List.filter_eq_nil_iff]
  intro t ht hbase
  have hknown := knowsName_iff.mpr (hm.bases t ht name (by simpa using hbase))
  rw [hnew] at hknown
  cases hknown

/-- Without the new names the search of the new model is the search of the old one. The names that
were met may differ in new ones. -/
theorem searched (h : m.Enlarged m') (hm : m.Closed) (hm' : m'.Closed)
    {met met' pending' : List String} {found' : List SchemaType}
    (hs : m'.Searched met' pending' found')
    (hmet : ∀ name, m.knowsName name = true → (name ∈ met ↔ name ∈ met')) :
    m.Searched met (pending'.filter m.knowsName)
      (found'.filter fun t => m.knowsName t.name) := by
  induction hs generalizing met with
  | done => exact .done met
  | @skip met' rest name found hmem _ ih =>
    cases hknown : m.knowsName name with
    | false =>
      rw [List.filter_cons_of_neg (by simp [hknown])]
      exact ih hmet
    | true =>
      rw [List.filter_cons_of_pos hknown]
      exact .skip ((hmet name hknown).mpr hmem) (ih hmet)
  | @meet met' rest name t found hnew ht _ ih =>
    have hname := hm'.grounded.name_of_getType ht
    rw [List.filter_append, ← h.directSubtypes_eq_filter hm'] at ih
    cases hknown : m.knowsName name with
    | false =>
      rw [List.filter_cons_of_neg (by simp [hknown]),
        List.filter_cons_of_neg (by simp [hname, hknown])]
      -- no old type descends from a new one, so the queue gains nothing old
      rw [directSubtypes_of_new hm hknown, List.append_nil] at ih
      refine ih fun n hn => ?_
      have hne : n ≠ name := by
        rintro rfl
        rw [hknown] at hn
        cases hn
      rw [List.mem_cons, hmet n hn, or_iff_right hne]
    | true =>
      rw [List.filter_cons_of_pos hknown, List.filter_cons_of_pos (by simp [hname, hknown])]
      obtain ⟨u, hu⟩ := knowsName_iff.mp hknown
      have hsame := h.getType hu
      rw [ht] at hsame
      cases hsame
      refine .meet (fun hmem => hnew ((hmet name hknown).mp hmem)) hu (ih fun n hn => ?_)
      rw [List.mem_cons, List.mem_cons, hmet n hn]

/-- The subtypes in the old model are the subtypes in the new one, without the new types. -/
theorem derivedTypes (h : m.Enlarged m') (hm : m.Closed) (hm' : m'.Closed) {t : SchemaType}
    {derived derived' : List SchemaType} (hd : m.derivedTypes t = .ok derived)
    (hd' : m'.derivedTypes t = .ok derived') :
    derived = derived'.filter fun d => m.knowsName d.name := by
  have hs : m.Searched [t.name] _ _ :=
    h.searched hm hm' (searched_derivedTypes hd') fun _ _ => Iff.rfl
  rw [← h.directSubtypes_eq_filter hm'] at hs
  exact (searched_derivedTypes hd).unique hs

/-- The types that contribute to a type in the old model are those in the new one, without the new
types. -/
theorem contributors (h : m.Enlarged m') (hm : m.Closed) (hm' : m'.Closed) {t : SchemaType}
    (ht : m.Knows t) {types types' : List SchemaType} (htypes : m.contributors t = .ok types)
    (htypes' : m'.contributors t = .ok types') :
    types = types'.filter fun u => m.knowsName u.name := by
  obtain ⟨bases, derived, hbases, hderived, rfl⟩ := contributors_eq_ok htypes
  obtain ⟨bases', derived', hbases', hderived', rfl⟩ := contributors_eq_ok htypes'
  have hsame := h.baseTypes hm hbases
  rw [hbases'] at hsame
  cases hsame
  have hknown := hm.grounded.knows_of_mem_baseTypes ht hbases
  have hold : ∀ u, m.Knows u → m.knowsName u.name = true := fun u hu =>
    knowsName_iff.mpr ⟨u, hm.grounded.getType_name hu⟩
  have hchain : bases.filter (fun u => m.knowsName u.name) = bases :=
    List.filter_eq_self.mpr fun u hu => hold u (hknown u hu)
  rw [List.filter_cons_of_pos (by simpa using hold t ht), List.filter_append, hchain,
    ← h.derivedTypes hm hm' hderived hderived']

/-! ## Segments -/

theorem knows_of_knowsName (h : m.Enlarged m') (hm' : m'.Closed) {u : SchemaType}
    (hu : m'.Knows u) (hknown : m.knowsName u.name = true) : m.Knows u := by
  obtain ⟨t, ht⟩ := knowsName_iff.mp hknown
  have hsame := h.getType ht
  rw [hm'.grounded.getType_name hu] at hsame
  cases hsame
  exact ⟨u.name, ht⟩

/-- A type whose name cannot be looked up in the old model is a new one. -/
theorem entry_of_new (hm' : m'.Closed) {u : SchemaType} (hu : m'.Knows u)
    (hnew : m.knowsName u.name = false) : (u.name, u) ∈ m'.types ∧ u.name ∉ m.types.names := by
  rw [knowsName, Bool.or_eq_false_iff] at hnew
  obtain ⟨hhas, hprimitive⟩ := hnew
  refine ⟨?_, ?_⟩
  · rcases getType_eq_ok (hm'.grounded.getType_name hu) with hfound | ⟨_, hprimitive', _⟩
    · exact Table.mem_of_get? hfound
    · rw [hprimitive] at hprimitive'
      cases hprimitive'
  · rw [Table.mem_names_iff, ← Table.has_iff, hhas]
    exact Bool.false_ne_true

/-- The properties of a type have canonical names of the old model if the type is one of it, and new
ones otherwise. -/
theorem ownsName_eq (h : m.Enlarged m') (hm' : m'.Closed) {u : SchemaType} (hu : m'.Knows u)
    {p : Property} (hp : p ∈ u.properties) : m.ownsName p = m.knowsName u.name := by
  cases hknown : m.knowsName u.name with
  | true =>
    have hdeclared := declared_of_knows (h.knows_of_knowsName hm' hu hknown) hp
    exact ownsName_iff.mpr ⟨p, hdeclared, rfl⟩
  | false =>
    obtain ⟨hentry, hnew⟩ := entry_of_new hm' hu hknown
    rw [← Bool.not_eq_true, ownsName_iff]
    rintro ⟨q, hq, hsame⟩
    exact h.fresh _ hentry hnew p hp q hq hsame.symm

theorem flatMap_properties (h : m.Enlarged m') (hm' : m'.Closed) {types : List SchemaType}
    (htypes : ∀ u ∈ types, m'.Knows u) :
    (types.filter fun u => m.knowsName u.name).flatMap (·.properties) =
      (types.flatMap (·.properties)).filter m.ownsName := by
  induction types with
  | nil => rfl
  | cons u rest ih =>
    obtain ⟨hu, hrest⟩ := List.forall_mem_cons.mp htypes
    have howns : ∀ p ∈ u.properties, m.ownsName p = m.knowsName u.name := fun p hp =>
      h.ownsName_eq hm' hu hp
    rw [List.flatMap_cons, List.filter_append, ← ih hrest]
    cases hknown : m.knowsName u.name with
    | true =>
      rw [List.filter_cons_of_pos (by simpa using hknown), List.flatMap_cons]
      congr 1
      exact (List.filter_eq_self.mpr fun p hp => (howns p hp).trans hknown).symm
    | false =>
      have hnone : u.properties.filter m.ownsName = [] :=
        List.filter_eq_nil_iff.mpr fun p hp => by simp [howns p hp, hknown]
      rw [List.filter_cons_of_neg (by simp [hknown]), hnone, List.nil_append]

theorem isSegment (h : m.Enlarged m') {p : Property} {b : Bool}
    (hp : m.isSegment isRoot p = .ok b) : m'.isSegment isRoot p = .ok b := by
  cases isRoot with
  | true => exact hp
  | false =>
    obtain ⟨target, htarget, hb⟩ := bind_eq_ok.mp hp
    cases hb
    have htarget' : m'.targetType p = .ok target := h.getType htarget
    change (m'.targetType p >>= _) = _
    rw [htarget', ok_bind]
    rfl

/-- Among old and new properties the old ones become segments as they do among themselves. -/
theorem distinctSegments (h : m.Enlarged m') {taken taken' : List String}
    (htaken : ∀ p, m.ownsName p = true → (p.canonicalName ∈ taken ↔ p.canonicalName ∈ taken'))
    {ps segs' : List Property}
    (hps : ∀ p ∈ ps, m.ownsName p = true → ∃ b, m.isSegment isRoot p = .ok b)
    (hsegs : m'.distinctSegments isRoot taken' ps = .ok segs') :
    m.distinctSegments isRoot taken (ps.filter m.ownsName) = .ok (segs'.filter m.ownsName) := by
  induction ps generalizing taken taken' segs' with
  | nil =>
    cases hsegs
    rfl
  | cons p rest ih =>
    obtain ⟨hp, hrest⟩ := List.forall_mem_cons.mp hps
    cases howns : m.ownsName p with
    | false =>
      rw [List.filter_cons_of_neg (by simp [howns])]
      rcases distinctSegments_cons_eq_ok hsegs with ⟨_, h'⟩ | ⟨_, _, h'⟩ | ⟨_, _, more, rfl, h'⟩
      · exact ih htaken hrest h'
      · exact ih htaken hrest h'
      · rw [List.filter_cons_of_neg (by simp [howns])]
        -- the canonical name that is taken now is none of the old ones
        refine ih (fun q hq => ?_) hrest h'
        have hne : q.canonicalName ≠ p.canonicalName := by
          intro hsame
          have hp' : m.ownsName q = m.ownsName p := by rw [ownsName, ownsName, hsame]
          rw [howns, hq] at hp'
          cases hp'
        rw [List.mem_cons, htaken q hq, or_iff_right hne]
    | true =>
      obtain ⟨b, hb⟩ := hp howns
      have hb' := h.isSegment hb
      rw [List.filter_cons_of_pos howns, Model.distinctSegments]
      rcases distinctSegments_cons_eq_ok hsegs with ⟨hmem, h'⟩ | ⟨hnew, hfalse, h'⟩ |
        ⟨hnew, htrue, more, rfl, h'⟩
      · rw [if_pos ((htaken p howns).mpr hmem)]
        exact ih htaken hrest h'
      · rw [hb'] at hfalse
        cases hfalse
        rw [if_neg fun hmem => hnew ((htaken p howns).mp hmem), hb, ok_bind]
        exact ih htaken hrest h'
      · rw [hb'] at htrue
        cases htrue
        rw [if_neg fun hmem => hnew ((htaken p howns).mp hmem), hb, ok_bind, if_pos rfl,
          List.filter_cons_of_pos howns]
        have hmore : m.distinctSegments isRoot (p.canonicalName :: taken) (rest.filter m.ownsName) =
            .ok (more.filter m.ownsName) := by
          refine ih (fun q hq => ?_) hrest h'
          rw [List.mem_cons, List.mem_cons, htaken q hq]
        rw [hmore, ok_bind]
        rfl

/-- The segments in the old model are the segments in the new one, without the new properties. -/
theorem segmentsAs (h : m.Enlarged m') (hm : m.Closed) (hm' : m'.Closed) {t : SchemaType}
    (ht : m.Knows t) {segs segs' : List Property} (hsegs : m.segmentsAs isRoot t = .ok segs)
    (hsegs' : m'.segmentsAs isRoot t = .ok segs') : segs = segs'.filter m.ownsName := by
  obtain ⟨types, htypes, hd⟩ := segmentsAs_eq_ok hsegs
  obtain ⟨types', htypes', hd'⟩ := segmentsAs_eq_ok hsegs'
  have hknown := hm'.knows_of_mem_contributors (h.knows ht) htypes'
  rw [h.contributors hm hm' ht htypes htypes', h.flatMap_properties hm' hknown,
    h.distinctSegments (fun _ _ => Iff.rfl) ?_ hd'] at hd
  · exact (Except.ok.inj hd).symm
  · intro p hp howns
    obtain ⟨u, hu, hpu⟩ := List.mem_flatMap.mp hp
    rw [h.ownsName_eq hm' (hknown u hu) hpu] at howns
    obtain ⟨target, htarget⟩ := hm.exists_target (h.knows_of_knowsName hm' (hknown u hu) howns) hpu
    exact exists_isSegment isRoot htarget

/-! ## Detached types -/

/-- Types that are detached from what the old model uses are no subtypes of it. -/
theorem derivedTypes_of_detached (h : m.Enlarged m') (hm : m.Closed) (hm' : m'.Closed)
    (hdetached : m.Detached m') {t : SchemaType} (huses : m.Uses t.name)
    {derived derived' : List SchemaType} (hd : m.derivedTypes t = .ok derived)
    (hd' : m'.derivedTypes t = .ok derived') : derived' = derived := by
  rw [h.derivedTypes hm hm' hd hd']
  refine (List.filter_eq_self.mpr fun d hmem => ?_).symm
  by_contra hnew
  have hdknown := hm'.grounded.knows_of_mem_derivedTypes hd' d hmem
  obtain ⟨hne, hdescends⟩ := (hm'.grounded.mem_derivedTypes_iff hd').mp (List.mem_map_of_mem hmem)
  obtain ⟨bases, hbases, _⟩ := hm'.exists_baseTypes hdknown
  have hbase := hm'.grounded.mem_baseTypes_of_descends h.names hdknown hbases hdescends hne.symm
  obtain ⟨b, hb, hname⟩ := List.mem_map.mp hbase
  obtain ⟨hentry, hnotold⟩ := entry_of_new hm' hdknown (Bool.eq_false_iff.mpr hnew)
  exact hdetached _ hentry hnotold bases hbases b hb (hname ▸ huses)

/-- A type that the old model uses has no new segments, if the new types are detached. -/
theorem segmentsAs_of_detached (h : m.Enlarged m') (hm : m.Closed) (hm' : m'.Closed)
    (hdetached : m.Detached m') {t : SchemaType} (ht : m.Knows t) (huses : m.Uses t.name)
    {segs segs' : List Property} (hsegs : m.segmentsAs isRoot t = .ok segs)
    (hsegs' : m'.segmentsAs isRoot t = .ok segs') : segs' = segs := by
  rw [h.segmentsAs hm hm' ht hsegs hsegs']
  refine (List.filter_eq_self.mpr fun p hp => ?_).symm
  obtain ⟨types', htypes', ⟨u, hu, hpu⟩, _⟩ := mem_of_mem_segmentsAs hsegs' hp
  obtain ⟨types, htypes, hknown⟩ := hm.exists_contributors ht
  have hsame : types' = types := by
    obtain ⟨bases, derived, hbases, hderived, rfl⟩ := contributors_eq_ok htypes
    obtain ⟨bases', derived', hbases', hderived', rfl⟩ := contributors_eq_ok htypes'
    have hchain := h.baseTypes hm hbases
    rw [hbases'] at hchain
    cases hchain
    rw [h.derivedTypes_of_detached hm hm' hdetached huses hderived hderived']
  rw [hsame] at hu
  exact ownsName_iff.mpr ⟨p, declared_of_knows (hknown u hu) hpu, rfl⟩

end Enlarged

end CsdlRoutes.Schema.Model
