import CsdlRoutes.Proofs.Schema.FaithfulModel
import CsdlRoutes.Proofs.Schema.ShapedDocuments

/-!
# Which documents are accepted

Extraction expands references in several places and looks up what they stand for at its end. Taken
together this is a condition on each object that declares a type: its base type is declared, and
what its properties lead to is declared or primitive. The rules differ for base types, for
structural properties and for all other references. Besides, the entity container is declared, and
its name has a namespace.

* `Recognised.Accepted` is the condition on an object.
* `Document.Accepted` is the condition on a document, but for the namespace of the container.
* `extract_accepts_iff`: what extraction accepts; everything else it refuses.
* `nameless_container_refused`: a container that is declared in a namespace without a name.
-/

namespace CsdlRoutes.Schema

/-! ## The condition -/

/-- A name is that of a recognised member. -/
def Document.Declares (d : Document) (name : String) : Prop :=
  ∃ r ∈ recognised d, r.qualified = name

/-- A name is that of a recognised member or of a primitive type. -/
def Document.Reaches (d : Document) (name : String) : Prop :=
  d.Declares name ∨ isPrimitive name = true

/-- An object refers to a type that is declared or primitive. -/
def Document.Targets (d : Document) (table : AliasTable) (e : Members) : Prop :=
  ∃ reference q, Keyed.get? "$Type" e = some (.text reference) ∧ reference ≠ "" ∧
    table.Expands reference q ∧ d.Reaches q.join

/-- An object names a primitive type, refers to a type that is declared or primitive, or names no
type and thereby the default one. -/
def Document.TargetsLoosely (d : Document) (table : AliasTable) (e : Members) : Prop :=
  ∀ reference, (Keyed.get? "$Type" e).getD (.text defaultPropertyType) = .text reference →
    isPrimitive reference = true ∨ ∃ q, table.Expands reference q ∧ d.Reaches q.join

/-- Whether an object declares an entity or complex type. -/
def Recognised.isStructured (r : Recognised) : Bool := r.kind == .entity || r.kind == .complex

/-- The references in an object that declares a type lead where they have to. -/
structure Recognised.Accepted (r : Recognised) (d : Document) (table : AliasTable) : Prop where
  base : r.isStructured = true → ∀ reference,
    Keyed.get? "$BaseType" r.members = some (.text reference) → reference ≠ "" →
      ∃ q, table.Expands reference q ∧ d.Declares q.join
  navigation : r.isStructured = true → ∀ e ∈ objectsAmong isAside r.members,
    hasText "$Kind" "NavigationProperty" e.2 = true → d.Targets table e.2
  structural : r.isStructured = true → ∀ e ∈ objectsAmong isAside r.members,
    hasText "$Kind" "NavigationProperty" e.2 = false → declaresProperty e.2 = true →
      d.TargetsLoosely table e.2
  resources : r.kind = .container → ∀ e ∈ objectsAmong isAside r.members,
    isOperationImport e.2 = false → d.Targets table e.2

/-- The entity container that a document names is declared under a name. -/
def Document.ContainerIs (d : Document) (table : AliasTable) (q : QualifiedName) : Prop :=
  ∃ reference, Keyed.get? "$EntityContainer" d = some (.text reference) ∧ reference ≠ "" ∧
    table.Expands reference q ∧ ∃ r ∈ recognised d, r.qualified = q.join ∧ r.kind = .container

/-- The entity container of a document is declared, and all references lead where they have to. -/
structure Document.Accepted (d : Document) (table : AliasTable) : Prop where
  container : ∃ q, d.ContainerIs table q
  members : ∀ r ∈ recognised d, r.Accepted d table

variable {d : Document} {table : AliasTable}

/-! ## One reference -/

/-- What a type refers to is declared or, in the case of properties, primitive. -/
def SchemaType.Refers (t : SchemaType) (d : Document) : Prop :=
  (∀ base, t.base? = some base → d.Declares base) ∧ ∀ p ∈ t.properties, d.Reaches p.typeName

theorem resolved_target_iff (htable : table.Textual) {e : Members}
    (he : textAt "$Type" e = true) :
    (∃ reference target, setMember? "$Type" e = some reference ∧
      table.resolveValue reference = .ok target ∧ d.Reaches target) ↔ d.Targets table e := by
  constructor
  · rintro ⟨reference, target, hset, htarget, hreaches⟩
    rcases setMember?_of_textAt he with hnone | ⟨s, hs, hfound, hset'⟩
    · rw [hnone] at hset
      cases hset
    · rw [hset] at hset'
      cases hset'
      obtain ⟨q, hq, rfl⟩ := (AliasTable.resolve_eq_ok_iff htable).mp htarget
      exact ⟨s, q, hfound, hs, hq, hreaches⟩
  · rintro ⟨s, q, hfound, hs, hq, hreaches⟩
    exact ⟨.text s, q.join, setMember?_text_iff.mpr ⟨hfound, hs⟩,
      (AliasTable.resolve_eq_ok_iff htable).mpr ⟨q, hq, rfl⟩, hreaches⟩

theorem exists_property_iff {reference? : Option Value} {property : String → Property}
    (hproperty : ∀ target, (property target).typeName = target) :
    (∃ p, (∃ reference target, reference? = some reference ∧
        table.resolveValue reference = .ok target ∧ p = property target) ∧ d.Reaches p.typeName) ↔
      ∃ reference target, reference? = some reference ∧
        table.resolveValue reference = .ok target ∧ d.Reaches target := by
  constructor
  · rintro ⟨_, ⟨reference, target, hset, htarget, rfl⟩, hreaches⟩
    exact ⟨reference, target, hset, htarget, hproperty target ▸ hreaches⟩
  · rintro ⟨reference, target, hset, htarget, hreaches⟩
    exact ⟨_, ⟨reference, target, hset, htarget, rfl⟩, (hproperty target).symm ▸ hreaches⟩

theorem navigation_accepted_iff (htable : table.Textual) {owner name : String} {e : Members}
    (he : textAt "$Type" e = true) (hkind : hasText "$Kind" "NavigationProperty" e = true) :
    (∃ p, propertyOf table owner name e = .ok (some p) ∧ d.Reaches p.typeName) ↔
      d.Targets table e := by
  rw [← resolved_target_iff htable he]
  simp only [propertyOf_navigation_iff hkind]
  exact exists_property_iff fun _ => rfl

theorem resource_accepted_iff (htable : table.Textual) {owner name : String} {e : Members}
    (he : textAt "$Type" e = true) (himport : isOperationImport e = false) :
    (∃ p, resourceOf table owner name e = .ok (some p) ∧ d.Reaches p.typeName) ↔
      d.Targets table e := by
  rw [← resolved_target_iff htable he]
  simp only [resourceOf_iff himport]
  exact exists_property_iff fun _ => rfl

theorem structuralTarget_eq_ok_iff (htable : table.Textual) {e : Members} {reference : String}
    (he : (Keyed.get? "$Type" e).getD (.text defaultPropertyType) = .text reference)
    {target : String} :
    structuralTarget table e = .ok target ↔
      (isPrimitive reference = true ∧ target = reference) ∨
        (isPrimitive reference = false ∧ ∃ q, table.Expands reference q ∧ target = q.join) := by
  rw [structuralTarget, he, show textOf (.text reference) = .ok reference from rfl, ok_bind,
    ← AliasTable.resolve_eq_ok_iff htable]
  cases isPrimitive reference with
  | true => simp [pure, Except.pure, eq_comm]
  | false => simp

theorem structural_accepted_iff (htable : table.Textual) {owner name : String} {e : Members}
    (he : textAt "$Type" e = true) (hkind : hasText "$Kind" "NavigationProperty" e = false)
    (hdeclares : declaresProperty e = true) :
    (∃ p, propertyOf table owner name e = .ok (some p) ∧ d.Reaches p.typeName) ↔
      d.TargetsLoosely table e := by
  obtain ⟨reference, hreference⟩ : ∃ reference,
      (Keyed.get? "$Type" e).getD (.text defaultPropertyType) = .text reference := by
    cases hfound : Keyed.get? "$Type" e with
    | none => exact ⟨_, rfl⟩
    | some v => exact textAt_iff.mp he v hfound
  simp only [propertyOf_structural_iff hkind hdeclares, Document.TargetsLoosely, hreference,
    structuralTarget_eq_ok_iff htable hreference, Value.scalar.injEq, Scalar.text.injEq, forall_eq']
  constructor
  · rintro ⟨p, ⟨target, ⟨hprimitive, _⟩ | ⟨_, q, hq, rfl⟩, rfl⟩, hreaches⟩
    · exact Or.inl hprimitive
    · exact Or.inr ⟨q, hq, hreaches⟩
  · intro h
    cases hprimitive : isPrimitive reference with
    | true => exact ⟨_, ⟨reference, Or.inl ⟨rfl, rfl⟩, rfl⟩, Or.inr hprimitive⟩
    | false =>
      rcases h with htrue | ⟨q, hq, hreaches⟩
      · rw [hprimitive] at htrue
        cases htrue
      · exact ⟨_, ⟨q.join, Or.inr ⟨rfl, q, hq, rfl⟩, rfl⟩, hreaches⟩

theorem base_accepted_iff (htable : table.Textual) {ms : Members}
    (hms : textAt "$BaseType" ms = true) :
    (∃ base?, baseOf table ms = .ok base? ∧ ∀ base, base? = some base → d.Declares base) ↔
      ∀ reference, Keyed.get? "$BaseType" ms = some (.text reference) → reference ≠ "" →
        ∃ q, table.Expands reference q ∧ d.Declares q.join := by
  unfold baseOf
  rcases setMember?_of_textAt hms with hnone | ⟨s, hs, hfound, hset⟩
  · rw [hnone]
    constructor
    · intro _ reference hfound hreference
      rw [setMember?_text_iff.mpr ⟨hfound, hreference⟩] at hnone
      cases hnone
    · intro _
      exact ⟨none, rfl, fun _ h => nomatch h⟩
  · rw [hset]
    simp only [hfound, Option.some.injEq, Value.scalar.injEq, Scalar.text.injEq, forall_eq',
      bind_eq_ok]
    constructor
    · rintro ⟨base?, ⟨base, hbase, h⟩, hdeclares⟩ _
      cases h
      obtain ⟨q, hq, rfl⟩ := (AliasTable.resolve_eq_ok_iff htable).mp hbase
      exact ⟨q, hq, hdeclares _ rfl⟩
    · intro h
      obtain ⟨q, hq, hdeclares⟩ := h hs
      have hresolve : table.resolve s = .ok q.join :=
        (AliasTable.resolve_eq_ok_iff htable).mpr ⟨q, hq, rfl⟩
      refine ⟨some q.join, ⟨q.join, hresolve, rfl⟩, ?_⟩
      intro base hbase
      cases hbase
      exact hdeclares

/-! ## One object -/

theorem structured_elements_accepted_iff (htable : table.Textual) {owner : String} {ms : Members}
    (hnamed : Named ms) (htypes : ∀ e ∈ objectsAmong isAside ms, textAt "$Type" e.2 = true) :
    (∃ ps, propertiesBy (propertyOf table owner) ms = .ok ps ∧ ∀ p ∈ ps, d.Reaches p.typeName) ↔
      (∀ e ∈ objectsAmong isAside ms, hasText "$Kind" "NavigationProperty" e.2 = true →
        d.Targets table e.2) ∧
      ∀ e ∈ objectsAmong isAside ms, hasText "$Kind" "NavigationProperty" e.2 = false →
        declaresProperty e.2 = true → d.TargetsLoosely table e.2 := by
  simp only [structuredProperties_iff, hnamed, true_and, exists_forall₂_iff, List.mem_filter,
    and_imp]
  constructor
  · intro h
    refine ⟨fun e he hkind => ?_, fun e he hkind hdeclares => ?_⟩
    · exact (navigation_accepted_iff htable (htypes e he) hkind).mp
        (h e he (declaresProperty_of_navigation hkind))
    · exact (structural_accepted_iff htable (htypes e he) hkind hdeclares).mp (h e he hdeclares)
  · rintro ⟨hnavigation, hstructural⟩ e he hdeclares
    cases hkind : hasText "$Kind" "NavigationProperty" e.2 with
    | true =>
      exact (navigation_accepted_iff htable (htypes e he) hkind).mpr (hnavigation e he hkind)
    | false =>
      exact (structural_accepted_iff htable (htypes e he) hkind hdeclares).mpr
        (hstructural e he hkind hdeclares)

theorem container_elements_accepted_iff (htable : table.Textual) {owner : String} {ms : Members}
    (hnamed : Named ms) (htypes : ∀ e ∈ objectsAmong isAside ms, textAt "$Type" e.2 = true) :
    (∃ ps, propertiesBy (resourceOf table owner) ms = .ok ps ∧ ∀ p ∈ ps, d.Reaches p.typeName) ↔
      ∀ e ∈ objectsAmong isAside ms, isOperationImport e.2 = false → d.Targets table e.2 := by
  simp only [containerProperties_iff, hnamed, true_and, exists_forall₂_iff, List.mem_filter,
    and_imp, Bool.not_eq_true']
  refine forall₂_congr fun e he => imp_congr_right fun himport => ?_
  exact resource_accepted_iff htable (htypes e he) himport

namespace Recognised

variable {r : Recognised}

/-- In an entity or complex type the base type and the properties count. -/
theorem accepted_iff_of_structured (h : r.isStructured = true) : r.Accepted d table ↔
    (∀ reference, Keyed.get? "$BaseType" r.members = some (.text reference) → reference ≠ "" →
      ∃ q, table.Expands reference q ∧ d.Declares q.join) ∧
    (∀ e ∈ objectsAmong isAside r.members, hasText "$Kind" "NavigationProperty" e.2 = true →
      d.Targets table e.2) ∧
    ∀ e ∈ objectsAmong isAside r.members, hasText "$Kind" "NavigationProperty" e.2 = false →
      declaresProperty e.2 = true → d.TargetsLoosely table e.2 := by
  constructor
  · intro haccepted
    exact ⟨haccepted.base h, haccepted.navigation h, haccepted.structural h⟩
  · rintro ⟨hbase, hnavigation, hstructural⟩
    refine ⟨fun _ => hbase, fun _ => hnavigation, fun _ => hstructural, fun hcontainer => ?_⟩
    rw [isStructured, hcontainer] at h
    cases h

/-- In an entity container the resources count. -/
theorem accepted_iff_of_container (h : r.kind = .container) : r.Accepted d table ↔
    ∀ e ∈ objectsAmong isAside r.members, isOperationImport e.2 = false → d.Targets table e.2 := by
  have hno : r.isStructured ≠ true := by rw [isStructured, h]; decide
  constructor
  · intro haccepted
    exact haccepted.resources h
  · intro hresources
    exact ⟨fun hyes => absurd hyes hno, fun hyes => absurd hyes hno, fun hyes => absurd hyes hno,
      fun _ => hresources⟩

/-- In all other types nothing does. -/
theorem accepted_of_plain (h : r.isStructured = false) (hcontainer : r.kind ≠ .container) :
    r.Accepted d table := by
  have hno : r.isStructured ≠ true := by rw [h]; decide
  exact ⟨fun hyes => absurd hyes hno, fun hyes => absurd hyes hno, fun hyes => absurd hyes hno,
    fun hyes => absurd hyes hcontainer⟩

end Recognised

theorem structured_accepted_iff (htable : table.Textual) (hd : d.Shaped) {r : Recognised}
    (hr : r ∈ recognised d) (hkind : r.isStructured = true) :
    (∃ t, structuredType table r.qualified r.kind r.members = .ok t ∧ t.Refers d) ↔
      r.Accepted d table := by
  rw [Recognised.accepted_iff_of_structured hkind, ← base_accepted_iff htable (hd.bases r hr),
    ← structured_elements_accepted_iff htable (hd.members r hr) (hd.types r hr)]
  constructor
  · rintro ⟨t, ht, hbase, htargets⟩
    obtain ⟨ps, base?, key, hps, hbase?, _, rfl⟩ := structuredType_eq_ok_iff.mp ht
    exact ⟨⟨base?, hbase?, hbase⟩, ps, hps, htargets⟩
  · rintro ⟨⟨base?, hbase?, hbase⟩, ps, hps, htargets⟩
    obtain ⟨key, hkey⟩ : ∃ key,
        (if r.kind = .entity then keyNames r.members else pure []) = .ok key := by
      split
      · exact exists_keyNames (hd.keys r hr)
      · exact ⟨[], rfl⟩
    exact ⟨_, structuredType_eq_ok_iff.mpr ⟨ps, base?, key, hps, hbase?, hkey, rfl⟩, hbase,
      htargets⟩

theorem container_accepted_iff (htable : table.Textual) (hd : d.Shaped) {r : Recognised}
    (hr : r ∈ recognised d) (hkind : r.kind = .container) :
    (∃ t, containerType table r.qualified r.members = .ok t ∧ t.Refers d) ↔
      r.Accepted d table := by
  rw [Recognised.accepted_iff_of_container hkind,
    ← container_elements_accepted_iff htable (hd.members r hr) (hd.types r hr)]
  constructor
  · rintro ⟨t, ht, _, htargets⟩
    obtain ⟨ps, hps, rfl⟩ := containerType_eq_ok_iff.mp ht
    exact ⟨ps, hps, htargets⟩
  · rintro ⟨ps, hps, htargets⟩
    exact ⟨_, containerType_eq_ok_iff.mpr ⟨ps, hps, rfl⟩, (fun _ h => nomatch h), htargets⟩

/-- A recognised member declares a type whose references lead somewhere, if its own references lead
where they have to. -/
theorem member_accepted_iff (htable : table.Textual) (hd : d.Shaped) {r : Recognised}
    (hr : r ∈ recognised d) : (∃ t, Gives table r t ∧ t.Refers d) ↔ r.Accepted d table := by
  have hstructured := structured_accepted_iff htable hd hr
  have hplain : r.isStructured = false → r.kind ≠ .container → r.Accepted d table :=
    Recognised.accepted_of_plain
  unfold Gives typeOfKind
  cases hkind : r.kind with
  | container => exact container_accepted_iff htable hd hr hkind
  | entity =>
    rw [hkind] at hstructured
    exact hstructured (by rw [Recognised.isStructured, hkind]; rfl)
  | complex =>
    rw [hkind] at hstructured
    exact hstructured (by rw [Recognised.isStructured, hkind]; rfl)
  | enum =>
    refine iff_of_true ⟨_, rfl, fun _ h => (nomatch h), List.forall_mem_nil _⟩ ?_
    exact hplain (by rw [Recognised.isStructured, hkind]; rfl) (by rw [hkind]; decide)
  | primitive =>
    refine iff_of_true ⟨_, rfl, fun _ h => (nomatch h), List.forall_mem_nil _⟩ ?_
    exact hplain (by rw [Recognised.isStructured, hkind]; rfl) (by rw [hkind]; decide)

/-! ## Documents -/

theorem containerName_eq_ok_iff (htable : table.Textual)
    (hd : textAt "$EntityContainer" d = true) {name : String} :
    containerName table d = .ok name ↔ ∃ reference q,
      Keyed.get? "$EntityContainer" d = some (.text reference) ∧ reference ≠ "" ∧
        table.Expands reference q ∧ name = q.join := by
  unfold containerName
  rcases setMember?_of_textAt hd with hnone | ⟨s, hs, hfound, hset⟩
  · rw [hnone]
    constructor
    · intro h
      cases h
    · rintro ⟨reference, q, hfound, hreference, _⟩
      rw [setMember?_text_iff.mpr ⟨hfound, hreference⟩] at hnone
      cases hnone
  · rw [hset]
    change table.resolve s = .ok name ↔ _
    simp only [AliasTable.resolve_eq_ok_iff htable, hfound, Option.some.injEq, Value.scalar.injEq,
      Scalar.text.injEq]
    constructor
    · rintro ⟨q, hq, rfl⟩
      exact ⟨s, q, rfl, hs, hq, rfl⟩
    · rintro ⟨_, q, rfl, _, hq, rfl⟩
      exact ⟨q, hq, rfl⟩

section Declared

variable {declared : List SchemaType} (hgives : List.Forall₂ (Gives table) (recognised d) declared)
  (hdistinct : ((recognised d).map Recognised.qualified).Nodup)

include hgives hdistinct

theorem tableOf_declared : tableOf declared = declared.map fun t => (t.name, t) :=
  tableOf_eq_map (names_of_gives hgives ▸ hdistinct)

theorem has_declared_iff {name : String} :
    (tableOf declared).has name = true ↔ d.Declares name := by
  have hnames : (tableOf declared).names = (recognised d).map Recognised.qualified := by
    rw [tableOf_declared hgives hdistinct, ← names_of_gives hgives, Table.names, List.map_map]
    rfl
  rw [Table.has_iff, ← Table.mem_names_iff, hnames, List.mem_map]
  rfl

theorem checkReferences_declared_iff {t : SchemaType} :
    checkReferences (tableOf declared) t = .ok () ↔ t.Refers d := by
  rw [checkReferences_eq_ok_iff]
  simp only [Bool.or_eq_true, has_declared_iff hgives hdistinct]
  rfl

theorem declaresContainer_declared_iff {name : String} :
    declaresContainer (tableOf declared) name = true ↔
      ∃ r ∈ recognised d, r.qualified = name ∧ r.kind = .container := by
  have hnodup : (tableOf declared).names.Nodup := Table.nodup_names_ofList _
  simp only [declaresContainer, Option.any_eq_true, Table.get?_eq_some_iff hnodup, beq_iff_eq]
  rw [tableOf_declared hgives hdistinct]
  constructor
  · rintro ⟨c, hc, hkind⟩
    obtain ⟨t, ht, he⟩ := List.mem_map.mp hc
    cases he
    obtain ⟨r, hr, hgive⟩ := (Shuffled.of_forall₂ hgives.flip).exists_mem ht
    have hreads := reads_of_gives hgive
    exact ⟨r, hr, hreads.name.symm, hreads.kind ▸ hkind⟩
  · rintro ⟨r, hr, rfl, hkind⟩
    obtain ⟨t, ht, hgive⟩ := (Shuffled.of_forall₂ hgives).exists_mem hr
    have hreads := reads_of_gives hgive
    exact ⟨t, List.mem_map.mpr ⟨t, ht, by rw [hreads.name]⟩, hreads.kind.trans hkind⟩

end Declared

theorem readable_of_shaped (hd : d.Shaped) : ∀ s ∈ objectsAmong isReserved d, Readable s :=
  fun s hs => ⟨hd.schemas s hs, fun o ho => exists_kindOf (hd.kinds s hs o ho)⟩

/-- The members of a document in the usual shape declare types whose references lead somewhere, if
their own references lead where they have to. -/
theorem declarations_accepted_iff (htable : table.Textual) (hd : d.Shaped) :
    (∃ declared, declarations table (objectsAmong isReserved d) = .ok declared ∧
      ∀ t ∈ (tableOf declared).values, checkReferences (tableOf declared) t = .ok ()) ↔
      ∀ r ∈ recognised d, r.Accepted d table := by
  have hsame : ∀ declared, List.Forall₂ (Gives table) (recognised d) declared →
      ((∀ t ∈ (tableOf declared).values, checkReferences (tableOf declared) t = .ok ()) ↔
        ∀ t ∈ declared, t.Refers d) := by
    intro declared hgives
    have hvalues : (tableOf declared).values = declared := by
      rw [tableOf_declared hgives hd.distinct, Table.values, List.map_map]
      exact List.map_id declared
    simp only [hvalues, checkReferences_declared_iff hgives hd.distinct]
  calc _ ↔ ∃ declared, List.Forall₂ (Gives table) (recognised d) declared ∧
        ∀ t ∈ declared, t.Refers d := by
        refine exists_congr fun declared => ?_
        rw [declarations_eq_ok_iff_forall₂, and_iff_right (readable_of_shaped hd)]
        exact and_congr_right (hsame declared)
    _ ↔ ∀ r ∈ recognised d, ∃ t, Gives table r t ∧ t.Refers d := exists_forall₂_iff
    _ ↔ _ := forall₂_congr fun r hr => member_accepted_iff htable hd hr

/-- **What extraction accepts.** Of the documents in the usual shape it accepts those whose entity
container is declared under a name with a namespace and whose references lead where they have to. It
refuses all others. -/
theorem extract_accepts_iff (hd : d.Shaped) (version : String) :
    ∃ table, AliasTable.ofDocument d = .ok table ∧
      ((∃ m, extract version d = .ok m) ↔
        d.Accepted table ∧ ∃ q, d.ContainerIs table q ∧ q.space ≠ "") ∧
      ((¬ ∃ m, extract version d = .ok m) → ∃ why, extract version d = .error (.document why)) := by
  obtain ⟨table, htable, htextual⟩ := exists_table_of_shaped hd
  refine ⟨table, htable, ⟨?_, ?_⟩, ?_⟩
  · rintro ⟨m, hm⟩
    obtain ⟨table', container, declaring, declared, q', htable', hcontainer, hdeclaring, hdeclared,
      hdeclares, hcheck, hread, _⟩ := extract_eq_ok_iff.mp hm
    rw [htable] at htable'
    cases htable'
    obtain ⟨_, rfl⟩ := schemas_eq_ok_iff_named.mp hdeclaring
    obtain ⟨reference, q, hfound, hreference, hq, rfl⟩ :=
      (containerName_eq_ok_iff htextual hd.container).mp hcontainer
    have hgives := (declarations_eq_ok_iff_forall₂.mp hdeclared).2
    have his : d.ContainerIs table q := ⟨reference, hfound, hreference, hq,
      (declaresContainer_declared_iff hgives hd.distinct).mp hdeclares⟩
    exact ⟨⟨⟨q, his⟩, (declarations_accepted_iff htextual hd).mp ⟨declared, hdeclared, hcheck⟩⟩,
      q, his, hq.read_iff.mp ⟨q', hread⟩⟩
  · rintro ⟨haccepted, q, ⟨reference, hfound, hreference, hq, hcontainer⟩, hspace⟩
    obtain ⟨declared, hdeclared, hcheck⟩ :=
      (declarations_accepted_iff htextual hd).mpr haccepted.members
    have hgives := (declarations_eq_ok_iff_forall₂.mp hdeclared).2
    obtain ⟨q', hread⟩ := hq.read_iff.mpr hspace
    have hname : containerName table d = .ok q.join :=
      (containerName_eq_ok_iff htextual hd.container).mpr ⟨reference, q, hfound, hreference, hq, rfl⟩
    exact ⟨_, extract_eq_ok_iff.mpr ⟨table, q.join, _, declared, q', htable, hname,
      schemas_eq_ok_iff_named.mpr ⟨hd.named, rfl⟩, hdeclared,
      (declaresContainer_declared_iff hgives hd.distinct).mpr hcontainer, hcheck, hread, rfl⟩⟩
  · intro hno
    cases h : extract version d with
    | ok m => exact absurd ⟨m, h⟩ hno
    | error failure =>
      obtain ⟨why, rfl⟩ := (extract_refuses hd version).2 failure h
      exact ⟨why, rfl⟩

theorem catalogue_accepted : Document.Shaped catalogue ∧
    ∃ table, AliasTable.ofDocument catalogue = .ok table ∧
      ((∃ m, extract "4.0" catalogue = .ok m) ↔ catalogue.Accepted table ∧
        ∃ q, catalogue.ContainerIs table q ∧ q.space ≠ "") ∧
      catalogue.Accepted table := by
  have hshaped : Document.Shaped catalogue := by decide
  obtain ⟨table, htable, hiff, _⟩ := extract_accepts_iff hshaped "4.0"
  exact ⟨hshaped, table, htable, hiff, (hiff.mp exists_model_of_catalogue).1⟩

/-- A document whose only schema has an alias and no name. -/
def namelessSchema : Document :=
  [(.text "$EntityContainer", .text "a.root"),
   (.text "", .object
     [(.text "$Alias", .text "a"),
      (.text "root", .object [(.text "$Kind", .text "EntityContainer")])])]

/-- An entity container is refused where its namespace has no name, though it is declared and all
references lead where they have to. -/
theorem nameless_container_refused : Document.Shaped namelessSchema ∧
    (∃ table, AliasTable.ofDocument namelessSchema = .ok table ∧ namelessSchema.Accepted table) ∧
    extract "4.0" namelessSchema = .error (.document (.unqualifiedName ".root")) := by
  refine ⟨by decide, ⟨_, rfl, ⟨⟨"", "root"⟩, ?_⟩, ?_⟩, rfl⟩
  · exact ⟨"a.root", rfl, by decide, ⟨"a", rfl, rfl⟩, _, List.mem_singleton_self _, rfl, rfl⟩
  · intro r hr
    obtain rfl := List.mem_singleton.mp hr
    refine ⟨fun h => ?_, fun h => ?_, fun h => ?_, fun _ e he => ?_⟩
    · cases h
    · cases h
    · cases h
    · cases he

end CsdlRoutes.Schema
