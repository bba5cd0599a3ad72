import CsdlRoutes.Proofs.Schema.DeclaredProperties
import CsdlRoutes.Proofs.Schema.ReorderedGraph

/-!
# Models represent their documents

A document whose recognised members have distinct names is represented by its model: nothing that
declares a type or a property is lost, nothing is there twice or in another order, and what the
later steps rely on holds. The types are declared under their own names, the properties name their
owners, all references lead somewhere, and the canonical name of a property tells it from all
others.

* `Model.Represents` relates a model to a document.
* `distinct_canonicalNames`: canonical names are distinct unless a name has a slash.
* `extract_represents`: the model of a document represents it.
-/

namespace CsdlRoutes.Schema

/-- A model has one type for each recognised member of a document and one property for each object
in it that declares one, in document order, and everything that they refer to. -/
structure Model.Represents (m : Model) (d : Document) : Prop where
  types : List.Forall₂ (fun entry r => entry.1 = r.qualified ∧ entry.2.Reads r) m.types
    (recognised d)
  names : m.types.names.Nodup
  named : ∀ entry ∈ m.types, entry.2.name = entry.1
  owned : ∀ t ∈ m.types.values, ∀ p ∈ t.properties, p.declaringType = t.name
  bases : ∀ t ∈ m.types.values, ∀ base, t.base? = some base → base ∈ m.types.names
  targets : ∀ p, m.Declared p → p.typeName ∈ m.types.names ∨ isPrimitive p.typeName = true
  contained : ∀ p, m.Declared p → p.containsTarget = true → p.isNavigation = true
  container : ∃ c, m.types.get? m.entityContainer = some c ∧ c.kind = .container ∧
    ∀ p ∈ c.properties, m.isReference p = false
  identified : (∀ p, m.Declared p → '/' ∉ p.name.toList) →
    ((m.types.values.flatMap (·.properties)).map Property.canonicalName).Nodup

variable {m : Model} {d : Document} {version : String}

/-! ## Canonical names -/

theorem distinct_names_of_values (hnames : m.types.names.Nodup)
    (hnamed : ∀ entry ∈ m.types, entry.2.name = entry.1) :
    (m.types.values.map SchemaType.name).Nodup := by
  have hsame : m.types.values.map SchemaType.name = m.types.names := by
    rw [Table.values, Table.names, List.map_map]
    exact List.map_congr_left hnamed
  rw [hsame]
  exact hnames

/-- The properties of a model have distinct canonical names, unless one of their names has a
slash. -/
theorem distinct_canonicalNames (hnames : (m.types.values.map SchemaType.name).Nodup)
    (horderly : ∀ t ∈ m.types.values, t.Orderly)
    (hslash : ∀ p, m.Declared p → '/' ∉ p.name.toList) :
    ((m.types.values.flatMap (·.properties)).map Property.canonicalName).Nodup := by
  rw [List.map_flatMap, List.nodup_flatMap]
  refine ⟨fun t ht => ?_, ?_⟩
  · -- within a type the names differ, between types the owners do
    have hdistinct := (horderly t ht).distinct
    rw [List.Nodup, List.pairwise_map] at hdistinct ⊢
    refine hdistinct.imp_of_mem fun hp hq hne hsame => hne ?_
    exact (Property.eq_of_canonicalName_eq (hslash _ ⟨t, ht, hp⟩) (hslash _ ⟨t, ht, hq⟩) hsame).2
  · rw [List.Nodup, List.pairwise_map] at hnames
    refine hnames.imp_of_mem fun {t u} ht hu hne => ?_
    intro name hnamet hnameu
    obtain ⟨p, hp, rfl⟩ := List.mem_map.mp hnamet
    obtain ⟨q, hq, hsame⟩ := List.mem_map.mp hnameu
    have howner := (Property.eq_of_canonicalName_eq (hslash q ⟨u, hu, hq⟩) (hslash p ⟨t, ht, hp⟩)
      hsame).1
    rw [(horderly u hu).owned q hq, (horderly t ht).owned p hp] at howner
    exact hne howner.symm

/-! ## Types -/

/-- The table of declared types with distinct names lists them in their order. -/
theorem tableOf_eq_map {declared : List SchemaType} (h : (declared.map SchemaType.name).Nodup) :
    tableOf declared = declared.map fun t => (t.name, t) := by
  refine Table.ofList_eq_self ?_
  rw [List.map_map]
  exact h

theorem names_of_gives {table : AliasTable} {rs : List Recognised} {declared : List SchemaType}
    (h : List.Forall₂ (Gives table) rs declared) :
    declared.map SchemaType.name = rs.map Recognised.qualified := by
  rw [← List.forall₂_eq_eq_eq, List.forall₂_map_left_iff, List.forall₂_map_right_iff]
  exact (h.imp fun _ _ hgives => (reads_of_gives hgives).name).flip

/-- Whatever the kind, a property that contains its target is a navigation property. -/
theorem Property.Reads.contained {p : Property} {r : Recognised} {e : String × Members}
    (h : p.Reads r e) (hcontains : p.containsTarget = true) : p.isNavigation = true := by
  rw [h.containsTarget] at hcontains
  rw [h.isNavigation]
  rcases Bool.or_eq_true_iff.mp hcontains with hroot | hboth
  · rw [hroot, Bool.true_or]
  · rw [(Bool.and_eq_true_iff.mp hboth).1, Bool.or_true]

/-- **The model of a document represents it**, if the names of its recognised members are
distinct. -/
theorem extract_represents (hd : Document.Proper d)
    (hdistinct : ((recognised d).map Recognised.qualified).Nodup)
    (hm : extract version d = .ok m) : m.Represents d := by
  have hclosed := closed_of_extract hm
  have hnames := nodup_names_of_extract hm
  have horderly := orderly_of_extract hd hm
  obtain ⟨table, container, declaring, declared, q, _, _, hdeclaring, hdeclared, _, hcheck, _,
    rfl⟩ := extract_eq_ok_iff.mp hm
  obtain ⟨_, rfl⟩ := schemas_eq_ok_iff_named.mp hdeclaring
  have hgives := (declarations_eq_ok_iff_forall₂.mp hdeclared).2
  have hsame := names_of_gives hgives
  have hentries : tableOf declared = declared.map fun t => (t.name, t) :=
    tableOf_eq_map (hsame ▸ hdistinct)
  have hreads : List.Forall₂ (fun entry r => entry.1 = r.qualified ∧ entry.2.Reads r)
      (tableOf declared) (recognised d) := by
    rw [hentries, List.forall₂_map_left_iff]
    refine (hgives.imp fun _ _ hgives => ?_).flip
    have hread := reads_of_gives hgives
    exact ⟨hread.name, hread⟩
  -- the order of the types comes from the document, all else from the checks of extraction
  have hhas : ∀ name, (tableOf declared).has name = true → name ∈ (tableOf declared).names :=
    fun name h => Table.mem_names_iff.mpr (Table.has_iff.mp h)
  refine ⟨hreads, hnames, hclosed.named, fun t ht => (horderly t ht).owned, ?_, ?_, ?_, ?_, ?_⟩
  · intro t ht base hbase
    exact hhas base ((checkReferences_eq_ok_iff.mp (hcheck t ht)).1 base hbase)
  · rintro p ⟨t, ht, hp⟩
    have htarget := (checkReferences_eq_ok_iff.mp (hcheck t ht)).2 p hp
    exact (Bool.or_eq_true_iff.mp htarget).imp_left (hhas p.typeName)
  · rintro p ⟨t, ht, hp⟩
    obtain ⟨name, hentry⟩ := Table.mem_values.mp ht
    obtain ⟨r, _, _, hread⟩ := (Shuffled.of_forall₂ hreads).exists_mem hentry
    obtain ⟨e, _, hreadp⟩ := (Shuffled.of_forall₂ hread.properties).exists_mem hp
    exact hreadp.contained
  · obtain ⟨c, hc⟩ := exists_rootContainer_of_extract hm
    obtain ⟨hfound, hkind⟩ := Model.rootContainer_eq_ok hc
    refine ⟨c, hfound, hkind, fun p hp => ?_⟩
    have hvalue := Table.mem_values.mpr ⟨_, Table.mem_of_get? hfound⟩
    have howner := (horderly c hvalue).owned p hp
    rw [hclosed.name_of_get? hfound] at howner
    simp [Model.isReference, howner]
  · exact distinct_canonicalNames (distinct_names_of_values hnames hclosed.named) horderly

theorem catalogue_represented :
    Document.Proper catalogue ∧ ((recognised catalogue).map Recognised.qualified).Nodup ∧
      ∃ m, extract "4.0" catalogue = .ok m ∧ m.Represents catalogue := by
  have hproper : Document.Proper catalogue := by decide
  have hdistinct : ((recognised catalogue).map Recognised.qualified).Nodup := by decide
  obtain ⟨m, hm⟩ := exists_model_of_catalogue
  exact ⟨hproper, hdistinct, m, hm, extract_represents hproper hdistinct hm⟩

end CsdlRoutes.Schema
