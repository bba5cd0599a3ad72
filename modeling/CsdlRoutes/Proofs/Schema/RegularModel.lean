import CsdlRoutes.Proofs.Schema.BaseChain
import CsdlRoutes.Proofs.Schema.DeclaredProperties

/-!
# What models of documents have in common

Whatever a document declares twice or in a circle, its model is closed, its types own their
properties and have qualified names, base types are declared, and an entity container has none.

* `Model.Regular` states what holds of the model of a document.
* `regular_of_extract`: it does, and `baseless_of_extract` needs nothing of the document for its part.
* `Regular.value_of_extends`, `Regular.not_descends_container`: what derives from what.
-/

namespace CsdlRoutes.Schema

/-- What holds of the model of every document. -/
structure Model.Regular (m : Model) : Prop where
  closed : m.Closed
  names : m.types.names.Nodup
  orderly : ∀ t ∈ m.types.values, t.Orderly
  bases : ∀ t ∈ m.types.values, ∀ base, t.base? = some base → m.types.has base = true
  baseless : ∀ t ∈ m.types.values, t.kind = .container → t.base? = none
  qualified : ∀ t ∈ m.types.values, '.' ∈ t.name.toList
  container : ∃ c, m.rootContainer = .ok c

variable {table : AliasTable}

theorem baseless_of_gives {r : Recognised} {t : SchemaType} (h : Gives table r t)
    (hkind : t.kind = .container) : t.base? = none := by
  have hsame := (reads_of_gives h).kind
  rw [hkind] at hsame
  rw [Gives, ← hsame] at h
  obtain ⟨_, _, rfl⟩ := containerType_eq_ok_iff.mp h
  rfl

theorem qualified_of_gives {r : Recognised} {t : SchemaType} (h : Gives table r t) :
    '.' ∈ t.name.toList := by
  rw [(reads_of_gives h).name, Recognised.qualified]
  simp

/-- Each type of a model is what some declaration in the document gives. -/
theorem exists_gives_of_extract {version : String} {d : Document} {m : Model}
    (hm : extract version d = .ok m) : ∃ table, ∀ t ∈ m.types.values, ∃ r, Gives table r t := by
  obtain ⟨table, container, declaring, declared, q, _, _, _, hdeclared, _, _, _, rfl⟩ :=
    extract_eq_ok_iff.mp hm
  refine ⟨table, fun t ht => ?_⟩
  obtain ⟨name, hentry⟩ := Table.mem_values.mp ht
  have hrels := (declarations_eq_ok_iff_forall₂.mp hdeclared).2
  obtain ⟨r, _, hr⟩ := (Shuffled.of_forall₂ hrels.flip).exists_mem (name_of_mem_tableOf hentry).2
  exact ⟨r, hr⟩

theorem baseless_of_extract {version : String} {d : Document} {m : Model}
    (hm : extract version d = .ok m) :
    ∀ t ∈ m.types.values, t.kind = .container → t.base? = none := by
  intro t ht
  obtain ⟨table, hgives⟩ := exists_gives_of_extract hm
  obtain ⟨r, hr⟩ := hgives t ht
  exact baseless_of_gives hr

theorem regular_of_extract {version : String} {d : Document} {m : Model} (hd : Document.Proper d)
    (hm : extract version d = .ok m) : m.Regular := by
  refine ⟨closed_of_extract hm, nodup_names_of_extract hm, orderly_of_extract hd hm, ?_,
    baseless_of_extract hm, ?_, exists_rootContainer_of_extract hm⟩
  · obtain ⟨table, container, declaring, declared, q, _, _, _, _, _, hcheck, _, rfl⟩ :=
      extract_eq_ok_iff.mp hm
    exact fun t ht => (checkReferences_eq_ok_iff.mp (hcheck t ht)).1
  · intro t ht
    obtain ⟨table, hgives⟩ := exists_gives_of_extract hm
    obtain ⟨r, hr⟩ := hgives t ht
    exact qualified_of_gives hr

/-- Where containers have no base types, the entity container is not a subtype of any type. -/
theorem Model.Grounded.not_descends_container {m : Model} (hm : m.Grounded)
    (hnames : m.types.names.Nodup)
    (hbaseless : ∀ t ∈ m.types.values, t.kind = .container → t.base? = none) {c : SchemaType}
    (hc : m.rootContainer = .ok c) {name : String} :
    ¬ Relation.TransGen m.Extends name c.name := by
  intro h
  obtain ⟨hfound, hkind⟩ := rootContainer_eq_ok hc
  obtain ⟨base, _, hstep⟩ := Relation.TransGen.tail'_iff.mp h
  obtain ⟨u, hu, hname, hbase⟩ := exists_value_of_extends hstep
  obtain rfl : u = c :=
    hm.eq_of_name_eq (knows_of_mem_values hnames hu) (knows_rootContainer hc) hname
  rw [hbaseless u hu hkind] at hbase
  cases hbase

namespace Model.Regular

variable {m : Model}

theorem eq_of_mem_properties (hm : m.Regular) {t : SchemaType} (ht : t ∈ m.types.values)
    {p q : Property} (hp : p ∈ t.properties) (hq : q ∈ t.properties) (h : p.name = q.name) :
    p = q := List.inj_on_of_nodup_map (hm.orderly t ht).distinct hp hq h

theorem knows_of_value (hm : m.Regular) {t : SchemaType} (ht : t ∈ m.types.values) :
    m.Knows t := knows_of_mem_values hm.names ht

/-- Only declared types have subtypes. -/
theorem value_of_extends (hm : m.Regular) {t : SchemaType} (ht : m.Knows t) {name : String}
    (h : m.Extends t.name name) : t ∈ m.types.values := by
  obtain ⟨u, hu, _, hbase⟩ := exists_value_of_extends h
  obtain ⟨b, hb⟩ := Table.has_iff.mp (hm.bases u hu _ hbase)
  have hfound := getType_of_get? hb
  rw [hm.closed.grounded.getType_name ht] at hfound
  cases hfound
  exact Table.mem_values.mpr ⟨_, Table.mem_of_get? hb⟩

/-- The entity container is not a subtype of any type. -/
theorem not_descends_container (hm : m.Regular) {c : SchemaType} (hc : m.rootContainer = .ok c)
    {name : String} : ¬ Relation.TransGen m.Extends name c.name :=
  hm.closed.grounded.not_descends_container hm.names hm.baseless hc

end Model.Regular

end CsdlRoutes.Schema
