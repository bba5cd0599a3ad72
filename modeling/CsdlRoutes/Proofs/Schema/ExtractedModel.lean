import CsdlRoutes.Proofs.Schema.Closed
import CsdlRoutes.Schema.Extraction

/-!
# Models of documents are closed

Extraction puts each type under its own name, asks that each base type is declared and that each
target is declared or primitive, and asks that the container is declared. Looking up a type later
asks the same of its name, so the model of a document is closed and has a container, whatever the
shape of the inheritance and wherever the types are declared.

* `checkReferences_eq_ok_iff`: what the check of a type accepts.
* `extract_eq_ok_iff`: the steps of extraction.
* `closed_of_extract`, `exists_rootContainer_of_extract`: what holds of the model.
-/

namespace CsdlRoutes.Schema

/-! ## The check of references -/

/-- A loop that refuses the first item that does not pass succeeds when all items pass. -/
theorem forIn_check_eq_ok_iff {α : Type} {passes : α → Bool} {refusal : α → Failure}
    {items : List α} {u : PUnit} :
    (forIn items PUnit.unit fun a _ =>
        if passes a = true then (pure (ForInStep.yield PUnit.unit) : Except Failure _)
        else do
          throw (refusal a)
          pure (ForInStep.yield PUnit.unit)) = .ok u ↔
      ∀ a ∈ items, passes a = true := by
  induction items with
  | nil =>
    constructor
    · intro _ a ha
      cases ha
    · intro _
      rfl
  | cons a rest ih =>
    rw [List.forIn_cons]
    by_cases ha : passes a = true
    · rw [if_pos ha]
      change (forIn rest PUnit.unit _ : Except Failure PUnit) = .ok u ↔ _
      rw [ih]
      simp [ha]
    · rw [if_neg ha]
      constructor
      · intro h
        cases h
      · intro h
        exact absurd (h a List.mem_cons_self) ha

theorem forM_eq_ok_iff {α : Type} {f : α → Except Failure Unit} {items : List α} {u : Unit} :
    items.forM f = .ok u ↔ ∀ a ∈ items, f a = .ok () := by
  induction items with
  | nil =>
    constructor
    · intro _ a ha
      cases ha
    · intro _
      rfl
  | cons a rest ih =>
    change (f a >>= fun _ => rest.forM f) = .ok u ↔ _
    rw [bind_eq_ok, List.forall_mem_cons]
    constructor
    · rintro ⟨_, ha, hrest⟩
      exact ⟨ha, ih.mp hrest⟩
    · rintro ⟨ha, hrest⟩
      exact ⟨(), ha, ih.mpr hrest⟩

/-- The check of a type accepts it when its base type is declared and each of its targets is
declared or primitive. -/
theorem checkReferences_eq_ok_iff {types : Table SchemaType} {t : SchemaType} {u : Unit} :
    checkReferences types t = .ok u ↔
      (∀ base, t.base? = some base → types.has base = true) ∧
        ∀ p ∈ t.properties, (types.has p.typeName || isPrimitive p.typeName) = true := by
  have htargets : ∀ u : Unit, (do
      forIn t.properties PUnit.unit fun p _ =>
        if (types.has p.typeName || isPrimitive p.typeName) = true then
          (pure (ForInStep.yield PUnit.unit) : Except Failure _)
        else do
          throw (.document (.undeclaredType p.typeName p.canonicalName))
          pure (ForInStep.yield PUnit.unit)
      pure () : Except Failure Unit) = .ok u ↔
        ∀ p ∈ t.properties, (types.has p.typeName || isPrimitive p.typeName) = true := by
    intro u
    rw [bind_eq_ok]
    constructor
    · rintro ⟨_, h, _⟩
      exact forIn_check_eq_ok_iff.mp h
    · intro h
      exact ⟨PUnit.unit, forIn_check_eq_ok_iff.mpr h, rfl⟩
  unfold checkReferences
  cases hbase : t.base? with
  | none => simpa using htargets u
  | some base =>
    by_cases hdeclared : types.has base = true
    · simpa [hdeclared] using htargets u
    · simp only [hdeclared]
      constructor
      · intro h
        cases h
      · rintro ⟨h, _⟩
        exact absurd (h base rfl) hdeclared

/-! ## The steps of extraction -/

/-- What the declared types of a document make up. -/
def tableOf (declared : List SchemaType) : Table SchemaType :=
  Table.ofList (declared.map fun t => (t.name, t))

theorem extract_eq_ok_iff {version : String} {document : Document} {m : Model} :
    extract version document = .ok m ↔
      ∃ table container declaring declared q,
        AliasTable.ofDocument document = .ok table ∧ containerName table document = .ok container ∧
        schemas document = .ok declaring ∧ declarations table declaring = .ok declared ∧
        declaresContainer (tableOf declared) container = true ∧
        (∀ t ∈ (tableOf declared).values, checkReferences (tableOf declared) t = .ok ()) ∧
        QualifiedName.read container = .ok q ∧
        m = ⟨version, q.space, tableOf declared, container⟩ := by
  unfold extract
  simp only [bind_eq_ok]
  constructor
  · rintro ⟨table, htable, container, hcontainer, declaring, hdeclaring, declared, hdeclared, h⟩
    split at h
    · rename_i hdeclares
      obtain ⟨_, hcheck, h⟩ := bind_eq_ok.mp h
      obtain ⟨q, hq, h⟩ := bind_eq_ok.mp h
      cases h
      exact ⟨table, container, declaring, declared, q, htable, hcontainer, hdeclaring, hdeclared,
        hdeclares, forM_eq_ok_iff.mp hcheck, hq, rfl⟩
    · cases h
  · rintro ⟨table, container, declaring, declared, q, htable, hcontainer, hdeclaring, hdeclared,
      hdeclares, hcheck, hq, rfl⟩
    refine ⟨table, htable, container, hcontainer, declaring, hdeclaring, declared, hdeclared, ?_⟩
    have hdeclares :
        declaresContainer (Table.ofList (declared.map fun t => (t.name, t))) container = true :=
      hdeclares
    rw [if_pos hdeclares]
    exact bind_eq_ok.mpr ⟨(), forM_eq_ok_iff.mpr hcheck, bind_eq_ok.mpr ⟨q, hq, rfl⟩⟩

/-! ## The model -/

theorem name_of_mem_tableOf {declared : List SchemaType} {entry : String × SchemaType}
    (h : entry ∈ tableOf declared) : entry.2.name = entry.1 ∧ entry.2 ∈ declared := by
  obtain ⟨t, ht, rfl⟩ := List.mem_map.mp (Table.mem_of_mem_ofList h)
  exact ⟨rfl, ht⟩

/-- The model of a document is closed. -/
theorem closed_of_extract {version : String} {document : Document} {m : Model}
    (h : extract version document = .ok m) : m.Closed := by
  obtain ⟨table, container, declaring, declared, q, _, _, _, _, _, hcheck, _, rfl⟩ :=
    extract_eq_ok_iff.mp h
  refine ⟨fun entry hentry => (name_of_mem_tableOf hentry).1, ?_, ?_⟩
  · intro t ht base hbase
    have hdeclared := (checkReferences_eq_ok_iff.mp (hcheck t ht)).1 base hbase
    exact Model.exists_getType_iff.mpr (by rw [hdeclared, Bool.true_or])
  · intro t ht p hp
    exact Model.exists_getType_iff.mpr ((checkReferences_eq_ok_iff.mp (hcheck t ht)).2 p hp)

/-- The model of a document has an entity container. -/
theorem exists_rootContainer_of_extract {version : String} {document : Document} {m : Model}
    (h : extract version document = .ok m) : ∃ c, m.rootContainer = .ok c := by
  obtain ⟨table, container, declaring, declared, q, _, _, _, _, hdeclares, _, _, rfl⟩ :=
    extract_eq_ok_iff.mp h
  unfold declaresContainer at hdeclares
  cases hc : (tableOf declared).get? container with
  | none =>
    rw [hc] at hdeclares
    cases hdeclares
  | some c =>
    rw [hc] at hdeclares
    have hkind : c.kind = .container := by simpa using hdeclares
    exact ⟨c, by simp [Model.rootContainer, hc, hkind]⟩

/-- No two types of the model of a document stand under one name. -/
theorem nodup_names_of_extract {version : String} {document : Document} {m : Model}
    (h : extract version document = .ok m) : m.types.names.Nodup := by
  obtain ⟨table, container, declaring, declared, q, _, _, _, _, _, _, _, rfl⟩ :=
    extract_eq_ok_iff.mp h
  exact Table.nodup_names_ofList _

end CsdlRoutes.Schema
