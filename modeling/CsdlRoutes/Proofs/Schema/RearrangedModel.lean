import CsdlRoutes.Proofs.Schema.ExtractedModel
import CsdlRoutes.Proofs.Schema.ReorderedTypes

/-!
# Models of rearranged documents

Extraction accepts a rearranged document with the document itself, and the two models have the same
types under the same names, except for the order of types and properties. Two schemas may declare a
type of the same name; then the later one counts in both documents, since the schemas keep their
order.

* `Model.Reordered`: the same model, except for the order.
* `extract_rearranged`: the model of a rearranged document.
* `orderly_of_extract`: the types of the model of a document.
-/

namespace CsdlRoutes.Schema

/-- The same model with its types and their properties in another order. -/
structure Model.Reordered (m m' : Model) : Prop where
  version : m.version = m'.version
  space : m.space = m'.space
  entityContainer : m.entityContainer = m'.entityContainer
  types : ∀ name, Option.Rel SchemaType.Reordered (m.types.get? name) (m'.types.get? name)

variable {table : AliasTable}

/-! ## Members of a schema -/

/-- The type that an object declares, given its name. -/
def typeStep (table : AliasTable) (space : String) :
    Option (String × Members) → Except Failure (Option SchemaType)
  | none => .ok none
  | some (name, member) => do
    match ← kindOf member with
    | some kind => return some (← typeOfKind table (space ++ "." ++ name) kind member)
    | none => return none

theorem typeOf_eq (table : AliasTable) (space : String) (key : Scalar) (v : Value) :
    typeOf table space key v =
      objectStep (fun name => isReserved name || isAnnotation name) (key, v) >>=
        typeStep table space := by
  unfold typeOf objectStep
  rw [bind_assoc]
  refine bind_congr fun name => ?_
  rw [pure_bind]
  unfold objectOf
  dsimp only
  generalize v.bare = w
  by_cases hskipped : (isReserved name || isAnnotation name) = true
  · simp only [hskipped, if_true]
    cases w <;> rfl
  · simp only [hskipped]
    cases w <;> rfl

theorem typeStep_eq_some {space : String} {s : String × Members} {t : SchemaType}
    (h : typeStep table space (some s) = .ok (some t)) :
    ∃ kind, kindOf s.2 = .ok (some kind) ∧
      typeOfKind table (space ++ "." ++ s.1) kind s.2 = .ok t := by
  obtain ⟨kind?, hkind, h⟩ := bind_eq_ok.mp h
  cases kind? with
  | none => cases h
  | some kind =>
    obtain ⟨u, hu, h⟩ := bind_eq_ok.mp h
    cases h
    exact ⟨kind, hkind, hu⟩

theorem typeStep_perm {space name : String} {ms ns : Members} (h : ms.Perm ns) (hms : ms.Distinct)
    {o : Option SchemaType} (ho : typeStep table space (some (name, ms)) = .ok o) :
    ∃ o', typeStep table space (some (name, ns)) = .ok o' ∧
      Option.Rel SchemaType.Reordered o o' := by
  rw [typeStep] at ho ⊢
  rw [← kindOf_eq_of_perm h hms]
  obtain ⟨kind?, hkind, ho⟩ := bind_eq_ok.mp ho
  rw [hkind, ok_bind]
  cases kind? with
  | none =>
    cases ho
    exact ⟨none, rfl, .none⟩
  | some kind =>
    obtain ⟨t, ht, ho⟩ := bind_eq_ok.mp ho
    cases ho
    obtain ⟨u, hu, hreordered⟩ := typeOfKind_perm h hms ht
    exact ⟨some u, by simp only [hu]; rfl, .some hreordered⟩

theorem typeOf_aligned {space : String} {a b : Scalar × Value} (h : Aligned List.Perm a b)
    (ha : a.2.members.Distinct) {o : Option SchemaType} (ho : typeOf table space a.1 a.2 = .ok o) :
    ∃ o', typeOf table space b.1 b.2 = .ok o' ∧ Option.Rel SchemaType.Reordered o o' := by
  rw [typeOf_eq] at ho ⊢
  obtain ⟨s, hs, ho⟩ := bind_eq_ok.mp ho
  obtain ⟨s', hs', hrel⟩ := objectStep_aligned List.Perm.refl h hs
  rw [hs', ok_bind]
  cases hrel with
  | none =>
    cases ho
    exact ⟨none, rfl, .none⟩
  | @some s s' hsame =>
    obtain ⟨name, ms⟩ := s
    obtain ⟨name', ns⟩ := s'
    obtain ⟨rfl, hperm⟩ := hsame
    obtain ⟨_, _, hobject⟩ := objectStep_eq_ok_iff.mp hs
    obtain ⟨_, _, hbare⟩ := objectOf_eq_some_iff.mp hobject.symm
    rw [Value.members_of_bare hbare] at ha
    exact typeStep_perm hperm ha ho

theorem typeOf_eq_some {space : String} {key : Scalar} {v : Value}
    {t : SchemaType} (h : typeOf table space key v = .ok (some t)) :
    ∃ name, key = .text name ∧ ∃ kind,
      typeOfKind table (space ++ "." ++ name) kind v.members = .ok t := by
  rw [typeOf_eq] at h
  obtain ⟨s, hs, h⟩ := bind_eq_ok.mp h
  cases s with
  | none => cases h
  | some s =>
    obtain ⟨name, hname, hobject⟩ := objectStep_eq_ok_iff.mp hs
    obtain ⟨_, rfl, hbare⟩ := objectOf_eq_some_iff.mp hobject.symm
    obtain ⟨kind, _, hkind⟩ := typeStep_eq_some h
    exact ⟨s.1, hname, kind, by rw [Value.members_of_bare hbare]; exact hkind⟩

/-! ## Schemas -/

/-- The types that a schema declares. -/
def declaredIn (table : AliasTable) (schema : String × Members) :
    Except Failure (List SchemaType) := do
  return (← schema.2.mapM fun member => typeOf table schema.1 member.1 member.2).reduceOption

/-- The types of a document are those of its schemas, one schema after the other. -/
theorem declarations_eq_ok_iff {declaring : List (String × Members)} {declared : List SchemaType} :
    declarations table declaring = .ok declared ↔
      ∃ parts, declaring.mapM (declaredIn table) = .ok parts ∧ parts.flatten = declared := by
  unfold declarations
  induction declaring generalizing declared with
  | nil =>
    constructor
    · intro h
      cases h
      exact ⟨[], rfl, rfl⟩
    · rintro ⟨parts, hparts, rfl⟩
      cases hparts
      rfl
  | cons schema rest ih =>
    simp only [List.flatMap_cons, List.mapM_append, List.mapM_map, bind_assoc, bind_eq_ok,
      List.mapM_cons, declaredIn] at ih ⊢
    constructor
    · rintro ⟨os, hos, os', hos', _, happend, h⟩
      cases happend
      cases h
      obtain ⟨parts, hparts, hflatten⟩ := ih.mp ⟨os', hos', rfl⟩
      refine ⟨_, ⟨os, hos, _, rfl, parts, hparts, rfl⟩, ?_⟩
      rw [List.flatten_cons, hflatten, List.reduceOption_append]
    · rintro ⟨_, ⟨os, hos, _, hpart, parts, hparts, h⟩, rfl⟩
      cases hpart
      cases h
      obtain ⟨os', hos', h⟩ := ih.mpr ⟨parts, hparts, rfl⟩
      refine ⟨os, hos, os', hos', _, rfl, ?_⟩
      rw [List.reduceOption_append, List.flatten_cons, ← Except.ok.inj h]
      rfl

theorem declaredIn_eq_ok_iff {schema : String × Members} {declared : List SchemaType} :
    declaredIn table schema = .ok declared ↔
      ∃ os, schema.2.mapM (fun member => typeOf table schema.1 member.1 member.2) = .ok os ∧
        os.reduceOption = declared := by
  rw [declaredIn, bind_eq_ok]
  constructor
  · rintro ⟨os, hos, h⟩
    cases h
    exact ⟨os, hos, rfl⟩
  · rintro ⟨os, hos, rfl⟩
    exact ⟨os, hos, rfl⟩

/-- A rearranged schema declares the same types, shuffled. -/
theorem declaredIn_rearranged {space : String} {ms ns : Members} (h : SchemaRearranged ms ns)
    (hms : ∀ member ∈ ms, member.2.members.Distinct) {declared : List SchemaType}
    (hdeclared : declaredIn table (space, ms) = .ok declared) :
    ∃ declared', declaredIn table (space, ns) = .ok declared' ∧
      Shuffled SchemaType.Reordered declared declared' := by
  obtain ⟨os, hos, rfl⟩ := declaredIn_eq_ok_iff.mp hdeclared
  obtain ⟨os', hos', hrel⟩ := mapM_shuffled h
    (fun a ha b o hab ho => typeOf_aligned hab (hms a ha) ho) hos
  exact ⟨_, declaredIn_eq_ok_iff.mpr ⟨os', hos', rfl⟩, hrel.reduceOption⟩

/-- The types that a schema declares have distinct names. -/
theorem nodup_declaredIn {space : String} {ms : Members} (hms : ms.Distinct)
    {declared : List SchemaType} (h : declaredIn table (space, ms) = .ok declared) :
    (declared.map SchemaType.name).Nodup := by
  obtain ⟨os, hos, rfl⟩ := declaredIn_eq_ok_iff.mp h
  rw [List.Nodup, List.pairwise_map]
  refine pairwise_reduceOption ?_ (mapM_eq_ok.mp hos) (List.pairwise_map.mp hms)
  intro a a' t t' ht ht' hne he
  obtain ⟨name, hkey, _, hkind⟩ := typeOf_eq_some ht
  obtain ⟨name', hkey', _, hkind'⟩ := typeOf_eq_some ht'
  rw [name_of_typeOfKind hkind, name_of_typeOfKind hkind'] at he
  have hname : name = name' := by simpa using he
  exact hne (by rw [hkey, hkey', hname])

theorem orderly_of_declaredIn {space : String} {ms : Members}
    (hms : ∀ member ∈ ms, member.2.members.Distinct) {declared : List SchemaType}
    (h : declaredIn table (space, ms) = .ok declared) {t : SchemaType} (ht : t ∈ declared) :
    t.Orderly := by
  obtain ⟨os, hos, rfl⟩ := declaredIn_eq_ok_iff.mp h
  obtain ⟨member, hmember, hdeclared⟩ := exists_source (mapM_eq_ok.mp hos) ht
  obtain ⟨_, _, _, hkind⟩ := typeOf_eq_some hdeclared
  exact orderly_of_typeOfKind (hms member hmember) hkind

/-! ## Documents -/

theorem rel_tableOf {parts parts' : List (List SchemaType)}
    (h : List.Forall₂ (fun a b => Shuffled SchemaType.Reordered a b ∧
      (a.map SchemaType.name).Nodup) parts parts') (name : String) :
    Option.Rel SchemaType.Reordered ((tableOf parts.flatten).get? name)
      ((tableOf parts'.flatten).get? name) := by
  have hfold : ∀ {s s' : Table SchemaType},
      (∀ name, Option.Rel SchemaType.Reordered (s.get? name) (s'.get? name)) → ∀ name,
        Option.Rel SchemaType.Reordered
          (Table.get? name ((parts.flatten.map fun t => (t.name, t)).foldl
            (fun t (n, v) => t.put n v) s))
          (Table.get? name ((parts'.flatten.map fun t => (t.name, t)).foldl
            (fun t (n, v) => t.put n v) s')) := by
    induction h with
    | nil => exact fun hs => hs
    | @cons part part' rest rest' hpart _ ih =>
      intro s s' hs
      simp only [List.flatten_cons, List.map_append, List.foldl_append]
      refine ih (Table.rel_get?_foldl_put hs (hpart.1.map fun _ _ h => ⟨h.name, h⟩) ?_ ?_)
      · rw [Table.names, List.map_map]
        exact hpart.2
      · rw [Table.names, List.map_map]
        exact (hpart.1.perm_map fun _ _ h => h.name).nodup_iff.mp hpart.2
  exact hfold (fun _ => .none) name

theorem declarations_rearranged {declaring declaring' : List (String × Members)}
    (h : List.Forall₂ (fun s s' => s.1 = s'.1 ∧ SchemaRearranged s.2 s'.2) declaring declaring')
    (hproper : ∀ s ∈ declaring, s.2.Distinct ∧ ∀ member ∈ s.2, member.2.members.Distinct)
    {declared : List SchemaType} (hdeclared : declarations table declaring = .ok declared) :
    ∃ declared', declarations table declaring' = .ok declared' ∧ ∀ name,
      Option.Rel SchemaType.Reordered ((tableOf declared).get? name)
        ((tableOf declared').get? name) := by
  obtain ⟨parts, hparts, rfl⟩ := declarations_eq_ok_iff.mp hdeclared
  obtain ⟨parts', hparts', hrel⟩ := mapM_related
    (Q := fun a b => Shuffled SchemaType.Reordered a b ∧ (a.map SchemaType.name).Nodup) h (by
      rintro ⟨space, ms⟩ hs ⟨_, ns⟩ part ⟨rfl, hrearranged⟩ hpart
      obtain ⟨hms, hmembers⟩ := hproper _ hs
      obtain ⟨part', hpart', hshuffled⟩ := declaredIn_rearranged hrearranged hmembers hpart
      exact ⟨part', hpart', hshuffled, nodup_declaredIn hms hpart⟩) hparts
  exact ⟨_, declarations_eq_ok_iff.mpr ⟨parts', hparts', rfl⟩, rel_tableOf hrel⟩

theorem proper_of_schemas {d : Document} (hd : Document.Proper d)
    {declaring : List (String × Members)} (h : schemas d = .ok declaring) :
    ∀ s ∈ declaring, s.2.Distinct ∧ ∀ member ∈ s.2, member.2.members.Distinct := by
  intro s hs
  obtain ⟨entry, hentry, hmembers⟩ := mem_of_mem_schemas h hs
  exact hmembers ▸ hd entry hentry

theorem checkReferences_reordered {types types' : Table SchemaType}
    (htypes : ∀ name, Option.Rel SchemaType.Reordered (types.get? name) (types'.get? name))
    {t t' : SchemaType} (h : t.Reordered t') (ht : checkReferences types t = .ok ()) :
    checkReferences types' t' = .ok () := by
  obtain ⟨hbase, htargets⟩ := checkReferences_eq_ok_iff.mp ht
  refine checkReferences_eq_ok_iff.mpr ⟨?_, ?_⟩
  · intro base hbase'
    rw [← Table.has_eq_of_rel (htypes base)]
    exact hbase base (h.base?.trans hbase')
  · intro p hp
    rw [← Table.has_eq_of_rel (htypes p.typeName)]
    exact htargets p (h.properties.mem_iff.mpr hp)

theorem declaresContainer_reordered {types types' : Table SchemaType} {name : String}
    (h : Option.Rel SchemaType.Reordered (types.get? name) (types'.get? name)) :
    declaresContainer types name = declaresContainer types' name := by
  have hany : ∀ {o o' : Option SchemaType}, Option.Rel SchemaType.Reordered o o' →
      o.any (·.kind == .container) = o'.any (·.kind == .container) := by
    intro o o' h
    cases h with
    | none => rfl
    | some h => simp [h.kind]
  exact hany h

/-- Extraction accepts a rearranged document, and the model is the same except for the order. -/
theorem extract_rearranged {version : String} {d d' : Document} (h : Document.Rearranged d d')
    (hd : Document.Proper d) {m : Model} (hm : extract version d = .ok m) :
    ∃ m', extract version d' = .ok m' ∧ m.Reordered m' := by
  obtain ⟨table, container, declaring, declared, q, htable, hcontainer, hdeclaring, hdeclared,
    hdeclares, hcheck, hq, rfl⟩ := extract_eq_ok_iff.mp hm
  obtain ⟨declaring', hdeclaring', hrel⟩ := schemas_rearranged h hdeclaring
  obtain ⟨declared', hdeclared', htypes⟩ :=
    declarations_rearranged hrel (proper_of_schemas hd hdeclaring) hdeclared
  have hcontainer' : containerName table d' = .ok container := by
    unfold containerName setMember? at hcontainer ⊢
    rw [← get?_of_aligned h rfl]
    exact hcontainer
  refine ⟨⟨version, q.space, tableOf declared', container⟩, ?_, rfl, rfl, rfl, htypes⟩
  refine extract_eq_ok_iff.mpr ⟨table, container, declaring', declared', q,
    ofDocument_rearranged h hd htable, hcontainer', hdeclaring', hdeclared', ?_, ?_, hq, rfl⟩
  · rw [← declaresContainer_reordered (htypes container)]
    exact hdeclares
  · intro t' ht'
    obtain ⟨name, hentry⟩ := Table.mem_values.mp ht'
    have hfound := (Table.get?_eq_some_iff (Table.nodup_names_ofList _)).mpr hentry
    have hrelated := rel_symm (fun _ _ h => SchemaType.Reordered.symm h) (htypes name)
    rw [tableOf, hfound] at hrelated
    obtain ⟨t, ht, hreordered⟩ := exists_of_rel_some hrelated
    exact checkReferences_reordered htypes hreordered.symm
      (hcheck t (Table.mem_values.mpr ⟨name, Table.mem_of_get? ht⟩))

/-- The types of the model of a document declare their properties themselves, each under a name of
its own. -/
theorem orderly_of_extract {version : String} {d : Document} (hd : Document.Proper d) {m : Model}
    (hm : extract version d = .ok m) : ∀ t ∈ m.types.values, t.Orderly := by
  obtain ⟨table, container, declaring, declared, q, _, _, hdeclaring, hdeclared, _, _, _, rfl⟩ :=
    extract_eq_ok_iff.mp hm
  intro t ht
  obtain ⟨name, hentry⟩ := Table.mem_values.mp ht
  obtain ⟨parts, hparts, rfl⟩ := declarations_eq_ok_iff.mp hdeclared
  obtain ⟨part, hpart, htpart⟩ := List.mem_flatten.mp (name_of_mem_tableOf hentry).2
  obtain ⟨⟨space, ms⟩, hs, hdeclaredIn⟩ :=
    (Shuffled.of_forall₂ (mapM_eq_ok.mp hparts).flip).exists_mem hpart
  exact orderly_of_declaredIn (proper_of_schemas hd hdeclaring _ hs).2 hdeclaredIn htpart

end CsdlRoutes.Schema
