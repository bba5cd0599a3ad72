import CsdlRoutes.Proofs.Schema.Rearrangement
import CsdlRoutes.Schema.Extraction

/-!
# Types with their members in another order

An object that declares a type may have its members in any order. The order of the properties is all
that the type keeps of it. A type declares its properties itself, and no two of them have one name.

* `SchemaType.Reordered`: the same type with its properties in another order.
* `SchemaType.Orderly`: what holds of the properties of each declared type.
* `typeOfKind_perm`, `orderly_of_typeOfKind`: what an object of a kind declares.
-/

namespace CsdlRoutes.Schema

/-- The same type, with its properties in another order. -/
structure SchemaType.Reordered (t u : SchemaType) : Prop where
  name : t.name = u.name
  kind : t.kind = u.kind
  base? : t.base? = u.base?
  isAbstract : t.isAbstract = u.isAbstract
  key : t.key = u.key
  properties : t.properties.Perm u.properties

theorem SchemaType.Reordered.refl (t : SchemaType) : t.Reordered t :=
  ⟨rfl, rfl, rfl, rfl, rfl, .refl _⟩

theorem SchemaType.Reordered.symm {t u : SchemaType} (h : t.Reordered u) : u.Reordered t :=
  ⟨h.name.symm, h.kind.symm, h.base?.symm, h.isAbstract.symm, h.key.symm, h.properties.symm⟩

/-- A type declares its properties itself, each under a name of its own. -/
structure SchemaType.Orderly (t : SchemaType) : Prop where
  owned : ∀ p ∈ t.properties, p.declaringType = t.name
  distinct : (t.properties.map Property.name).Nodup

variable {table : AliasTable} {ms ns : Members}

/-! ## Members of a type -/

theorem flag_eq_of_perm (h : ms.Perm ns) (hms : ms.Distinct) (name : String) :
    flag name ms = flag name ns := by
  rw [flag, flag, Keyed.get?_eq_of_perm h hms]

theorem setMember?_eq_of_perm (h : ms.Perm ns) (hms : ms.Distinct) (name : String) :
    setMember? name ms = setMember? name ns := by
  rw [setMember?, setMember?, Keyed.get?_eq_of_perm h hms]

theorem kindOf_eq_of_perm (h : ms.Perm ns) (hms : ms.Distinct) : kindOf ms = kindOf ns := by
  rw [kindOf, kindOf, setMember?_eq_of_perm h hms]

theorem baseOf_eq_of_perm (h : ms.Perm ns) (hms : ms.Distinct) :
    baseOf table ms = baseOf table ns := by
  rw [baseOf, baseOf, setMember?_eq_of_perm h hms]

theorem keyNames_eq_of_perm (h : ms.Perm ns) (hms : ms.Distinct) : keyNames ms = keyNames ns := by
  rw [keyNames, keyNames, Keyed.get?_eq_of_perm h hms]

theorem namedObjects_eq_ok_iff {elements : List (String × Members)} :
    namedObjects ms = .ok elements ↔
      ∃ os, ms.mapM (objectStep fun name => isReserved name || isAnnotation name) = .ok os ∧
        os.reduceOption = elements :=
  collect_eq_ok_iff rfl fun _ _ _ => rfl

theorem namedObjects_perm (h : ms.Perm ns) {elements : List (String × Members)}
    (hms : namedObjects ms = .ok elements) :
    ∃ elements', namedObjects ns = .ok elements' ∧ elements.Perm elements' := by
  obtain ⟨os, hos, rfl⟩ := namedObjects_eq_ok_iff.mp hms
  obtain ⟨os', hos', hperm⟩ := mapM_perm (fun _ _ ho => ho) h hos
  exact ⟨_, namedObjects_eq_ok_iff.mpr ⟨os', hos', rfl⟩, hperm.filterMap id⟩

theorem nodup_namedObjects (hms : ms.Distinct) {elements : List (String × Members)}
    (h : namedObjects ms = .ok elements) : (elements.map Prod.fst).Nodup := by
  obtain ⟨os, hos, rfl⟩ := namedObjects_eq_ok_iff.mp h
  rw [List.Nodup, List.pairwise_map]
  refine pairwise_reduceOption ?_ (mapM_eq_ok.mp hos) (List.pairwise_map.mp hms)
  intro a a' s s' ha ha' hne he
  obtain ⟨name, hname, hs⟩ := objectStep_eq_ok_iff.mp ha
  obtain ⟨name', hname', hs'⟩ := objectStep_eq_ok_iff.mp ha'
  obtain ⟨_, rfl, _⟩ := objectOf_eq_some_iff.mp hs.symm
  obtain ⟨_, rfl, _⟩ := objectOf_eq_some_iff.mp hs'.symm
  exact hne (by rw [hname, hname', he])

/-! ## Properties -/

/-- A step that declares properties names them and puts down their owner. -/
def Declares (owner : String)
    (step : String → Members → Except Failure (Option Property)) : Prop :=
  ∀ name element p, step name element = .ok (some p) → p.name = name ∧ p.declaringType = owner

theorem propertyOf_declares (table : AliasTable) (owner : String) :
    Declares owner (propertyOf table owner) := by
  intro name element p h
  unfold propertyOf at h
  split at h
  · split at h
    · cases h
    · obtain ⟨target, _, h⟩ := bind_eq_ok.mp h
      cases h
      exact ⟨rfl, rfl⟩
  · obtain ⟨target, _, h⟩ := bind_eq_ok.mp h
    cases h
    exact ⟨rfl, rfl⟩
  · cases h

theorem resourceOf_declares (table : AliasTable) (owner : String) :
    Declares owner (resourceOf table owner) := by
  intro name element p h
  unfold resourceOf at h
  split at h
  · cases h
  · split at h
    · cases h
    · obtain ⟨target, _, h⟩ := bind_eq_ok.mp h
      cases h
      exact ⟨rfl, rfl⟩

/-- The properties that the members of a type declare by some step. -/
def propertiesBy (step : String → Members → Except Failure (Option Property)) (ms : Members) :
    Except Failure (List Property) := do
  let elements ← namedObjects ms
  return (← elements.mapM fun (name, element) => step name element).reduceOption

variable {step : String → Members → Except Failure (Option Property)}

theorem propertiesBy_perm (h : ms.Perm ns) {ps : List Property}
    (hps : propertiesBy step ms = .ok ps) :
    ∃ qs, propertiesBy step ns = .ok qs ∧ ps.Perm qs := by
  obtain ⟨elements, helements, hps⟩ := bind_eq_ok.mp hps
  obtain ⟨os, hos, hps⟩ := bind_eq_ok.mp hps
  cases hps
  obtain ⟨elements', helements', hperm⟩ := namedObjects_perm h helements
  obtain ⟨os', hos', hosperm⟩ := mapM_perm (fun _ _ ho => ho) hperm hos
  refine ⟨os'.reduceOption, ?_, hosperm.filterMap id⟩
  rw [propertiesBy, helements', ok_bind, hos', ok_bind]
  rfl

theorem owned_of_propertiesBy {owner : String} (hstep : Declares owner step) {ps : List Property}
    (h : propertiesBy step ms = .ok ps) : ∀ p ∈ ps, p.declaringType = owner := by
  intro p hp
  obtain ⟨elements, _, h⟩ := bind_eq_ok.mp h
  obtain ⟨os, hos, h⟩ := bind_eq_ok.mp h
  cases h
  obtain ⟨_, _, hdeclared⟩ := exists_source (mapM_eq_ok.mp hos) hp
  exact (hstep _ _ p hdeclared).2

theorem nodup_propertiesBy {owner : String} (hstep : Declares owner step) (hms : ms.Distinct)
    {ps : List Property} (h : propertiesBy step ms = .ok ps) : (ps.map Property.name).Nodup := by
  obtain ⟨elements, helements, h⟩ := bind_eq_ok.mp h
  obtain ⟨os, hos, h⟩ := bind_eq_ok.mp h
  cases h
  rw [List.Nodup, List.pairwise_map]
  refine pairwise_reduceOption ?_ (mapM_eq_ok.mp hos)
    (List.pairwise_map.mp (nodup_namedObjects hms helements))
  intro s s' p p' hp hp' hne he
  exact hne (by rw [← (hstep _ _ p hp).1, ← (hstep _ _ p' hp').1, he])

/-! ## Types -/

theorem structuredType_eq (name : String) (kind : TypeKind) (ms : Members) :
    structuredType table name kind ms = (do
      let ps ← propertiesBy (propertyOf table name) ms
      let base? ← baseOf table ms
      let key ← (if kind = .entity then keyNames ms else pure [])
      return ⟨name, kind, base?, flag "$Abstract" ms, key, ps⟩) := by
  unfold structuredType propertiesBy
  simp only [bind_assoc, pure_bind]
  by_cases hkind : kind = .entity
  · simp only [hkind, if_true]
  · simp only [hkind, if_false]
    rfl

theorem structuredType_eq_ok_iff {name : String} {kind : TypeKind} {t : SchemaType} :
    structuredType table name kind ms = .ok t ↔
      ∃ ps base? key, propertiesBy (propertyOf table name) ms = .ok ps ∧
        baseOf table ms = .ok base? ∧
        (if kind = .entity then keyNames ms else pure []) = .ok key ∧
        t = ⟨name, kind, base?, flag "$Abstract" ms, key, ps⟩ := by
  rw [structuredType_eq]
  simp only [bind_eq_ok]
  constructor
  · rintro ⟨ps, hps, base?, hbase, key, hkey, h⟩
    cases h
    exact ⟨ps, base?, key, hps, hbase, hkey, rfl⟩
  · rintro ⟨ps, base?, key, hps, hbase, hkey, rfl⟩
    exact ⟨ps, hps, base?, hbase, key, hkey, rfl⟩

theorem containerType_eq (name : String) (ms : Members) :
    containerType table name ms = (do
      let ps ← propertiesBy (resourceOf table name) ms
      return ⟨name, .container, none, false, [], ps⟩) := by
  unfold containerType propertiesBy
  simp only [bind_assoc, pure_bind]

theorem containerType_eq_ok_iff {name : String} {t : SchemaType} :
    containerType table name ms = .ok t ↔
      ∃ ps, propertiesBy (resourceOf table name) ms = .ok ps ∧
        t = ⟨name, .container, none, false, [], ps⟩ := by
  rw [containerType_eq, bind_eq_ok]
  refine exists_congr fun ps => and_congr_right fun _ => ?_
  exact ⟨fun h => (Except.ok.inj h).symm, fun h => congrArg Except.ok h.symm⟩

theorem structuredType_perm (h : ms.Perm ns) (hms : ms.Distinct) {name : String} {kind : TypeKind}
    {t : SchemaType} (ht : structuredType table name kind ms = .ok t) :
    ∃ u, structuredType table name kind ns = .ok u ∧ t.Reordered u := by
  obtain ⟨ps, base?, key, hps, hbase, hkey, rfl⟩ := structuredType_eq_ok_iff.mp ht
  obtain ⟨qs, hqs, hperm⟩ := propertiesBy_perm h hps
  rw [baseOf_eq_of_perm h hms] at hbase
  rw [keyNames_eq_of_perm h hms] at hkey
  rw [flag_eq_of_perm h hms]
  exact ⟨_, structuredType_eq_ok_iff.mpr ⟨qs, base?, key, hqs, hbase, hkey, rfl⟩,
    rfl, rfl, rfl, rfl, rfl, hperm⟩

theorem containerType_perm (h : ms.Perm ns) {name : String} {t : SchemaType}
    (ht : containerType table name ms = .ok t) :
    ∃ u, containerType table name ns = .ok u ∧ t.Reordered u := by
  obtain ⟨ps, hps, rfl⟩ := containerType_eq_ok_iff.mp ht
  obtain ⟨qs, hqs, hperm⟩ := propertiesBy_perm h hps
  exact ⟨_, containerType_eq_ok_iff.mpr ⟨qs, hqs, rfl⟩, rfl, rfl, rfl, rfl, rfl, hperm⟩

theorem typeOfKind_perm (h : ms.Perm ns) (hms : ms.Distinct) {name : String} {kind : TypeKind}
    {t : SchemaType} (ht : typeOfKind table name kind ms = .ok t) :
    ∃ u, typeOfKind table name kind ns = .ok u ∧ t.Reordered u := by
  cases kind with
  | entity => exact structuredType_perm h hms ht
  | complex => exact structuredType_perm h hms ht
  | container => exact containerType_perm h ht
  | enum => exact ⟨t, ht, .refl t⟩
  | primitive => exact ⟨t, ht, .refl t⟩

theorem name_of_typeOfKind {name : String} {kind : TypeKind} {t : SchemaType}
    (h : typeOfKind table name kind ms = .ok t) : t.name = name := by
  cases kind with
  | entity =>
    obtain ⟨_, _, _, _, _, _, rfl⟩ := structuredType_eq_ok_iff.mp h
    rfl
  | complex =>
    obtain ⟨_, _, _, _, _, _, rfl⟩ := structuredType_eq_ok_iff.mp h
    rfl
  | container =>
    obtain ⟨_, _, rfl⟩ := containerType_eq_ok_iff.mp h
    rfl
  | enum =>
    cases h
    rfl
  | primitive =>
    cases h
    rfl

theorem orderly_of_structuredType (hms : ms.Distinct) {name : String} {kind : TypeKind}
    {t : SchemaType} (h : structuredType table name kind ms = .ok t) : t.Orderly := by
  obtain ⟨ps, base?, key, hps, _, _, rfl⟩ := structuredType_eq_ok_iff.mp h
  have hdeclares := propertyOf_declares table name
  exact ⟨owned_of_propertiesBy hdeclares hps, nodup_propertiesBy hdeclares hms hps⟩

theorem orderly_of_no_properties {t : SchemaType} (h : t.properties = []) : t.Orderly :=
  ⟨by simp [h], by simp [h]⟩

theorem orderly_of_typeOfKind (hms : ms.Distinct) {name : String} {kind : TypeKind}
    {t : SchemaType} (h : typeOfKind table name kind ms = .ok t) : t.Orderly := by
  cases kind with
  | entity => exact orderly_of_structuredType hms h
  | complex => exact orderly_of_structuredType hms h
  | container =>
    obtain ⟨ps, hps, rfl⟩ := containerType_eq_ok_iff.mp h
    have hdeclares := resourceOf_declares table name
    exact ⟨owned_of_propertiesBy hdeclares hps, nodup_propertiesBy hdeclares hms hps⟩
  | enum =>
    cases h
    exact orderly_of_no_properties rfl
  | primitive =>
    cases h
    exact orderly_of_no_properties rfl

end CsdlRoutes.Schema
