import CsdlRoutes.Proofs.Schema.RecognisedMembers

/-!
# What a type declares

Which objects in an object that declares a type declare a property depends on the kind of the type.
In an entity or complex type these are the structural and the navigation properties; in an entity
container they are all objects that do not import an operation. Each of them declares one property,
and the properties of the type keep their order.

* `Recognised.elements` lists the objects that declare properties.
* `SchemaType.Reads` relates a type to the object that declares it.
* `propertyOf_navigation_iff`, `propertyOf_structural_iff`, `resourceOf_iff`: what one object
  declares.
* `structuredProperties_iff`, `containerProperties_iff`: what the objects in one object declare.
* `reads_of_gives`: a type reads the object that declares it.
-/

namespace CsdlRoutes.Schema

/-- Whether a member of a structured type declares a property. -/
def declaresProperty (element : Members) : Bool :=
  (Keyed.get? "$Kind" element).all fun v =>
    v == .text "Property" || v == .text "NavigationProperty"

/-- The objects in an object of a kind that declare properties, in document order. -/
def Recognised.elements (r : Recognised) : List (String × Members) :=
  match r.kind with
  | .entity | .complex => (objectsAmong isAside r.members).filter fun e => declaresProperty e.2
  | .container => (objectsAmong isAside r.members).filter fun e => !isOperationImport e.2
  | .enum | .primitive => []

/-- A property is the one that an element declares. The members of a container lead on to resources
of their own; elsewhere the kind tells. -/
structure Property.Reads (p : Property) (r : Recognised) (e : String × Members) : Prop where
  name : p.name = e.1
  declaringType : p.declaringType = r.qualified
  isCollection : p.isCollection = flag "$Collection" e.2
  isNavigation : p.isNavigation =
    (r.kind == .container || hasText "$Kind" "NavigationProperty" e.2)
  containsTarget : p.containsTarget = (r.kind == .container ||
    (hasText "$Kind" "NavigationProperty" e.2 && flag "$ContainsTarget" e.2))

/-- A type is the one that an object declares. -/
structure SchemaType.Reads (t : SchemaType) (r : Recognised) : Prop where
  name : t.name = r.qualified
  kind : t.kind = r.kind
  properties : List.Forall₂ (fun p e => p.Reads r e) t.properties r.elements

variable {table : AliasTable}

/-! ## One property -/

/-- A member of a structured type is a navigation property, a structural property or neither. -/
theorem memberKind_cases (e : Members) :
    (MemberKind.of e = .navigation ∧ hasText "$Kind" "NavigationProperty" e = true ∧
      declaresProperty e = true) ∨
    (MemberKind.of e = .structural ∧ hasText "$Kind" "NavigationProperty" e = false ∧
      declaresProperty e = true) ∨
    ((∃ v, MemberKind.of e = .other v) ∧ declaresProperty e = false) := by
  unfold MemberKind.of hasText declaresProperty
  cases Keyed.get? "$Kind" e with
  | none => exact Or.inr (Or.inl ⟨rfl, rfl, rfl⟩)
  | some v =>
    by_cases hnavigation : v = .text "NavigationProperty"
    · subst hnavigation
      exact Or.inl ⟨rfl, rfl, rfl⟩
    · by_cases hstructural : v = .text "Property"
      · subst hstructural
        exact Or.inr (Or.inl ⟨rfl, rfl, rfl⟩)
      · exact Or.inr (Or.inr ⟨⟨v, by simp [hnavigation, hstructural]⟩,
          by simp [hnavigation, hstructural]⟩)

theorem declaresProperty_of_navigation {e : Members}
    (h : hasText "$Kind" "NavigationProperty" e = true) : declaresProperty e = true := by
  rcases memberKind_cases e with ⟨_, _, hdeclares⟩ | ⟨_, _, hdeclares⟩ | ⟨⟨v, hkind⟩, _⟩
  · exact hdeclares
  · exact hdeclares
  · have hfound : Keyed.get? "$Kind" e = some (.text "NavigationProperty") := by
      simpa [hasText] using h
    rw [MemberKind.of, hfound] at hkind
    cases hkind

/-- A property that leads where a reference does. -/
theorem leads_iff {reference? : Option Value} {failure : Failure} {property : String → Property}
    {p : Property} :
    (match reference? with
      | none => .error failure
      | some reference => do
        let target ← table.resolveValue reference
        return some (property target) : Except Failure (Option Property)) = .ok (some p) ↔
      ∃ reference target, reference? = some reference ∧
        table.resolveValue reference = .ok target ∧ p = property target := by
  constructor
  · intro h
    cases reference? with
    | none => cases h
    | some reference =>
      obtain ⟨target, htarget, h⟩ := bind_eq_ok.mp h
      cases h
      exact ⟨reference, target, rfl, htarget, rfl⟩
  · rintro ⟨reference, target, rfl, htarget, rfl⟩
    exact bind_eq_ok.mpr ⟨target, htarget, rfl⟩

theorem propertyOf_navigation_iff {owner name : String} {e : Members} {p : Property}
    (h : hasText "$Kind" "NavigationProperty" e = true) :
    propertyOf table owner name e = .ok (some p) ↔
      ∃ reference target, setMember? "$Type" e = some reference ∧
        table.resolveValue reference = .ok target ∧
        p = ⟨name, owner, target, flag "$Collection" e, true, flag "$ContainsTarget" e⟩ := by
  rcases memberKind_cases e with ⟨hkind, _⟩ | ⟨_, hother, _⟩ | ⟨_, hskips⟩
  · rw [propertyOf, hkind]
    exact leads_iff
  · rw [hother] at h
    cases h
  · rw [declaresProperty_of_navigation h] at hskips
    cases hskips

theorem propertyOf_structural_iff {owner name : String} {e : Members} {p : Property}
    (h : hasText "$Kind" "NavigationProperty" e = false) (hdeclares : declaresProperty e = true) :
    propertyOf table owner name e = .ok (some p) ↔
      ∃ target, structuralTarget table e = .ok target ∧
        p = ⟨name, owner, target, flag "$Collection" e, false, false⟩ := by
  rcases memberKind_cases e with ⟨_, hother, _⟩ | ⟨hkind, _⟩ | ⟨_, hskips⟩
  · rw [hother] at h
    cases h
  · rw [propertyOf, hkind]
    simp only [bind_eq_ok]
    constructor
    · rintro ⟨target, htarget, h⟩
      cases h
      exact ⟨target, htarget, rfl⟩
    · rintro ⟨target, htarget, rfl⟩
      exact ⟨target, htarget, rfl⟩
  · rw [hskips] at hdeclares
    cases hdeclares

theorem resourceOf_iff {owner name : String} {e : Members} {p : Property}
    (h : isOperationImport e = false) :
    resourceOf table owner name e = .ok (some p) ↔
      ∃ reference target, setMember? "$Type" e = some reference ∧
        table.resolveValue reference = .ok target ∧
        p = ⟨name, owner, target, flag "$Collection" e, true, true⟩ := by
  rw [resourceOf, if_neg (by simp [h])]
  exact leads_iff

theorem propertyOf_skips {owner name : String} {e : Members} (h : declaresProperty e = false) :
    propertyOf table owner name e = .ok none := by
  rcases memberKind_cases e with ⟨_, _, hcounts⟩ | ⟨_, _, hcounts⟩ | ⟨⟨v, hkind⟩, _⟩
  · rw [hcounts] at h
    cases h
  · rw [hcounts] at h
    cases h
  · rw [propertyOf, hkind]

/-- A step whose result is put into `some` leaves something behind. -/
theorem bind_some_ne_none {α β : Type} (x : Except Failure α) (f : α → β) :
    (do let a ← x; return some (f a) : Except Failure (Option β)) ≠ .ok none := by
  intro h
  obtain ⟨_, _, h⟩ := bind_eq_ok.mp h
  cases h

theorem propertyOf_keeps {owner name : String} {e : Members} (h : declaresProperty e = true) :
    propertyOf table owner name e ≠ .ok none := by
  rcases memberKind_cases e with ⟨hkind, _⟩ | ⟨hkind, _⟩ | ⟨_, hskips⟩
  · rw [propertyOf, hkind]
    dsimp only
    split
    · exact fun hnone => nomatch hnone
    · exact bind_some_ne_none _ _
  · rw [propertyOf, hkind]
    exact bind_some_ne_none _ _
  · rw [hskips] at h
    cases h

theorem resourceOf_skips {owner name : String} {e : Members} (h : (!isOperationImport e) = false) :
    resourceOf table owner name e = .ok none := by
  rw [resourceOf, if_pos (by simpa using h)]

theorem resourceOf_keeps {owner name : String} {e : Members} (h : (!isOperationImport e) = true) :
    resourceOf table owner name e ≠ .ok none := by
  rw [resourceOf, if_neg (by simpa using h)]
  split
  · exact fun hnone => nomatch hnone
  · exact bind_some_ne_none _ _

theorem propertyOf_reads {r : Recognised} (hkind : r.kind ≠ .container) {e : String × Members}
    {p : Property} (h : propertyOf table r.qualified e.1 e.2 = .ok (some p)) : p.Reads r e := by
  have hno : (r.kind == .container) = false := by simpa using hkind
  cases hnavigation : hasText "$Kind" "NavigationProperty" e.2 with
  | true =>
    obtain ⟨_, _, _, _, rfl⟩ := (propertyOf_navigation_iff hnavigation).mp h
    exact ⟨rfl, rfl, rfl, by simp [hnavigation], by simp [hno, hnavigation]⟩
  | false =>
    cases hdeclares : declaresProperty e.2 with
    | false =>
      rw [propertyOf_skips hdeclares] at h
      cases h
    | true =>
      obtain ⟨_, _, rfl⟩ := (propertyOf_structural_iff hnavigation hdeclares).mp h
      exact ⟨rfl, rfl, rfl, by simp [hno, hnavigation], by simp [hno, hnavigation]⟩

theorem resourceOf_reads {r : Recognised} (hkind : r.kind = .container) {e : String × Members}
    {p : Property} (h : resourceOf table r.qualified e.1 e.2 = .ok (some p)) : p.Reads r e := by
  cases himport : isOperationImport e.2 with
  | true =>
    rw [resourceOf_skips (by simp [himport])] at h
    cases h
  | false =>
    obtain ⟨_, _, _, _, rfl⟩ := (resourceOf_iff himport).mp h
    exact ⟨rfl, rfl, rfl, by simp [hkind], by simp [hkind]⟩

/-! ## All properties -/

/-- A step that leaves something behind just for what counts. -/
theorem counted_iff {α β : Type} {f : α → Except Failure (Option β)} {counts : α → Bool}
    (hskip : ∀ a, counts a = false → f a = .ok none)
    (hkeep : ∀ a, counts a = true → f a ≠ .ok none) (a : α) (o : Option β) :
    f a = .ok o ↔
      True ∧ Option.Rel (fun a b => f a = .ok (some b)) (Option.guard counts a) o := by
  rw [true_and]
  cases hcounts : counts a with
  | false =>
    rw [hskip a hcounts, Option.guard, hcounts]
    constructor
    · intro h
      cases h
      exact .none
    · intro h
      cases h
      rfl
  | true =>
    rw [Option.guard, hcounts]
    constructor
    · intro h
      cases o with
      | none => exact absurd h (hkeep a hcounts)
      | some b => exact .some h
    · intro h
      cases h with
      | some hb => exact hb

theorem propertiesBy_eq_ok_iff_forall₂
    {step : String → Members → Except Failure (Option Property)} {counts : Members → Bool}
    (hskip : ∀ name e, counts e = false → step name e = .ok none)
    (hkeep : ∀ name e, counts e = true → step name e ≠ .ok none) {ms : Members}
    {ps : List Property} :
    propertiesBy step ms = .ok ps ↔ Named ms ∧
      List.Forall₂ (fun e p => step e.1 e.2 = .ok (some p))
        ((objectsAmong isAside ms).filter fun e => counts e.2) ps := by
  have hsteps : (∃ os, (objectsAmong isAside ms).mapM (fun e => step e.1 e.2) = .ok os ∧
      os.reduceOption = ps) ↔ List.Forall₂ (fun e p => step e.1 e.2 = .ok (some p))
        ((objectsAmong isAside ms).filter fun e => counts e.2) ps := by
    have hstep := counted_iff (f := fun e : String × Members => step e.1 e.2)
      (fun e => hskip e.1 e.2) fun e => hkeep e.1 e.2
    rw [mapM_reduceOption_iff hstep, List.filterMap_eq_filter]
    exact and_iff_right fun _ _ => trivial
  rw [propertiesBy, bind_eq_ok]
  simp only [namedObjects_eq_ok_iff_named, bind_eq_ok]
  constructor
  · rintro ⟨_, ⟨hnamed, rfl⟩, os, hos, h⟩
    cases h
    exact ⟨hnamed, hsteps.mp ⟨os, hos, rfl⟩⟩
  · rintro ⟨hnamed, hrels⟩
    obtain ⟨os, hos, rfl⟩ := hsteps.mpr hrels
    exact ⟨_, ⟨hnamed, rfl⟩, os, hos, rfl⟩

/-- The steps for the properties of a structured type. -/
theorem structuredProperties_iff {owner : String} {ms : Members} {ps : List Property} :
    propertiesBy (propertyOf table owner) ms = .ok ps ↔ Named ms ∧
      List.Forall₂ (fun e p => propertyOf table owner e.1 e.2 = .ok (some p))
        ((objectsAmong isAside ms).filter fun e => declaresProperty e.2) ps :=
  propertiesBy_eq_ok_iff_forall₂ (fun _ _ => propertyOf_skips) (fun _ _ => propertyOf_keeps)

/-- The steps for the members of the entity container. -/
theorem containerProperties_iff {owner : String} {ms : Members} {ps : List Property} :
    propertiesBy (resourceOf table owner) ms = .ok ps ↔ Named ms ∧
      List.Forall₂ (fun e p => resourceOf table owner e.1 e.2 = .ok (some p))
        ((objectsAmong isAside ms).filter fun e => !isOperationImport e.2) ps :=
  propertiesBy_eq_ok_iff_forall₂ (fun _ _ => resourceOf_skips) (fun _ _ => resourceOf_keeps)

/-! ## Types -/

theorem reads_of_gives {r : Recognised} {t : SchemaType} (h : Gives table r t) : t.Reads r := by
  obtain ⟨space, name, kind, ms⟩ := r
  have hstructured : ∀ kind, kind ≠ .container → kind = .entity ∨ kind = .complex →
      structuredType table (space ++ "." ++ name) kind ms = .ok t →
      t.Reads ⟨space, name, kind, ms⟩ := by
    intro kind hno hkind h
    obtain ⟨ps, base?, key, hps, _, _, rfl⟩ := structuredType_eq_ok_iff.mp h
    refine ⟨rfl, rfl, ?_⟩
    have helements : (Recognised.mk space name kind ms).elements =
        (objectsAmong isAside ms).filter fun e => declaresProperty e.2 := by
      rcases hkind with rfl | rfl <;> rfl
    rw [helements]
    exact ((structuredProperties_iff.mp hps).2.imp fun e p hp =>
      propertyOf_reads (r := ⟨space, name, kind, ms⟩) hno hp).flip
  cases kind with
  | entity => exact hstructured .entity (by decide) (.inl rfl) h
  | complex => exact hstructured .complex (by decide) (.inr rfl) h
  | container =>
    obtain ⟨ps, hps, rfl⟩ := containerType_eq_ok_iff.mp h
    refine ⟨rfl, rfl, ?_⟩
    exact ((containerProperties_iff.mp hps).2.imp fun e p hp =>
      resourceOf_reads (r := ⟨space, name, .container, ms⟩) rfl hp).flip
  | enum =>
    cases h
    exact ⟨rfl, rfl, .nil⟩
  | primitive =>
    cases h
    exact ⟨rfl, rfl, .nil⟩

end CsdlRoutes.Schema
