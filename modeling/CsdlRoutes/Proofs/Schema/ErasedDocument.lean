import CsdlRoutes.Proofs.Schema.DeclaredProperties

/-!
# What extraction does not look at

Annotations, operations, terms and whatever else is not modelled may be taken out of a document. What
is left has the same alias table, and the members of its schemas that were taken out declare no type.
The objects that stay declare the same, although much was taken out of them too. So extraction yields
the same model or the same failure.

Members whose names are no texts are left where they are, for it is they that extraction fails at. Of
the rest of a document nothing is assumed but that the kinds of the members of schemas are leaves.

* `Document.erase` takes out of a document what is not modelled.
* `get?_erasedBy`: what stands under a name that is kept.
* `namedObjects_erasedBy`: the objects that are left.
* `typeOf_remnant`: the type that a member of a schema declares.
* `extract_erase`: the models.
-/

namespace CsdlRoutes.Schema

/-! ## Erasure -/

/-- What is left of an object under a name, as its members tell. -/
def withPart (part : Members → Option Members) (s : String × Members) :
    Option (String × Members) := (part s.2).map fun ms => (s.1, ms)

/-- What is left of a member. It stays as it is if its name is kept, or is no text. Otherwise it is
taken out if its name is reserved or that of an annotation, or if it is no object, and what is left of
an object depends on its members. -/
def remnant (kept : List String) (part : Members → Option Members) (member : Scalar × Value) :
    Option (Scalar × Value) :=
  match member.1 with
  | .text name =>
    if name ∈ kept then some member
    else ((objectOf isAside name member.2).bind (withPart part)).map fun s =>
      (member.1, .object s.2)
  | _ => some member

/-- What is left of some members. -/
def erasedBy (kept : List String) (part : Members → Option Members) (ms : Members) : Members :=
  ms.filterMap (remnant kept part)

/-- The members with some names alone. -/
def keepOnly (kept : List String) (ms : Members) : Members := erasedBy kept (fun _ => none) ms

/-- The names that are looked at in the object of a property. -/
def propertyTerms : List String := ["$Kind", "$Type", "$Collection", "$ContainsTarget"]

/-- What is left of a member of a structured type, if it declares a property. -/
def eraseProperty (e : Members) : Option Members :=
  if declaresProperty e then some (keepOnly propertyTerms e) else none

/-- What is left of a member of a container, unless it imports an operation. -/
def eraseResource (e : Members) : Option Members :=
  if isOperationImport e then none else some (keepOnly propertyTerms e)

/-- What is left of an object that declares a type of a kind. -/
def eraseKind (ms : Members) : TypeKind → Members
  | .entity | .complex => erasedBy ["$Kind", "$BaseType", "$Abstract", "$Key"] eraseProperty ms
  | .container => erasedBy ["$Kind"] eraseResource ms
  | .enum | .primitive => keepOnly ["$Kind"] ms

/-- What is left of an object in a schema, if it declares a type. -/
def eraseType (ms : Members) : Option Members := (kindWord? ms).map (eraseKind ms)

/-- What is left of a schema. -/
def eraseSchema (ms : Members) : Members := erasedBy ["$Alias"] eraseType ms

/-- A member of a document in which what is not modelled is taken out if it is a schema. -/
def eraseMember (member : Scalar × Value) : Scalar × Value :=
  match objectAt isReserved member with
  | some s => (member.1, .object (eraseSchema s.2))
  | none => member

/-- A document without what is not modelled. -/
def Document.erase (d : Document) : Document := d.map eraseMember

/-- The kind of an object is a leaf, if it has one. -/
def hasPlainKind (ms : Members) : Bool :=
  match Keyed.get? "$Kind" ms with
  | none | some (.scalar _) => true
  | some _ => false

/-- The kinds of the objects in schemas are leaves. -/
def Document.PlainKinds (d : Document) : Prop :=
  ∀ s ∈ objectsAmong isReserved d, ∀ object ∈ objectsAmong isAside s.2, hasPlainKind object.2 = true

instance (d : Document) : Decidable d.PlainKinds :=
  inferInstanceAs (Decidable (∀ s ∈ _, ∀ object ∈ _, _ = true))

variable {table : AliasTable} {kept : List String} {part : Members → Option Members}
  {ms : Members} {name : String}

/-! ## What stands under a name -/

theorem remnant_of_text {member : Scalar × Value} (hkey : member.1 = .text name)
    (hname : name ∉ kept) : remnant kept part member =
      ((objectOf isAside name member.2).bind (withPart part)).map fun s =>
        (member.1, .object s.2) := by
  rw [remnant, hkey]
  exact if_neg hname

theorem remnant_of_mem {member : Scalar × Value} (hkey : member.1 = .text name)
    (hname : name ∈ kept) : remnant kept part member = some member := by
  rw [remnant, hkey]
  exact if_pos hname

theorem remnant_of_no_text {member : Scalar × Value} (h : ∀ name, member.1 ≠ .text name) :
    remnant kept part member = some member := by
  unfold remnant
  split
  · rename_i name hkey
    exact absurd hkey (h name)
  · rfl

theorem objectOf_of_aside (haside : isAside name = true) (v : Value) :
    objectOf isAside name v = none := by
  refine Option.eq_none_iff_forall_ne_some.mpr fun s hs => ?_
  rw [(objectOf_eq_some_iff.mp hs).1] at haside
  cases haside

/-- What is left of a member is the same member, whose name is no text or is kept, or an object with
what is left of its members. -/
theorem remnant_eq_some {member rest : Scalar × Value} (h : remnant kept part member = some rest) :
    (rest = member ∧ ∀ name, member.1 = .text name → name ∈ kept) ∨
    ∃ name ms ns, member.1 = .text name ∧ name ∉ kept ∧ isAside name = false ∧
      objectOf isAside name member.2 = some (name, ms) ∧ part ms = some ns ∧
      rest = (.text name, .object ns) := by
  by_cases htext : ∃ name, member.1 = .text name
  · obtain ⟨name, hkey⟩ := htext
    by_cases hname : name ∈ kept
    · rw [remnant_of_mem hkey hname] at h
      cases h
      refine Or.inl ⟨rfl, fun name' hkey' => ?_⟩
      rw [hkey] at hkey'
      cases hkey'
      exact hname
    · rw [remnant_of_text hkey hname] at h
      obtain ⟨s', hs', rfl⟩ := Option.map_eq_some_iff.mp h
      obtain ⟨⟨n, ms⟩, hobject, hpart⟩ := Option.bind_eq_some_iff.mp hs'
      obtain ⟨ns, hns, rfl⟩ := Option.map_eq_some_iff.mp hpart
      obtain ⟨haside, rfl, _⟩ := objectOf_eq_some_iff.mp hobject
      exact Or.inr ⟨n, ms, ns, hkey, hname, haside, hobject, hns, by rw [hkey]⟩
  · rw [remnant_of_no_text (not_exists.mp htext)] at h
    exact Or.inl ⟨(Option.some.inj h).symm, fun name hkey => absurd ⟨name, hkey⟩ htext⟩

theorem key_of_remnant {member rest : Scalar × Value} (h : remnant kept part member = some rest) :
    rest.1 = member.1 := by
  rcases remnant_eq_some h with ⟨rfl, _⟩ | ⟨name, ms, ns, hkey, _, _, _, _, rfl⟩
  · rfl
  · exact hkey.symm

/-- What stands under a name stays if its member does, and all others keep their names. -/
theorem get?_filterMap {f : Scalar × Value → Option (Scalar × Value)}
    (hstays : ∀ member, member.1 = .text name → f member = some member)
    (hkeys : ∀ member rest, f member = some rest → rest.1 = member.1) (ms : Members) :
    Keyed.get? name (ms.filterMap f) = Keyed.get? name ms := by
  unfold Keyed.get?
  induction ms with
  | nil => rfl
  | cons member ms ih =>
    by_cases hkey : member.1 = .text name
    · rw [List.filterMap_cons_some (hstays member hkey), List.find?_cons, List.find?_cons, hkey,
        beq_self_eq_true]
    · rw [List.find?_cons_of_neg (by simpa using hkey), ← ih]
      cases hf : f member with
      | none => rw [List.filterMap_cons_none hf]
      | some rest =>
        have hother : ¬ rest.1 = .text name := by rwa [hkeys member rest hf]
        rw [List.filterMap_cons_some hf, List.find?_cons_of_neg (by simpa using hother)]

theorem get?_erasedBy (h : name ∈ kept) (part : Members → Option Members) (ms : Members) :
    Keyed.get? name (erasedBy kept part ms) = Keyed.get? name ms :=
  get?_filterMap (fun _ hkey => remnant_of_mem hkey h) (fun _ _ => key_of_remnant) ms

/-- Nothing is left under a name that is set aside and not kept. -/
theorem get?_erasedBy_of_aside (h : name ∉ kept) (haside : isAside name = true)
    (part : Members → Option Members) (ms : Members) :
    Keyed.get? name (erasedBy kept part ms) = none := by
  refine Option.map_eq_none_iff.mpr (List.find?_eq_none.mpr fun rest hrest => ?_)
  obtain ⟨member, _, hmember⟩ := List.mem_filterMap.mp hrest
  rw [beq_iff_eq, key_of_remnant hmember]
  intro hkey
  rw [remnant_of_text hkey h, objectOf_of_aside haside] at hmember
  cases hmember

/-! ## The objects that are left -/

theorem objectStep_of_text {skips : String → Bool} {member : Scalar × Value}
    (hkey : member.1 = .text name) :
    objectStep skips member = .ok (objectOf skips name member.2) := by
  rw [objectStep, hkey]
  rfl

theorem objectStep_eq_error {skips : String → Bool} {member : Scalar × Value}
    (h : ∀ name, member.1 ≠ .text name) : ∃ failure, objectStep skips member = .error failure := by
  cases hstep : objectStep skips member with
  | error failure => exact ⟨failure, rfl⟩
  | ok o =>
    obtain ⟨⟨name, hkey⟩, _⟩ := objectStep_iff.mp hstep
    exact absurd hkey (h name)

theorem remnant_eq_none_iff {member : Scalar × Value} : remnant kept part member = none ↔
    ∃ name, member.1 = .text name ∧ name ∉ kept ∧
      (objectOf isAside name member.2).bind (withPart part) = none := by
  constructor
  · intro h
    by_cases htext : ∃ name, member.1 = .text name
    · obtain ⟨name, hkey⟩ := htext
      by_cases hname : name ∈ kept
      · rw [remnant_of_mem hkey hname] at h
        cases h
      · rw [remnant_of_text hkey hname] at h
        exact ⟨name, hkey, hname, Option.map_eq_none_iff.mp h⟩
    · rw [remnant_of_no_text (not_exists.mp htext)] at h
      cases h
  · rintro ⟨name, hkey, hname, hnone⟩
    rw [remnant_of_text hkey hname, hnone]
    rfl

theorem objectOf_object (haside : isAside name = false) (ms : Members) :
    objectOf isAside name (.object ms) = some (name, ms) :=
  objectOf_eq_some_iff.mpr ⟨haside, rfl, rfl⟩

theorem objectStep_remnant (hkept : ∀ name ∈ kept, isAside name = true)
    {member rest : Scalar × Value} (h : remnant kept part member = some rest) :
    objectStep isAside rest = (·.bind (withPart part)) <$> objectStep isAside member := by
  rcases remnant_eq_some h with ⟨rfl, hname⟩ | ⟨name, ms, ns, hkey, _, haside, hobject, hns, rfl⟩
  · by_cases htext : ∃ name, rest.1 = .text name
    · obtain ⟨name, hkey⟩ := htext
      rw [objectStep_of_text hkey, objectOf_of_aside (hkept name (hname name hkey))]
      rfl
    · obtain ⟨failure, hfailure⟩ := objectStep_eq_error (not_exists.mp htext)
      rw [hfailure]
      rfl
  · rw [objectStep_of_text hkey, hobject, objectStep_of_text rfl, objectOf_object haside]
    have hpart : withPart part (name, ms) = some (name, ns) := by
      rw [withPart, hns]
      rfl
    exact congrArg Except.ok hpart.symm

/-- Going through what is left of some members finds what is left of the objects among them. -/
theorem namedObjects_erasedBy (hkept : ∀ name ∈ kept, isAside name = true)
    (part : Members → Option Members) (ms : Members) :
    Alike (fun es es' => es.filterMap (withPart part) = es') (namedObjects ms)
      (namedObjects (erasedBy kept part ms)) := by
  -- As a row of steps, each with its own failure, so that the first failure is found at one member.
  have hsteps : ∀ ms, namedObjects ms = List.reduceOption <$> ms.mapM (objectStep isAside) :=
    collect_eq rfl fun _ _ _ => rfl
  rw [hsteps, hsteps, map_eq_pure_bind, map_eq_pure_bind]
  refine Alike.bind (Alike.mapM_filterMap ?_ ?_) fun os os' h => .ok h
  · intro member _ hnone
    obtain ⟨name, hkey, _, hobject⟩ := remnant_eq_none_iff.mp hnone
    exact ⟨_, objectStep_of_text hkey, hobject⟩
  · intro member _ rest hsome
    exact objectStep_remnant hkept hsome

/-- Steps that pass over the objects that are taken out, and do the same for what is left of the
others, find the same properties. -/
theorem propertiesBy_erasedBy (hkept : ∀ name ∈ kept, isAside name = true)
    {step : String → Members → Except Failure (Option Property)}
    (hnone : ∀ n e, part e = none → step n e = .ok none)
    (hsome : ∀ n e e', part e = some e' → step n e' = step n e) (ms : Members) :
    propertiesBy step (erasedBy kept part ms) = propertiesBy step ms := by
  refine (Alike.bind (namedObjects_erasedBy hkept part ms) fun es es' hes => ?_).eq.symm
  subst hes
  refine Alike.bind (R := fun os os' => os.reduceOption.filterMap some = os'.reduceOption)
    (Alike.mapM_filterMap ?_ ?_) fun os os' hos => .ok ?_
  · rintro ⟨n, e⟩ _ htaken
    exact ⟨none, hnone n e (Option.map_eq_none_iff.mp htaken), rfl⟩
  · rintro ⟨n, e⟩ _ c hleft
    obtain ⟨e', he', rfl⟩ := Option.map_eq_some_iff.mp hleft
    dsimp only
    rw [hsome n e e' he']
    cases step n e with
    | error failure => rfl
    | ok o => cases o <;> rfl
  · rw [← hos, List.filterMap_some]

/-! ## Properties -/

theorem get?_keepOnly (h : name ∈ kept) (e : Members) :
    Keyed.get? name (keepOnly kept e) = Keyed.get? name e := get?_erasedBy h _ e

theorem propertyOf_keepOnly (owner name : String) (e : Members) :
    propertyOf table owner name (keepOnly propertyTerms e) = propertyOf table owner name e := by
  unfold propertyOf MemberKind.of structuralTarget setMember? flag
  rw [get?_keepOnly (by decide), get?_keepOnly (by decide), get?_keepOnly (by decide),
    get?_keepOnly (by decide)]

theorem resourceOf_keepOnly (owner name : String) {e : Members} (h : isOperationImport e = false) :
    resourceOf table owner name (keepOnly propertyTerms e) = resourceOf table owner name e := by
  have hnone : isOperationImport (keepOnly propertyTerms e) = false := by
    rw [isOperationImport, Keyed.has, Keyed.has, keepOnly,
      get?_erasedBy_of_aside (by decide) (by decide),
      get?_erasedBy_of_aside (by decide) (by decide)]
    rfl
  unfold resourceOf setMember? flag
  rw [hnone, h, get?_keepOnly (by decide), get?_keepOnly (by decide)]

/-! ## Types -/

theorem get?_eraseKind (ms : Members) (kind : TypeKind) :
    Keyed.get? "$Kind" (eraseKind ms kind) = Keyed.get? "$Kind" ms := by
  cases kind <;> exact get?_erasedBy (by decide) _ ms

/-- An object declares the same type after things were taken out of it. -/
theorem typeOfKind_eraseKind (qualified : String) (ms : Members) (kind : TypeKind) :
    typeOfKind table qualified kind (eraseKind ms kind) = typeOfKind table qualified kind ms := by
  have hproperties : propertiesBy (propertyOf table qualified)
      (erasedBy ["$Kind", "$BaseType", "$Abstract", "$Key"] eraseProperty ms) =
      propertiesBy (propertyOf table qualified) ms := by
    refine propertiesBy_erasedBy (by decide) (fun n e htaken => ?_) (fun n e e' hleft => ?_) ms
    · exact propertyOf_skips (by simpa [eraseProperty] using htaken)
    · obtain ⟨_, rfl⟩ : declaresProperty e = true ∧ _ = e' := by simpa [eraseProperty] using hleft
      exact propertyOf_keepOnly qualified n e
  have hresources : propertiesBy (resourceOf table qualified)
      (erasedBy ["$Kind"] eraseResource ms) = propertiesBy (resourceOf table qualified) ms := by
    refine propertiesBy_erasedBy (by decide) (fun n e htaken => ?_) (fun n e e' hleft => ?_) ms
    · exact resourceOf_skips (by simpa [eraseResource] using htaken)
    · obtain ⟨hkeeps, rfl⟩ : isOperationImport e = false ∧ _ = e' := by
        simpa [eraseResource] using hleft
      exact resourceOf_keepOnly qualified n hkeeps
  have hstructured : ∀ kind, structuredType table qualified kind
      (erasedBy ["$Kind", "$BaseType", "$Abstract", "$Key"] eraseProperty ms) =
      structuredType table qualified kind ms := by
    intro kind
    rw [structuredType_eq, structuredType_eq, hproperties]
    unfold baseOf keyNames setMember? flag
    rw [get?_erasedBy (by decide), get?_erasedBy (by decide), get?_erasedBy (by decide)]
  cases kind with
  | entity => exact hstructured .entity
  | complex => exact hstructured .complex
  | container =>
    have hcontainer : containerType table qualified (erasedBy ["$Kind"] eraseResource ms) =
        containerType table qualified ms := by
      rw [containerType_eq, containerType_eq, hresources]
    exact hcontainer
  | enum | primitive => rfl

theorem exists_kindOf_of_hasPlainKind (h : hasPlainKind ms = true) :
    ∃ kind?, kindOf ms = .ok kind? := by
  unfold hasPlainKind at h
  unfold kindOf setMember?
  cases hkind : Keyed.get? "$Kind" ms with
  | none => exact ⟨_, rfl⟩
  | some v =>
    rw [hkind] at h
    cases v with
    | scalar s =>
      rw [Option.filter_some]
      by_cases htrue : (Value.scalar s).isTruthy = true
      · rw [if_pos htrue]
        cases s <;> exact ⟨_, rfl⟩
      · rw [if_neg htrue]
        exact ⟨_, rfl⟩
    | list _ | object _ | set _ | pair _ _ | labelled _ _ => cases h

theorem typeStep_eraseKind {kind : TypeKind} (hkind : kindWord? ms = some kind)
    (space name : String) :
    typeStep table space (some (name, eraseKind ms kind)) = typeStep table space (some (name, ms)) := by
  have hsame : kindOf (eraseKind ms kind) = kindOf ms := by
    rw [kindOf, kindOf, setMember?, setMember?, get?_eraseKind]
  rw [typeStep, typeStep, hsame]
  cases hfound : kindOf ms with
  | error failure => rfl
  | ok kind? =>
    obtain rfl : kind? = some kind := (kindWord?_of_kindOf hfound).symm.trans hkind
    rw [ok_bind, ok_bind]
    dsimp only
    rw [typeOfKind_eraseKind]

theorem typeOf_remnant {space : String} {member rest : Scalar × Value}
    (h : remnant ["$Alias"] eraseType member = some rest) :
    typeOf table space rest.1 rest.2 = typeOf table space member.1 member.2 := by
  rcases remnant_eq_some h with ⟨rfl, _⟩ | ⟨name, ms, ns, hkey, _, haside, hobject, hns, rfl⟩
  · rfl
  · obtain ⟨kind, hkind, rfl⟩ := Option.map_eq_some_iff.mp hns
    rw [typeOf_eq, typeOf_eq]
    change objectStep isAside _ >>= _ = objectStep isAside member >>= _
    rw [objectStep_of_text hkey, hobject, objectStep_of_text rfl, objectOf_object haside]
    exact typeStep_eraseKind hkind space name

/-- A member of a schema that is taken out declares no type. -/
theorem typeOf_of_remnant_none {space : String} {member : Scalar × Value}
    (hplain : ∀ object, objectAt isAside member = some object → hasPlainKind object.2 = true)
    (h : remnant ["$Alias"] eraseType member = none) :
    typeOf table space member.1 member.2 = .ok none := by
  obtain ⟨name, hkey, _, htaken⟩ := remnant_eq_none_iff.mp h
  rw [typeOf_eq]
  change objectStep isAside member >>= _ = _
  rw [objectStep_of_text hkey, ok_bind]
  cases hobject : objectOf isAside name member.2 with
  | none => rfl
  | some s =>
    rw [hobject, Option.bind_some] at htaken
    have hword : kindWord? s.2 = none := Option.map_eq_none_iff.mp (Option.map_eq_none_iff.mp htaken)
    have hfound : objectAt isAside member = some s := by
      rw [objectAt, hkey]
      exact hobject
    obtain ⟨kind?, hkind⟩ := exists_kindOf_of_hasPlainKind (hplain s hfound)
    obtain rfl : kind? = none := (kindWord?_of_kindOf hkind).symm.trans hword
    rw [typeStep, hkind]
    rfl

/-! ## Documents -/

theorem key_eraseMember (member : Scalar × Value) : (eraseMember member).1 = member.1 := by
  unfold eraseMember
  split <;> rfl

theorem objectAt_of_text {skips : String → Bool} {member : Scalar × Value}
    (hkey : member.1 = .text name) : objectAt skips member = objectOf skips name member.2 := by
  rw [objectAt, hkey]

theorem objectAt_of_no_text {skips : String → Bool} {member : Scalar × Value}
    (h : ∀ name, member.1 ≠ .text name) : objectAt skips member = none := by
  unfold objectAt
  split
  · rename_i name hkey
    exact absurd hkey (h name)
  · rfl

theorem eraseMember_of_no_object {member : Scalar × Value} (h : objectAt isReserved member = none) :
    eraseMember member = member := by
  rw [eraseMember, h]

theorem eraseMember_of_reserved {member : Scalar × Value} (hkey : member.1 = .text name)
    (hreserved : isReserved name = true) : eraseMember member = member := by
  refine eraseMember_of_no_object (Option.eq_none_iff_forall_ne_some.mpr fun s hs => ?_)
  rw [objectAt_of_text hkey] at hs
  rw [(objectOf_eq_some_iff.mp hs).1] at hreserved
  cases hreserved

theorem Document.erase_eq (d : Document) : d.erase = d.filterMap (some ∘ eraseMember) :=
  (congrFun List.filterMap_eq_map d).symm

theorem get?_erase (hreserved : isReserved name = true) (d : Document) :
    Keyed.get? name d.erase = Keyed.get? name d := by
  rw [Document.erase_eq]
  refine get?_filterMap (fun member hkey => ?_) (fun member rest h => ?_) d
  · exact congrArg some (eraseMember_of_reserved hkey hreserved)
  · cases h
    exact key_eraseMember member

theorem objectStep_eraseMember (member : Scalar × Value) :
    objectStep isReserved (eraseMember member) =
      (·.bind fun s => some (s.1, eraseSchema s.2)) <$> objectStep isReserved member := by
  by_cases htext : ∃ name, member.1 = .text name
  · obtain ⟨name, hkey⟩ := htext
    rw [objectStep_of_text hkey, objectStep_of_text ((key_eraseMember member).trans hkey)]
    refine congrArg Except.ok ?_
    rw [eraseMember, objectAt_of_text hkey]
    cases hobject : objectOf isReserved name member.2 with
    | none => exact hobject
    | some s =>
      obtain ⟨hname, rfl, _⟩ := objectOf_eq_some_iff.mp hobject
      exact objectOf_eq_some_iff.mpr ⟨hname, rfl, rfl⟩
  · obtain ⟨failure, hfailure⟩ := objectStep_eq_error (not_exists.mp htext)
    rw [eraseMember_of_no_object (objectAt_of_no_text (not_exists.mp htext)), hfailure]
    rfl

theorem schemas_erase (d : Document) :
    Alike (fun ss ss' => ss.map (fun s => (s.1, eraseSchema s.2)) = ss') (schemas d)
      (schemas d.erase) := by
  have hsteps : ∀ d, schemas d = List.reduceOption <$> d.mapM (objectStep isReserved) :=
    collect_eq rfl fun _ _ _ => rfl
  rw [hsteps, hsteps, map_eq_pure_bind, map_eq_pure_bind, Document.erase_eq]
  refine Alike.bind (Alike.mapM_filterMap (q := fun s => some (s.1, eraseSchema s.2)) ?_ ?_)
    fun os os' h => .ok ?_
  · intro member _ hnone
    cases hnone
  · intro member _ rest hsome
    cases hsome
    exact objectStep_eraseMember member
  · exact (congrFun List.filterMap_eq_map os.reduceOption).symm.trans h

theorem ofDocument_erase (d : Document) :
    AliasTable.ofDocument d.erase = AliasTable.ofDocument d := by
  have hreferences : references d.erase = references d := by
    rw [references, references, get?_erase rfl]
  unfold AliasTable.ofDocument
  rw [hreferences]
  refine (Alike.bind (schemas_erase d) fun declaring declaring' h => ?_).eq.symm
  subst h
  refine Alike.bind (.of_eq ?_) fun declared _ h => .of_eq (h ▸ rfl)
  refine Alike.mapM_eq (R := fun s s' => (s.1, eraseSchema s.2) = s') ?_ ?_
  · exact List.forall₂_map_right_iff.mpr (List.forall₂_same.mpr fun _ _ => rfl)
  · rintro ⟨name, ms⟩ _ rfl
    dsimp only
    rw [schemaAssignments, schemaAssignments, aliasAssignment, aliasAssignment, eraseSchema,
      get?_erasedBy (by decide)]

theorem declarations_erase {declaring : List (String × Members)}
    (hplain : ∀ s ∈ declaring, ∀ object ∈ objectsAmong isAside s.2, hasPlainKind object.2 = true) :
    declarations table (declaring.map fun s => (s.1, eraseSchema s.2)) =
      declarations table declaring := by
  have hmembers : (declaring.map fun s => (s.1, eraseSchema s.2)).flatMap
        (fun s => s.2.map fun member => (s.1, member)) =
      (declaring.flatMap fun s => s.2.map fun member => (s.1, member)).filterMap
        fun x => (remnant ["$Alias"] eraseType x.2).map fun rest => (x.1, rest) := by
    rw [List.flatMap_map, List.filterMap_flatMap]
    refine List.flatMap_congr fun s _ => ?_
    rw [List.filterMap_map, eraseSchema, erasedBy, List.map_filterMap]
    rfl
  unfold declarations
  dsimp only
  rw [hmembers]
  refine (Alike.bind (Alike.mapM_filterMap (q := some) ?_ ?_) fun os os' h => .ok ?_).eq.symm
  · rintro ⟨space, member⟩ hmember htaken
    obtain ⟨s, hs, hmember⟩ := List.mem_flatMap.mp hmember
    obtain ⟨_, hin, hsame⟩ := List.mem_map.mp hmember
    cases hsame
    have hobjects : ∀ object, objectAt isAside member = some object →
        hasPlainKind object.2 = true := fun object hobject =>
      hplain s hs object (List.mem_filterMap.mpr ⟨member, hin, hobject⟩)
    exact ⟨none, typeOf_of_remnant_none hobjects (Option.map_eq_none_iff.mp htaken), rfl⟩
  · rintro ⟨space, member⟩ _ c hleft
    obtain ⟨rest, hrest, rfl⟩ := Option.map_eq_some_iff.mp hleft
    dsimp only
    rw [typeOf_remnant hrest]
    cases typeOf table space member.1 member.2 with
    | error failure => rfl
    | ok o => cases o <;> rfl
  · rw [← h, List.filterMap_some]

/-- **What is not modelled makes no difference.** Without annotations, operations, terms, members of
enumerations and all other members that are not recognised, a document has the same model or is
refused in the same way. -/
theorem extract_erase {d : Document} (hplain : d.PlainKinds) (version : String) :
    extract version d.erase = extract version d := by
  have hcontainer : ∀ table, containerName table d.erase = containerName table d := by
    intro table
    rw [containerName, containerName, setMember?, setMember?, get?_erase rfl]
  unfold extract
  rw [ofDocument_erase]
  refine (Alike.bind (.of_eq rfl) fun table _ htable => ?_).eq.symm
  subst htable
  rw [hcontainer]
  refine Alike.bind (.of_eq rfl) fun container _ h => ?_
  subst h
  -- If a name is no text, both go through the same schemas up to that and fail in the same way.
  have hschemas := schemas_erase d
  generalize hdeclaring : schemas d = declared at hschemas ⊢
  generalize schemas d.erase = declared' at hschemas ⊢
  cases hschemas with
  | error failure => exact .error failure
  | @ok declaring _ h =>
    subst h
    have hobjects := (schemas_eq_ok_iff_named.mp hdeclaring).2
    subst hobjects
    rw [ok_bind, ok_bind, declarations_erase hplain]
    exact .of_eq rfl

/-- An annotation, a term, a member of an enumeration, an action and its import are taken out of the
catalogue. -/
theorem catalogue_erased : catalogue.PlainKinds ∧
    (recognised catalogue.erase).map (fun r => (r.name, r.members.length)) =
      [("item", 4), ("person", 3), ("book", 5), ("format", 1), ("root", 2)] ∧
    (recognised catalogue).map (fun r => (r.name, r.members.length)) =
      [("item", 6), ("person", 3), ("book", 5), ("format", 2), ("root", 3)] ∧
    extract "4.0" catalogue.erase = extract "4.0" catalogue ∧
    ∃ m, extract "4.0" catalogue = .ok m := by
  have hplain : catalogue.PlainKinds := by decide
  exact ⟨hplain, by decide, by decide, extract_erase hplain "4.0", exists_model_of_catalogue⟩

end CsdlRoutes.Schema
