import CsdlRoutes.Proofs.Schema.DeclaredProperties
import CsdlRoutes.Proofs.Schema.QualifiedNames
import CsdlRoutes.Route.Tree

/-!
# References with their aliases expanded

An alias may be replaced by the namespace that it stands for, in the reference to the entity
container, in references to base types and in references to the targets of properties. The name of a
primitive type that a structural property leads to is no reference. The document stays the same
otherwise, so it has the same alias table, and each new reference is expanded to the same name as
the old one, if the table takes each namespace to itself. So extraction yields the same model or the
same failure.

* `AliasTable.Settled`: the table takes each namespace to itself.
* `Document.Expanded`: some references of a document are replaced.
* `extract_expanded`: nothing else changes.
* `numbered_namespace_tells`: a namespace that is a number, where something changes.
-/

namespace CsdlRoutes.Schema

/-! ## References -/

/-- The texts of the namespaces in a table are not empty, and each of them is taken to a namespace
of the same text. -/
def AliasTable.Settled (table : AliasTable) : Prop :=
  ∀ entry ∈ table, ∃ space, shown (.scalar entry.2) = .ok space ∧ space ≠ "" ∧
    ∃ v, Keyed.get? space table = some v ∧ shown (.scalar v) = .ok space

/-- A reference is replaced by the same one with the namespace that its alias stands for. -/
def AliasTable.Replaces (table : AliasTable) (reading : Value → Except Failure String)
    (v w : Value) : Prop :=
  v.isTruthy = true ∧ ∃ reference q namespaceOf space, reading v = .ok reference ∧
    QualifiedName.read reference = .ok q ∧ Keyed.get? q.space table = some namespaceOf ∧
    shown (.scalar namespaceOf) = .ok space ∧ w = .text (space ++ "." ++ q.short)

/-- Two rows of members are the same, except that objects may be related, and that what stands under
a key may be. -/
def Amended (key : String) (S : Value → Value → Prop) (R : Members → Members → Prop) :
    Members → Members → Prop :=
  List.Forall₂ fun a b => Aligned R a b ∨ a.1 = .text key ∧ b.1 = .text key ∧ S a.2 b.2

/-- The reference of a property is replaced, or nothing is. In a structural property the name of a
primitive type stays. -/
def ElementExpanded (table : AliasTable) (inContainer : Bool) (e f : Members) : Prop :=
  Amended "$Type" (fun v w => table.Replaces textOf v w ∧
    (inContainer = true ∨ hasText "$Kind" "NavigationProperty" e = true ∨
      ∀ reference, textOf v = .ok reference → isPrimitive reference = false)) Eq e f

/-- References in an object that declares a type are replaced. -/
def TypeExpanded (table : AliasTable) (ms ns : Members) : Prop :=
  Amended "$BaseType" (table.Replaces textOf)
    (ElementExpanded table (hasText "$Kind" "EntityContainer" ms)) ms ns

/-- References in a schema are replaced. -/
def SchemaExpanded (table : AliasTable) : Members → Members → Prop :=
  List.Forall₂ (Aligned (TypeExpanded table))

/-- References in a document are replaced. -/
def Document.Expanded (table : AliasTable) : Document → Document → Prop :=
  Amended "$EntityContainer" (table.Replaces shown) (SchemaExpanded table)

variable {table : AliasTable} {v w : Value} {reading : Value → Except Failure String}

theorem AliasTable.Replaces.exists_name (htable : table.Settled)
    (h : table.Replaces reading v w) :
    ∃ reference name, reading v = .ok reference ∧ w = .text name ∧ v.isTruthy = true ∧
      w.isTruthy = true ∧ table.resolve reference = .ok name ∧ table.resolve name = .ok name := by
  obtain ⟨htrue, reference, q, namespaceOf, space, hreading, hread, hfound, hshown, rfl⟩ := h
  obtain ⟨entry, hentry, rfl⟩ := Option.map_eq_some_iff.mp hfound
  obtain ⟨space', hshown', hspace, own, hown, hshownown⟩ :=
    htable entry (List.mem_of_find?_eq_some hentry)
  rw [hshown] at hshown'
  cases hshown'
  have hne : space ++ "." ++ q.short ≠ "" := by simp [hspace]
  refine ⟨reference, _, hreading, rfl, htrue, by simp [Value.isTruthy, Scalar.isTruthy, hne],
    resolve_eq_ok_iff_shown.mpr ⟨q, _, space, hread, hfound, hshown, rfl⟩,
    resolve_eq_ok_iff_shown.mpr ⟨_, own, space, QualifiedName.read_join hread hspace, hown,
      hshownown, rfl⟩⟩

/-! ## Members -/

section Members

variable {key : String} {S : Value → Value → Prop} {R : Members → Members → Prop}
  {ms ns : Members}

theorem Amended.refl (ms : Members) : Amended key S R ms ms :=
  List.forall₂_same.mpr fun member _ => Or.inl (.same member)

/-- What stands under a reserved name is the same, or the name is the key and it is related. -/
theorem Amended.get?_cases (h : Amended key S R ms ns) (other : String)
    (hother : isReserved other = true) :
    Keyed.get? other ms = Keyed.get? other ns ∨ other = key ∧
      ∃ v w, Keyed.get? other ms = some v ∧ Keyed.get? other ns = some w ∧ S v w := by
  unfold Keyed.get?
  induction h with
  | nil => exact Or.inl rfl
  | @cons a b s t hab _ ih =>
    rw [List.find?_cons, List.find?_cons]
    rcases hab with hab | ⟨ha, hb, hS⟩
    · cases hab with
      | same =>
        cases hfirst : a.1 == Scalar.text other with
        | true => exact Or.inl rfl
        | false => exact ih
      | @objects name v w ms ns hname _ _ _ =>
        have hdiffers : (Scalar.text name == Scalar.text other) = false := by
          rw [beq_eq_false_iff_ne]
          rintro ⟨⟩
          rw [hother] at hname
          cases hname
        rw [hdiffers]
        exact ih
    · rw [ha, hb]
      cases hfirst : Scalar.text key == Scalar.text other with
      | true =>
        rw [beq_iff_eq] at hfirst
        cases hfirst
        exact Or.inr ⟨rfl, a.2, b.2, rfl, rfl, hS⟩
      | false => exact ih

theorem Amended.get?_eq (h : Amended key S R ms ns) (other : String)
    (hother : isReserved other = true) (hne : other ≠ key) :
    Keyed.get? other ms = Keyed.get? other ns :=
  (h.get?_cases other hother).resolve_right fun hkey => hne hkey.1

theorem Amended.flag_eq (h : Amended key S R ms ns) (other : String)
    (hother : isReserved other = true) (hne : other ≠ key) : flag other ms = flag other ns := by
  rw [flag, flag, h.get?_eq other hother hne]

/-- Going through the members finds related objects under the same names. -/
theorem Amended.collect_alike (h : Amended key S R ms ns) (hR : ∀ ms, R ms ms)
    (skips : String → Bool) (hkey : skips key = true)
    {collect : Members → Except Failure (List (String × Members))} (hnil : collect [] = .ok [])
    (hcons : ∀ key v rest, collect ((key, v) :: rest) = (do
      let name ← memberName key
      let more ← collect rest
      match v.bare with
      | .object members => return if skips name then more else (name, members) :: more
      | _ => return more)) :
    Alike (List.Forall₂ fun s s' => s.1 = s'.1 ∧ R s.2 s'.2) (collect ms) (collect ns) := by
  have hobject : ∀ name v more, (match v.bare with
      | .object members => return if skips name then more else (name, members) :: more
      | _ => return more : Except Failure (List (String × Members))) =
      .ok ((objectOf skips name v).toList ++ more) := by
    intro name v more
    unfold objectOf
    generalize v.bare = bare
    cases bare with
    | object members => cases skips name <;> rfl
    | _ => rfl
  induction h with
  | nil =>
    rw [hnil]
    exact .ok .nil
  | @cons a b s t hab _ ih =>
    obtain ⟨k, v⟩ := a
    obtain ⟨l, w⟩ := b
    have hsame : k = l ∧ ∀ name, k = .text name → List.Forall₂ (fun s s' => s.1 = s'.1 ∧ R s.2 s'.2)
        (objectOf skips name v).toList (objectOf skips name w).toList := by
      rcases hab with hab | ⟨ha, hb, _⟩
      · cases hab with
        | same => exact ⟨rfl, fun _ _ => List.forall₂_same.mpr fun s _ => ⟨rfl, hR s.2⟩⟩
        | @objects name _ _ ms ns _ hv hw hrel =>
          refine ⟨rfl, fun n _ => ?_⟩
          simp only [objectOf, hv, hw]
          cases skips n with
          | true => exact .nil
          | false => exact .cons ⟨rfl, hrel⟩ .nil
      · -- what stands under the key is skipped, whether it is an object or not
        dsimp only at ha hb
        refine ⟨ha.trans hb.symm, fun name hname => ?_⟩
        obtain rfl : key = name := by
          rw [ha] at hname
          cases hname
          rfl
        have hnone : ∀ v, objectOf skips key v = none := by
          intro v
          unfold objectOf
          generalize v.bare = bare
          cases bare with
          | object members => exact if_pos hkey
          | _ => rfl
        rw [hnone, hnone]
        exact .nil
    obtain ⟨rfl, hobjects⟩ := hsame
    rw [hcons, hcons]
    simp only [hobject]
    refine Alike.bind (R := fun name name' => name = name' ∧ k = .text name) ?_ ?_
    · cases hname : memberName k with
      | error failure => exact .error failure
      | ok name => exact .ok ⟨rfl, memberName_eq_ok_iff.mp hname⟩
    · rintro name _ ⟨rfl, hname⟩
      exact Alike.bind ih fun _ _ hmore => .ok (List.rel_append (hobjects name hname) hmore)

end Members

/-! ## Properties -/

/-- Under a key stands a reference that is the same or replaced, so it is expanded alike. -/
theorem resolved_expanded (htable : table.Settled) {key : String} {e f : Members}
    (h : Keyed.get? key e = Keyed.get? key f ∨ ∃ v w, Keyed.get? key e = some v ∧
      Keyed.get? key f = some w ∧ table.Replaces textOf v w) :
    (setMember? key e).map table.resolveValue = (setMember? key f).map table.resolveValue := by
  rcases h with hsame | ⟨v, w, hv, hw, hreplaces⟩
  · rw [setMember?, setMember?, hsame]
  · obtain ⟨reference, name, hreading, rfl, hvtrue, hwtrue, hold, hnew⟩ :=
      hreplaces.exists_name htable
    have holdvalue : table.resolveValue v = .ok name := by
      rw [AliasTable.resolveValue, hreading]
      exact hold
    have hnewvalue : table.resolveValue (.text name) = .ok name := hnew
    rw [setMember?, setMember?, hv, hw, Option.filter_some, Option.filter_some, if_pos hvtrue,
      if_pos hwtrue, Option.map_some, Option.map_some, holdvalue, hnewvalue]

/-- What follows after a reference depends on what it is expanded to. -/
theorem match_resolved {α : Type} (x : Except Failure α) (f : String → Except Failure α)
    {o o' : Option Value} : o.map table.resolveValue = o'.map table.resolveValue →
    (match o with
      | none => x
      | some reference => table.resolveValue reference >>= f) =
    match o' with
      | none => x
      | some reference => table.resolveValue reference >>= f := by
  intro h
  cases o with
  | none =>
    cases o' with
    | none => rfl
    | some _ => cases h
  | some _ =>
    cases o' with
    | none => cases h
    | some _ =>
      dsimp only
      rw [Option.some.inj h]

section Elements

variable {inContainer : Bool} {e f : Members} (htable : table.Settled)
  (h : ElementExpanded table inContainer e f)

include htable h

theorem element_resolved : (setMember? "$Type" e).map table.resolveValue =
    (setMember? "$Type" f).map table.resolveValue := by
  refine resolved_expanded htable ((h.get?_cases "$Type" rfl).imp_right ?_)
  rintro ⟨_, v, w, hv, hw, hreplaces, _⟩
  exact ⟨v, w, hv, hw, hreplaces⟩

theorem resourceOf_expanded (owner name : String) :
    resourceOf table owner name e = resourceOf table owner name f := by
  have himport : isOperationImport e = isOperationImport f := by
    rw [isOperationImport, isOperationImport, Keyed.has, Keyed.has, Keyed.has, Keyed.has,
      h.get?_eq "$Action" rfl (by decide),
      h.get?_eq "$Function" rfl (by decide)]
  rw [resourceOf, resourceOf, himport, h.flag_eq "$Collection" rfl (by decide)]
  split
  · rfl
  · exact match_resolved _ _ (element_resolved htable h)

end Elements

/-- The target of a structural property is the same, for it is not the name of a primitive type that
is replaced. -/
theorem structuralTarget_expanded (htable : table.Settled) {e f : Members}
    (h : ElementExpanded table false e f)
    (hkind : hasText "$Kind" "NavigationProperty" e = false) :
    structuralTarget table e = structuralTarget table f := by
  unfold structuralTarget
  rcases h.get?_cases "$Type" rfl with hsame | ⟨_, v, w, hv, hw, hreplaces, hloose⟩
  · rw [hsame]
  · obtain ⟨reference, name, hreading, rfl, _, _, hold, hnew⟩ := hreplaces.exists_name htable
    have hother : isPrimitive reference = false := by
      rcases hloose with hcontainer | hnavigation | hother
      · cases hcontainer
      · rw [hkind] at hnavigation
        cases hnavigation
      · exact hother reference hreading
    have hname : textOf (.text name) = .ok name := rfl
    rw [hv, hw, Option.getD_some, Option.getD_some, hreading, hname, ok_bind, ok_bind, hother, hold,
      hnew]
    cases isPrimitive name <;> rfl

theorem propertyOf_expanded (htable : table.Settled) {e f : Members}
    (h : ElementExpanded table false e f) (owner name : String) :
    propertyOf table owner name e = propertyOf table owner name f := by
  have hkinds : Keyed.get? "$Kind" e = Keyed.get? "$Kind" f := h.get?_eq _ rfl (by decide)
  have hkind : MemberKind.of e = MemberKind.of f := by rw [MemberKind.of, MemberKind.of, hkinds]
  rw [propertyOf, propertyOf, ← hkind, h.flag_eq "$Collection" rfl (by decide),
    h.flag_eq "$ContainsTarget" rfl (by decide)]
  rcases memberKind_cases e with ⟨hnavigation, _⟩ | ⟨hstructural, hno, _⟩ | ⟨⟨v, hother⟩, _⟩
  · rw [hnavigation]
    exact match_resolved _ _ (element_resolved htable h)
  · rw [hstructural, structuralTarget_expanded htable h hno]
  · rw [hother]

/-! ## Types -/

theorem elementExpanded_refl (inContainer : Bool) (e : Members) :
    ElementExpanded table inContainer e e := Amended.refl e

section Types

variable {ms ns : Members} (htable : table.Settled) (h : TypeExpanded table ms ns)

include h

theorem namedObjects_expanded :
    Alike (List.Forall₂ fun s s' => s.1 = s'.1 ∧
      ElementExpanded table (hasText "$Kind" "EntityContainer" ms) s.2 s'.2)
      (namedObjects ms) (namedObjects ns) :=
  h.collect_alike (elementExpanded_refl _) isAside rfl rfl fun _ _ _ => rfl

theorem kindOf_expanded : kindOf ms = kindOf ns := by
  rw [kindOf, kindOf, setMember?, setMember?, h.get?_eq "$Kind" rfl (by decide)]

omit h in
theorem kindOf_of_container (h : hasText "$Kind" "EntityContainer" ms = true) :
    kindOf ms = .ok (some .container) := by
  have hfound : Keyed.get? "$Kind" ms = some (.text "EntityContainer") := by simpa [hasText] using h
  rw [kindOf, setMember?, hfound]
  rfl

include htable

theorem baseOf_expanded : baseOf table ms = baseOf table ns := by
  refine match_resolved _ _ (resolved_expanded htable ?_)
  exact (h.get?_cases "$BaseType" rfl).imp_right fun hrelated => hrelated.2

theorem structuredType_expanded (hno : hasText "$Kind" "EntityContainer" ms = false)
    (name : String) (kind : TypeKind) :
    structuredType table name kind ms = structuredType table name kind ns := by
  have hkeys : keyNames ms = keyNames ns := by
    rw [keyNames, keyNames, h.get?_eq "$Key" rfl (by decide)]
  have hobjects := namedObjects_expanded h
  rw [hno] at hobjects
  unfold structuredType
  rw [hkeys, baseOf_expanded htable h, h.flag_eq "$Abstract" rfl (by decide)]
  refine (Alike.bind hobjects fun elements elements' helements => .of_eq ?_).eq
  rw [Alike.mapM_eq helements]
  rintro ⟨n, e⟩ ⟨_, f⟩ ⟨rfl, hexpanded⟩
  exact propertyOf_expanded htable hexpanded name n

theorem containerType_expanded (name : String) :
    containerType table name ms = containerType table name ns := by
  unfold containerType
  refine (Alike.bind (namedObjects_expanded h) fun elements elements' helements => .of_eq ?_).eq
  rw [Alike.mapM_eq helements]
  rintro ⟨n, e⟩ ⟨_, f⟩ ⟨rfl, hexpanded⟩
  exact resourceOf_expanded htable hexpanded name n

theorem typeStep_expanded (space name : String) :
    typeStep table space (some (name, ms)) = typeStep table space (some (name, ns)) := by
  rw [typeStep, typeStep, ← kindOf_expanded h]
  cases hkind : kindOf ms with
  | error failure => rfl
  | ok kind? =>
    cases kind? with
    | none => rfl
    | some kind =>
      have hsame : typeOfKind table (space ++ "." ++ name) kind ms =
          typeOfKind table (space ++ "." ++ name) kind ns := by
        have hno : kind ≠ .container → hasText "$Kind" "EntityContainer" ms = false := by
          intro hother
          by_contra hcontainer
          rw [kindOf_of_container (by simpa using hcontainer)] at hkind
          cases hkind
          exact hother rfl
        cases kind with
        | container => exact containerType_expanded htable h _
        | entity => exact structuredType_expanded htable h (hno (by decide)) _ _
        | complex => exact structuredType_expanded htable h (hno (by decide)) _ _
        | enum => rfl
        | primitive => rfl
      rw [ok_bind, ok_bind]
      dsimp only
      rw [hsame]

end Types

/-! ## Documents -/

theorem typeOf_expanded (htable : table.Settled) {space : String} {a b : Scalar × Value}
    (h : Aligned (TypeExpanded table) a b) :
    typeOf table space a.1 a.2 = typeOf table space b.1 b.2 := by
  cases h with
  | same => rfl
  | @objects name v w ms ns _ hv hw hexpanded =>
    have hobject : ∀ {v ms}, v.bare = .object ms →
        objectOf (fun name => isReserved name || isAnnotation name) name v =
          if isReserved name || isAnnotation name then none else some (name, ms) := by
      intro v ms hv
      rw [objectOf, hv]
    rw [typeOf_eq, typeOf_eq]
    change typeStep table space (objectOf _ name v) = typeStep table space (objectOf _ name w)
    rw [hobject hv, hobject hw]
    split
    · rfl
    · exact typeStep_expanded htable hexpanded space name

theorem schemas_expanded {d d' : Document} (h : Document.Expanded table d d') :
    Alike (List.Forall₂ fun s s' => s.1 = s'.1 ∧ SchemaExpanded table s.2 s'.2) (schemas d)
      (schemas d') :=
  h.collect_alike (fun _ => List.forall₂_same.mpr fun member _ => .same member) _ rfl rfl
    fun _ _ _ => rfl

theorem declarations_expanded (htable : table.Settled)
    {declaring declaring' : List (String × Members)}
    (h : List.Forall₂ (fun s s' => s.1 = s'.1 ∧ SchemaExpanded table s.2 s'.2) declaring
      declaring') : declarations table declaring = declarations table declaring' := by
  have hmembers : List.Forall₂ (fun (a b : String × Scalar × Value) =>
      a.1 = b.1 ∧ Aligned (TypeExpanded table) a.2 b.2)
      (declaring.flatMap fun s => s.2.map fun m => (s.1, m))
      (declaring'.flatMap fun s => s.2.map fun m => (s.1, m)) := by
    induction h with
    | nil => exact .nil
    | @cons s s' rest rest' hs _ ih =>
      obtain ⟨space, ms⟩ := s
      obtain ⟨_, ns⟩ := s'
      obtain ⟨rfl, hschema⟩ := hs
      rw [List.flatMap_cons, List.flatMap_cons]
      refine List.rel_append ?_ ih
      rw [List.forall₂_map_left_iff, List.forall₂_map_right_iff]
      exact hschema.imp fun _ _ haligned => ⟨rfl, haligned⟩
  unfold declarations
  dsimp only
  rw [Alike.mapM_eq hmembers]
  rintro ⟨space, a⟩ ⟨_, b⟩ ⟨rfl, haligned⟩
  exact typeOf_expanded htable haligned

/-- The alias table stays the same: no alias and no include is replaced. -/
theorem ofDocument_expanded {d d' : Document} (h : Document.Expanded table d d') :
    AliasTable.ofDocument d = AliasTable.ofDocument d' := by
  have hreferences : references d = references d' := by
    rw [references, references, h.get?_eq "$Reference" rfl (by decide)]
  unfold AliasTable.ofDocument
  refine (Alike.bind (schemas_expanded h) fun declaring declaring' hdeclaring => .of_eq ?_).eq
  rw [hreferences, Alike.mapM_eq hdeclaring]
  rintro ⟨name, ms⟩ ⟨_, ns⟩ ⟨rfl, hschema⟩
  have halias : Keyed.get? "$Alias" ms = Keyed.get? "$Alias" ns := get?_of_aligned hschema rfl
  dsimp only
  rw [schemaAssignments, schemaAssignments, aliasAssignment, aliasAssignment, halias]

theorem containerName_expanded (htable : table.Settled) {d d' : Document}
    (h : Document.Expanded table d d') : containerName table d = containerName table d' := by
  unfold containerName setMember?
  rcases h.get?_cases "$EntityContainer" rfl with hsame | ⟨_, v, w, hv, hw, hreplaces⟩
  · rw [hsame]
  · obtain ⟨reference, name, hreading, rfl, hvtrue, hwtrue, hold, hnew⟩ :=
      hreplaces.exists_name htable
    rw [hv, hw, Option.filter_some, Option.filter_some, if_pos hvtrue, if_pos hwtrue]
    dsimp only
    rw [hreading]
    exact hold.trans hnew.symm

/-- **Replacing aliases by what they stand for changes nothing**: neither the model, nor the
failure, nor the routes. -/
theorem extract_expanded {d d' : Document} (htable : AliasTable.ofDocument d = .ok table)
    (hsettled : table.Settled) (h : Document.Expanded table d d') (version : String) :
    extract version d' = extract version d ∧ ∀ cap,
      (extract version d' >>= fun m => Route.listing m cap) =
        extract version d >>= fun m => Route.listing m cap := by
  have hsame : extract version d = extract version d' := by
    unfold extract
    rw [← ofDocument_expanded h, htable, ok_bind, ok_bind, containerName_expanded hsettled h]
    refine (Alike.bind (.of_eq rfl) fun container _ hcontainer => ?_).eq
    cases hcontainer
    refine Alike.bind (schemas_expanded h) fun declaring declaring' hdeclaring => .of_eq ?_
    rw [declarations_expanded hsettled hdeclaring]
  exact ⟨hsame.symm, fun cap => by rw [hsame]⟩

/-- What the aliases of the catalogue stand for. -/
def catalogueTable : AliasTable :=
  [(.text "Edm", .text "Edm"), (.text "org.catalogue", .text "org.catalogue"),
   (.text "c", .text "org.catalogue"), (.text "org.common", .text "org.common"),
   (.text "common", .text "org.common")]

/-- The catalogue with its aliases replaced in some places. -/
def catalogueInFull : Document :=
  [(.text "$EntityContainer", .text "org.catalogue.root"),
   (.text "$Reference", .object
     [(.text "common.json", .object
       [(.text "$Include", .list
         [.object
           [(.text "$Namespace", .text "org.common"), (.text "$Alias", .text "common")]])])]),
   (.text "org.catalogue", .object
     [(.text "$Alias", .text "c"),
      (.text "item", .object
       [(.text "$Kind", .text "EntityType"), (.text "$Abstract", .scalar (.bool true)),
        (.text "$Key", .list [.text "id"]), (.text "id", .object []),
        (.text "id@Core.Computed", .object []),
        (.text "remark", .object [(.text "$Kind", .text "Term")])]),
      (.text "person", .object
       [(.text "$Kind", .text "EntityType"), (.text "$BaseType", .text "org.catalogue.item"),
        (.text "wrote", .object
          [(.text "$Kind", .text "NavigationProperty"), (.text "$Collection", .scalar (.bool true)),
           (.text "$Type", .text "org.catalogue.book")])]),
      (.text "book", .object
       [(.text "$Kind", .text "EntityType"), (.text "$BaseType", .text "c.item"),
        (.text "format", .object [(.text "$Type", .text "org.catalogue.format")]),
        (.text "pages", .object [(.text "$Type", .text "Edm.Int32")]),
        (.text "sequel", .object
          [(.text "$Kind", .text "NavigationProperty"), (.text "$Type", .text "c.book"),
           (.text "$ContainsTarget", .scalar (.bool true))])]),
      (.text "format", .object [(.text "$Kind", .text "EnumType"), (.text "paper", .object [])]),
      (.text "lend", .list [.object [(.text "$Kind", .text "Action")]]),
      (.text "root", .object
       [(.text "$Kind", .text "EntityContainer"),
        (.text "books", .object
          [(.text "$Collection", .scalar (.bool true)),
           (.text "$Type", .text "org.catalogue.book")]),
        (.text "lendAll", .object [(.text "$Action", .text "c.lend")])])])]

theorem catalogueTable_settled : catalogueTable.Settled := by
  intro entry hentry
  simp only [catalogueTable, List.mem_cons, List.not_mem_nil, or_false] at hentry
  rcases hentry with rfl | rfl | rfl | rfl | rfl
  all_goals exact ⟨_, rfl, by decide, _, rfl, rfl⟩

theorem catalogueInFull_expanded : Document.Expanded catalogueTable catalogue catalogueInFull := by
  have hwrote : ElementExpanded catalogueTable false
      [(.text "$Kind", .text "NavigationProperty"), (.text "$Collection", .scalar (.bool true)),
        (.text "$Type", .text "c.book")]
      [(.text "$Kind", .text "NavigationProperty"), (.text "$Collection", .scalar (.bool true)),
        (.text "$Type", .text "org.catalogue.book")] :=
    .cons (.inl (.same _)) (.cons (.inl (.same _)) (.cons (.inr ⟨rfl, rfl,
      ⟨rfl, _, ⟨"c", "book"⟩, _, _, rfl, rfl, rfl, rfl, rfl⟩, .inr (.inl rfl)⟩) .nil))
  have hformat : ElementExpanded catalogueTable false [(.text "$Type", .text "c.format")]
      [(.text "$Type", .text "org.catalogue.format")] := by
    refine .cons (.inr ⟨rfl, rfl,
      ⟨rfl, _, ⟨"c", "format"⟩, _, _, rfl, rfl, rfl, rfl, rfl⟩, .inr (.inr ?_)⟩) .nil
    intro reference hreference
    cases hreference
    rfl
  have hbooks : ElementExpanded catalogueTable true
      [(.text "$Collection", .scalar (.bool true)), (.text "$Type", .text "c.book")]
      [(.text "$Collection", .scalar (.bool true)), (.text "$Type", .text "org.catalogue.book")] :=
    .cons (.inl (.same _)) (.cons (.inr ⟨rfl, rfl,
      ⟨rfl, _, ⟨"c", "book"⟩, _, _, rfl, rfl, rfl, rfl, rfl⟩, .inl rfl⟩) .nil)
  refine .cons (.inr ⟨rfl, rfl, rfl, _, ⟨"c", "root"⟩, _, _, rfl, rfl, rfl, rfl, rfl⟩)
    (.cons (.inl (.same _)) (.cons (.inl (.objects rfl rfl rfl ?_)) .nil))
  refine .cons (.same _) (.cons (.same _) (.cons (.objects rfl rfl rfl ?_)
    (.cons (.objects rfl rfl rfl ?_) (.cons (.same _) (.cons (.same _)
      (.cons (.objects rfl rfl rfl ?_) .nil))))))
  · exact .cons (.inl (.same _)) (.cons
      (.inr ⟨rfl, rfl, rfl, _, ⟨"c", "item"⟩, _, _, rfl, rfl, rfl, rfl, rfl⟩)
      (.cons (.inl (.objects rfl rfl rfl hwrote)) .nil))
  · exact .cons (.inl (.same _)) (.cons (.inl (.same _))
      (.cons (.inl (.objects rfl rfl rfl hformat)) (.cons (.inl (.same _))
        (.cons (.inl (.same _)) .nil))))
  · exact .cons (.inl (.same _)) (.cons (.inl (.objects rfl rfl rfl hbooks))
      (.cons (.inl (.same _)) .nil))

theorem catalogue_aliases_replaced :
    AliasTable.ofDocument catalogue = .ok catalogueTable ∧ catalogueTable.Settled ∧
      Document.Expanded catalogueTable catalogue catalogueInFull ∧
      extract "4.0" catalogueInFull = extract "4.0" catalogue ∧
      (∃ m, extract "4.0" catalogue = .ok m) ∧ catalogueInFull ≠ catalogue :=
  ⟨rfl, catalogueTable_settled, catalogueInFull_expanded,
    (extract_expanded rfl catalogueTable_settled catalogueInFull_expanded "4.0").1,
    exists_model_of_catalogue, by decide⟩

/-- A document that includes a namespace which is a number, and refers to a type in it. -/
def numberedNamespace (reference : String) : Document :=
  [(.text "$EntityContainer", .text "t.root"),
   (.text "$Reference", .object
     [(.text "u", .object
       [(.text "$Include", .list
         [.object [(.text "$Namespace", .scalar (.int 5)), (.text "$Alias", .text "a")]])])]),
   (.text "t", .object
     [(.text "root", .object
       [(.text "$Kind", .text "EntityContainer"),
        (.text "p", .object [(.text "$Type", .text reference)])])])]

theorem shown_five : shown (.scalar (.int 5)) = .ok "5" := by
  have hfew : ¬ 10 ^ Number.maxDigits ≤ 5 := by
    have hpow : 10 ^ 1 ≤ 10 ^ Number.maxDigits := Nat.pow_le_pow_right (by decide) (by decide)
    omega
  have hshowable : (Value.scalar (.int 5)).hindrance? shownLevels = none := by
    rw [Value.hindrance?, Value.hindranceWithin?, shownLevels, Hindrance.below?, Scalar.hindrance?]
    exact if_neg hfew
  rw [shown, hshowable]
  rfl

/-- The alias of a namespace that is a number cannot be replaced, though the table takes each
namespace to itself: the text of the number is no key of it. -/
theorem numbered_namespace_tells : ∃ table,
    AliasTable.ofDocument (numberedNamespace "a.X") = .ok table ∧
    (∀ entry ∈ table, (entry.2, entry.2) ∈ table ∧ entry.2 ≠ .text "") ∧
    Document.Expanded table (numberedNamespace "a.X") (numberedNamespace "5.X") ∧
    extract "4.0" (numberedNamespace "a.X") =
      .error (.document (.undeclaredType "5.X" "t.root/p")) ∧
    extract "4.0" (numberedNamespace "5.X") =
      .error (.document (.unknownNamespace "5.X" "5")) := by
  refine ⟨[(.text "Edm", .text "Edm"), (.text "t", .text "t"), (.int 5, .int 5),
    (.text "a", .int 5)], rfl, by decide, ?_, by decide +kernel, rfl⟩
  refine .cons (.inl (.same _)) (.cons (.inl (.same _)) (.cons (.inl (.objects rfl rfl rfl
    (.cons (.objects rfl rfl rfl ?_) .nil))) .nil))
  exact .cons (.inl (.same _)) (.cons (.inl (.objects rfl rfl rfl (.cons (.inr ⟨rfl, rfl,
    ⟨rfl, _, ⟨"a", "X"⟩, .int 5, "5", rfl, rfl, rfl, shown_five, rfl⟩, .inl rfl⟩) .nil))) .nil)

end CsdlRoutes.Schema
