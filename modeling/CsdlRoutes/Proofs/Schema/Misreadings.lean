import CsdlRoutes.Proofs.Postconditions
import CsdlRoutes.Proofs.Schema.RecognisedMembers

/-!
# Values that a document is not expected to hold

Extraction reads the values at some places of a document as texts, as keys, as objects or as rows of
items, and does not look first whether they are that. A value that is not is an accident. All the
accidents that a document has in store can be read off the document.

* `misreadings` lists the accidents of a document.
* `Settles` says that steps meet with certain accidents: they end well only if there are none, and
  when they fail, they refuse the document or one of the accidents is to blame.
* `extract_settles`: extraction meets with the accidents of the document.
-/

namespace CsdlRoutes

/-- A failure refuses the document, or it is one of some accidents. -/
def Failure.IsRefusalOr (accidents : Accident → Prop) (failure : Failure) : Prop :=
  (∃ why, failure = .document why) ∨ ∃ a, accidents a ∧ failure = .accident a

namespace Failure.IsRefusalOr

variable {accidents more : Accident → Prop}

theorem document (why : DocumentFailure) : IsRefusalOr accidents (.document why) :=
  Or.inl ⟨why, rfl⟩

theorem accident {a : Accident} (h : accidents a) : IsRefusalOr accidents (.accident a) :=
  Or.inr ⟨a, h, rfl⟩

theorem mono {failure : Failure} (h : IsRefusalOr accidents failure)
    (hmore : ∀ a, accidents a → more a) : IsRefusalOr more failure := by
  refine h.imp_right ?_
  rintro ⟨a, ha, hsame⟩
  exact ⟨a, hmore a ha, hsame⟩

end Failure.IsRefusalOr

/-- Steps yield a result only if there are no accidents in store, and if they fail, they refuse the
document, or it is one of these accidents. -/
structure Settles (accidents : List Accident) {α : Type} (x : Except Failure α) : Prop where
  clear : ∀ a, x = .ok a → accidents = []
  failsOnly : FailsOnly (Failure.IsRefusalOr (· ∈ accidents)) x

namespace Settles

variable {α β : Type} {accidents more : List Accident} {x : Except Failure α}

theorem ok (a : α) : Settles [] (.ok a : Except Failure α) := ⟨fun _ _ => rfl, .ok ⟨a, rfl⟩⟩

theorem document (why : DocumentFailure) :
    Settles accidents (.error (.document why) : Except Failure α) :=
  ⟨fun _ h => (nomatch h), .error (.document why)⟩

theorem accident (a : Accident) : Settles [a] (.error (.accident a) : Except Failure α) :=
  ⟨fun _ h => (nomatch h), .error (.accident (List.mem_singleton_self a))⟩

theorem bind {f : α → Except Failure β} (hx : Settles accidents x)
    (hf : ∀ a, x = .ok a → Settles more (f a)) : Settles (accidents ++ more) (x >>= f) := by
  cases x with
  | error failure =>
    refine ⟨?_, .error ?_⟩
    · intro b hb
      cases hb
    · exact (hx.failsOnly.2 failure rfl).mono fun _ => List.mem_append_left more
  | ok a =>
    rw [hx.clear a rfl, List.nil_append]
    exact hf a rfl

/-- After the last step that meets with accidents. -/
theorem last {f : α → Except Failure β} (hx : Settles accidents x)
    (hf : ∀ a, x = .ok a → Settles [] (f a)) : Settles accidents (x >>= f) := by
  have h := hx.bind hf
  rwa [List.append_nil] at h

theorem mapM {as : List α} {accidentsOf : α → List Accident} {f : α → Except Failure β}
    (h : ∀ a ∈ as, Settles (accidentsOf a) (f a)) : Settles (as.flatMap accidentsOf) (as.mapM f) := by
  induction as with
  | nil => exact ok []
  | cons a as ih =>
    obtain ⟨ha, has⟩ := List.forall_mem_cons.mp h
    rw [List.flatMap_cons, List.mapM_cons]
    exact ha.bind fun _ _ => (ih has).last fun _ _ => .ok _

theorem forM {as : List α} {f : α → Except Failure PUnit} (h : ∀ a ∈ as, Settles [] (f a)) :
    Settles [] (as.forM f) := by
  induction as with
  | nil => exact ok PUnit.unit
  | cons a as ih =>
    obtain ⟨ha, has⟩ := List.forall_mem_cons.mp h
    exact ha.last fun _ _ => ih has

end Settles

namespace Schema

/-! ## One value -/

/-- A value that is read as a text. -/
def noText (v : Value) : List Accident :=
  match v.bare with
  | .scalar (.text _) => []
  | .scalar (.bytes bs) => [.bytesForText bs]
  | w => [.wrongShape w]

/-- A value that is read as a key. -/
def noKey (v : Value) : List Accident :=
  match v.bare with
  | .scalar _ => []
  | w => [.unusableKey w]

/-- A value that is looked up among words. -/
def noWord (v : Value) : List Accident :=
  match v with
  | .scalar _ => []
  | v => [.unusableKey v]

/-- A value that is read as an object. -/
def noObject (v : Value) : List Accident :=
  match v.bare with
  | .object _ => []
  | w => [.wrongShape w]

/-- A value whose items are gone through. -/
def noItems (v : Value) : List Accident :=
  match v.bare with
  | .list _ | .object _ | .set _ | .pair _ _ | .scalar (.text _) | .scalar (.bytes _) => []
  | w => [.notIterable w]

/-- A value that is shown. -/
def noDisplay (v : Value) : List Accident :=
  ((v.hindrance? shownLevels).map accidentOf).toList

/-- What is wrong with an item of a list of names. -/
def nameProblem? : Value → Option ProblemKind
  | .scalar (.text _) => none
  | .scalar (.bytes bs) => if (String.fromUTF8? ⟨bs.toArray⟩).isSome then none else some .notUnicode
  | _ => some .notText

/-- What is wrong with the items of a list of names, from a position on. -/
def nameProblems (position : Nat) : List Value → List Problem
  | [] => []
  | v :: rest =>
    (nameProblem? v).toList.map (⟨[toString position], ·⟩) ++ nameProblems (position + 1) rest

/-- Items that are read as the names of keys. All problems with them are one accident. -/
def noNames (items : List Value) : List Accident :=
  match nameProblems 0 items with
  | [] => []
  | problems => [.record (problems.map fun p => ⟨"key" :: p.path, p.kind⟩)]

/-- The items of a value, if they can be gone through. -/
def itemsOf (v : Value) : List Value := (iterated v).toOption.getD []

theorem settles_textOf (v : Value) : Settles (noText v) (textOf v) := by
  unfold noText textOf
  cases v.bare with
  | scalar s =>
    cases s with
    | text s => exact .ok s
    | _ => exact .accident _
  | _ => exact .accident _

theorem settles_keyOf (v : Value) : Settles (noKey v) (keyOf v) := by
  unfold noKey keyOf
  cases v.bare with
  | scalar s => exact .ok s
  | _ => exact .accident _

theorem settles_iterated (v : Value) : Settles (noItems v) (iterated v) := by
  unfold noItems iterated
  cases v.bare with
  | scalar s =>
    cases s with
    | text | bytes => exact .ok _
    | _ => exact .accident _
  | labelled => exact .accident _
  | _ => exact .ok _

theorem settles_shown (v : Value) : Settles (noDisplay v) (shown v) := by
  unfold noDisplay shown
  cases v.hindrance? shownLevels with
  | none => exact .ok _
  | some hindrance => exact .accident _

/-- A check finds certain problems. -/
def Finds (problems : List Problem) {α : Type} (x : Checked α) : Prop :=
  (∃ a, x = .ok a) ∧ problems = [] ∨ x = .error problems ∧ problems ≠ []

namespace Finds

variable {α β : Type} {problems others : List Problem} {x : Checked α} {y : Checked β}

theorem within (h : Finds problems x) (name : String) :
    Finds (problems.map fun p => { p with path := name :: p.path }) (x.within name) := by
  obtain ⟨⟨a, rfl⟩, rfl⟩ | ⟨rfl, hsome⟩ := h
  · exact Or.inl ⟨⟨a, rfl⟩, rfl⟩
  · exact Or.inr ⟨rfl, (List.map_eq_nil_iff.not).mpr hsome⟩

theorem both (hx : Finds problems x) (hy : Finds others y) : Finds (problems ++ others) (x.both y) := by
  obtain ⟨⟨a, rfl⟩, rfl⟩ | ⟨rfl, hsome⟩ := hx
  · obtain ⟨⟨b, rfl⟩, rfl⟩ | ⟨rfl, hsome⟩ := hy
    · exact Or.inl ⟨⟨(a, b), rfl⟩, rfl⟩
    · exact Or.inr ⟨rfl, hsome⟩
  · refine Or.inr ⟨?_, List.append_ne_nil_of_left_ne_nil hsome others⟩
    obtain ⟨⟨b, rfl⟩, rfl⟩ | ⟨rfl, _⟩ := hy
    · rw [List.append_nil]
      rfl
    · rfl

theorem map (hx : Finds problems x) (f : α → β) : Finds problems (x.map f) := by
  obtain ⟨⟨a, rfl⟩, rfl⟩ | ⟨rfl, hsome⟩ := hx
  · exact Or.inl ⟨⟨f a, rfl⟩, rfl⟩
  · exact Or.inr ⟨rfl, hsome⟩

end Finds

theorem finds_textField (v : Value) :
    Finds ((nameProblem? v).toList.map (⟨[], ·⟩)) (textField v) := by
  cases v with
  | scalar s =>
    cases s with
    | text name => exact Or.inl ⟨⟨name, rfl⟩, rfl⟩
    | bytes bs =>
      cases hread : String.fromUTF8? ⟨bs.toArray⟩ with
      | some name =>
        rw [textField, nameProblem?, hread]
        exact Or.inl ⟨⟨name, rfl⟩, rfl⟩
      | none =>
        rw [textField, nameProblem?, hread]
        exact Or.inr ⟨rfl, List.cons_ne_nil _ _⟩
    | _ => exact Or.inr ⟨rfl, List.cons_ne_nil _ _⟩
  | _ => exact Or.inr ⟨rfl, List.cons_ne_nil _ _⟩

theorem finds_each (position : Nat) (items : List Value) :
    Finds (nameProblems position items) (Checked.each textField position items) := by
  induction items generalizing position with
  | nil => exact Or.inl ⟨⟨[], rfl⟩, rfl⟩
  | cons v rest ih =>
    have hv := (finds_textField v).within (toString position)
    rw [List.map_map] at hv
    exact (hv.both (ih (position + 1))).map _

/-- The value of a key, which is a list of names. -/
def keyAccidents (ms : Members) : List Accident :=
  let v := (Keyed.get? "$Key" ms).getD (.list [])
  noItems v ++ noNames (itemsOf v)

theorem itemsOf_eq {v : Value} {items : List Value} (h : iterated v = .ok items) :
    itemsOf v = items := by
  rw [itemsOf, h]
  rfl

theorem settles_keyNames (ms : Members) : Settles (keyAccidents ms) (keyNames ms) := by
  refine (settles_iterated _).bind fun items hitems => ?_
  rw [itemsOf_eq hitems, noNames]
  obtain ⟨⟨names, hnames⟩, hnone⟩ | ⟨herror, hsome⟩ := finds_each 0 items
  · rw [hnames, hnone]
    exact .ok names
  · rw [herror]
    split
    · exact absurd ‹_› hsome
    · exact .accident _

/-! ## The alias table -/

/-- The keys of an object, which are names. -/
def namesAccidents (ms : Members) : List Accident := ms.flatMap fun member => noText (.scalar member.1)

/-- A member that is an alias. -/
def aliasAccidents (ms : Members) : List Accident := (setMember? "$Alias" ms).elim [] noKey

/-- A value that includes a schema. -/
def includeAccidents (v : Value) : List Accident :=
  noObject v ++
    match v.bare with
    | .object ms => (setMember? "$Namespace" ms).elim [] fun space => noKey space ++ aliasAccidents ms
    | _ => []

/-- A value that refers to another document. -/
def referenceAccidents (v : Value) : List Accident :=
  noObject v ++
    match v.bare with
    | .object ms =>
      let includes := (Keyed.get? "$Include" ms).getD (.list [])
      noItems includes ++ (itemsOf includes).flatMap includeAccidents
    | _ => []

/-- The references of a document to others. -/
def referencesAccidents (d : Document) : List Accident :=
  (Keyed.get? "$Reference" d).elim [] fun v =>
    noObject v ++
      match v.bare with
      | .object ms => ms.flatMap fun member => referenceAccidents member.2
      | _ => []

/-- The places of a document that its alias table is made from. -/
def tableAccidents (d : Document) : List Accident :=
  namesAccidents d ++ (objectsAmong isReserved d).flatMap (fun s => aliasAccidents s.2) ++
    referencesAccidents d

theorem settles_memberName (key : Scalar) : Settles (noText (.scalar key)) (memberName key) :=
  settles_textOf _

/-- A collection of the objects among some members meets with the keys that are no names. -/
theorem settles_collect {skips : String → Bool}
    {collect : Members → Except Failure (List (String × Members))} (hnil : collect [] = .ok [])
    (hcons : ∀ key v rest, collect ((key, v) :: rest) = (do
      let name ← memberName key
      let more ← collect rest
      match v.bare with
      | .object members => return if skips name then more else (name, members) :: more
      | _ => return more))
    (ms : Members) : Settles (namesAccidents ms) (collect ms) := by
  induction ms with
  | nil =>
    rw [hnil]
    exact .ok []
  | cons member rest ih =>
    obtain ⟨key, v⟩ := member
    rw [hcons]
    refine (settles_memberName key).bind fun name _ => ?_
    refine ih.last fun more _ => ?_
    split
    · exact .ok _
    · exact .ok _

theorem settles_schemas (d : Document) : Settles (namesAccidents d) (schemas d) :=
  settles_collect rfl (fun _ _ _ => rfl) d

theorem settles_namedObjects (ms : Members) : Settles (namesAccidents ms) (namedObjects ms) :=
  settles_collect rfl (fun _ _ _ => rfl) ms

theorem settles_aliasAssignment (space : Scalar) (ms : Members) :
    Settles (aliasAccidents ms) (aliasAssignment space ms) := by
  unfold aliasAccidents aliasAssignment setMember?
  cases Keyed.get? "$Alias" ms with
  | none => exact .ok []
  | some v =>
    rw [Option.filter_some]
    dsimp only
    split
    · exact (settles_keyOf v).last fun _ _ => .ok _
    · exact .ok []

theorem settles_includeAssignments (v : Value) :
    Settles (includeAccidents v) (includeAssignments v) := by
  unfold includeAccidents includeAssignments noObject
  cases v.bare with
  | object ms =>
    dsimp only
    unfold setMember?
    cases Keyed.get? "$Namespace" ms with
    | none => exact .ok []
    | some space =>
      rw [Option.filter_some]
      dsimp only
      split
      · exact (settles_keyOf space).bind fun space _ =>
          (settles_aliasAssignment space ms).last fun _ _ => .ok _
      · exact .ok []
  | _ => exact .accident _

theorem settles_referenceAssignments (v : Value) :
    Settles (referenceAccidents v) (referenceAssignments v) := by
  unfold referenceAccidents referenceAssignments noObject
  cases v.bare with
  | object ms =>
    refine (settles_iterated _).bind fun items hitems => ?_
    rw [itemsOf_eq hitems]
    exact (Settles.mapM fun item _ => settles_includeAssignments item).last fun _ _ => .ok _
  | _ => exact .accident _

theorem settles_references (d : Document) :
    Settles (referencesAccidents d)
      (references d >>= fun vs => vs.mapM referenceAssignments) := by
  unfold referencesAccidents references
  cases Keyed.get? "$Reference" d with
  | none => exact .ok []
  | some v =>
    rw [Option.map_some]
    unfold noObject
    dsimp only [Option.elim]
    cases v.bare with
    | object ms =>
      change Settles (ms.flatMap fun member => referenceAccidents member.2)
        ((ms.map (·.2)).mapM referenceAssignments)
      rw [← List.flatMap_map]
      exact .mapM fun v _ => settles_referenceAssignments v
    | _ => exact .accident _

theorem ofDocument_eq_ok_iff {d : Document} {table : AliasTable} :
    AliasTable.ofDocument d = .ok table ↔ ∃ declaring own vs other, schemas d = .ok declaring ∧
      declaring.mapM (fun s => schemaAssignments s.1 s.2) = .ok own ∧ references d = .ok vs ∧
      vs.mapM referenceAssignments = .ok other ∧
      table = Keyed.ofList
        ((.text primitiveSpace, .text primitiveSpace) :: (own.flatten ++ other.flatten)) := by
  unfold AliasTable.ofDocument
  simp only [bind_eq_ok]
  constructor
  · rintro ⟨declaring, hdeclaring, own, hown, vs, hvs, other, hother, h⟩
    cases h
    exact ⟨declaring, own, vs, other, hdeclaring, hown, hvs, hother, rfl⟩
  · rintro ⟨declaring, own, vs, other, hdeclaring, hown, hvs, hother, rfl⟩
    exact ⟨declaring, hdeclaring, own, hown, vs, hvs, other, hother, rfl⟩

/-- Making the alias table meets with the accidents at the places that it is made from. -/
theorem settles_ofDocument (d : Document) : Settles (tableAccidents d) (AliasTable.ofDocument d) := by
  unfold AliasTable.ofDocument tableAccidents
  rw [List.append_assoc]
  refine (settles_schemas d).bind fun declaring hdeclaring => ?_
  rw [← (schemas_eq_ok_iff_named.mp hdeclaring).2]
  refine (Settles.mapM fun s _ => ?_).bind fun declared _ => ?_
  · exact (settles_aliasAssignment _ _).last fun _ _ => .ok _
  · rw [← bind_assoc]
    exact (settles_references d).last fun _ _ => .ok _

/-! ## References -/

/-- The text that a value is, if it is one. -/
def text? (v : Value) : Option String := (textOf v).toOption

/-- What the table has for a name is shown when the name is expanded. -/
def expansionAccidents (table : AliasTable) (name : String) : List Accident :=
  ((QualifiedName.read? name).bind fun q => Keyed.get? q.space table).elim [] fun space =>
    noDisplay (.scalar space)

/-- A value that is read as a reference to a type. -/
def targetAccidents (table : AliasTable) (v : Value) : List Accident :=
  noText v ++ (text? v).elim [] (expansionAccidents table)

variable {table : AliasTable}

theorem settles_resolve (name : String) :
    Settles (expansionAccidents table name) (table.resolve name) := by
  unfold expansionAccidents AliasTable.resolve QualifiedName.read
  cases QualifiedName.read? name with
  | none => exact .document _
  | some q =>
    dsimp only
    rw [Option.bind_some, ok_bind]
    cases Keyed.get? q.space table with
    | none => exact .document _
    | some space => exact (settles_shown _).last fun _ _ => .ok _

theorem text?_eq {v : Value} {s : String} (h : textOf v = .ok s) : text? v = some s := by
  rw [text?, h]
  rfl

theorem settles_resolveValue (v : Value) :
    Settles (targetAccidents table v) (table.resolveValue v) := by
  refine (settles_textOf v).bind fun s hs => ?_
  rw [text?_eq hs]
  exact settles_resolve s

/-! ## Types -/

/-- A member of a structured type. -/
def propertyAccidents (table : AliasTable) (element : Members) : List Accident :=
  match MemberKind.of element with
  | .navigation => (setMember? "$Type" element).elim [] (targetAccidents table)
  | .structural =>
    let v := (Keyed.get? "$Type" element).getD (.text defaultPropertyType)
    noText v ++ ((text? v).filter fun s => !isPrimitive s).elim [] (expansionAccidents table)
  | .other _ => []

/-- A member of the container. -/
def resourceAccidents (table : AliasTable) (element : Members) : List Accident :=
  if isOperationImport element then []
  else (setMember? "$Type" element).elim [] (targetAccidents table)

/-- The members of an object that declares a structured type. -/
def structuredAccidents (table : AliasTable) (kind : TypeKind) (ms : Members) : List Accident :=
  namesAccidents ms ++ (objectsAmong isAside ms).flatMap (fun e => propertyAccidents table e.2) ++
    (setMember? "$BaseType" ms).elim [] (targetAccidents table) ++
    if kind = .entity then keyAccidents ms else []

/-- The members of an object that declares a type. -/
def kindAccidents (table : AliasTable) (kind : TypeKind) (ms : Members) : List Accident :=
  match kind with
  | .container =>
    namesAccidents ms ++ (objectsAmong isAside ms).flatMap fun e => resourceAccidents table e.2
  | .entity | .complex => structuredAccidents table kind ms
  | .enum | .primitive => []

/-- An object of a schema. -/
def objectAccidents (table : AliasTable) (ms : Members) : List Accident :=
  (setMember? "$Kind" ms).elim [] noWord ++
    (kindWord? ms).elim [] fun kind => kindAccidents table kind ms

/-- A member of a schema. -/
def memberAccidents (table : AliasTable) (member : Scalar × Value) : List Accident :=
  noText (.scalar member.1) ++
    (objectAt isAside member).elim [] fun object => objectAccidents table object.2

theorem settles_propertyOf (owner name : String) (e : Members) :
    Settles (propertyAccidents table e) (propertyOf table owner name e) := by
  unfold propertyAccidents propertyOf
  cases MemberKind.of e with
  | navigation =>
    dsimp only
    cases setMember? "$Type" e with
    | none => exact .document _
    | some v => exact (settles_resolveValue v).last fun _ _ => .ok _
  | structural =>
    refine Settles.last ?_ fun _ _ => .ok _
    refine (settles_textOf _).bind fun s hs => ?_
    rw [text?_eq hs, Option.filter_some]
    cases isPrimitive s with
    | true => exact .ok s
    | false => exact settles_resolve s
  | other => exact .ok none

theorem settles_resourceOf (owner name : String) (e : Members) :
    Settles (resourceAccidents table e) (resourceOf table owner name e) := by
  unfold resourceAccidents resourceOf
  split
  · exact .ok none
  · cases setMember? "$Type" e with
    | none => exact .document _
    | some v => exact (settles_resolveValue v).last fun _ _ => .ok _

theorem settles_baseOf (ms : Members) :
    Settles ((setMember? "$BaseType" ms).elim [] (targetAccidents table)) (baseOf table ms) := by
  unfold baseOf
  cases setMember? "$BaseType" ms with
  | none => exact .ok none
  | some v => exact (settles_resolveValue v).last fun _ _ => .ok _

theorem settles_structuredType (name : String) (kind : TypeKind) (ms : Members) :
    Settles (structuredAccidents table kind ms) (structuredType table name kind ms) := by
  unfold structuredAccidents structuredType
  simp only [List.append_assoc]
  refine (settles_namedObjects ms).bind fun elements helements => ?_
  rw [← (namedObjects_eq_ok_iff_named.mp helements).2]
  refine (Settles.mapM fun e _ => settles_propertyOf name e.1 e.2).bind fun _ _ => ?_
  refine (settles_baseOf ms).bind fun _ _ => ?_
  split
  · exact (settles_keyNames ms).last fun _ _ => .ok _
  · exact .ok _

theorem settles_typeOfKind (name : String) (kind : TypeKind) (ms : Members) :
    Settles (kindAccidents table kind ms) (typeOfKind table name kind ms) := by
  cases kind with
  | container =>
    refine (settles_namedObjects ms).bind fun elements helements => ?_
    rw [← (namedObjects_eq_ok_iff_named.mp helements).2]
    exact (Settles.mapM fun e _ => settles_resourceOf name e.1 e.2).last fun _ _ => .ok _
  | entity => exact settles_structuredType name .entity ms
  | complex => exact settles_structuredType name .complex ms
  | enum => exact .ok _
  | primitive => exact .ok _

theorem settles_kindOf (ms : Members) :
    Settles ((setMember? "$Kind" ms).elim [] noWord) (kindOf ms) := by
  unfold kindOf noWord
  cases setMember? "$Kind" ms with
  | none => exact .ok none
  | some v =>
    cases v with
    | scalar s => cases s <;> exact .ok _
    | _ => exact .accident _

theorem settles_typeOf (space : String) (member : Scalar × Value) :
    Settles (memberAccidents table member) (typeOf table space member.1 member.2) := by
  obtain ⟨key, v⟩ := member
  rw [typeOf_eq]
  refine Settles.bind ((settles_memberName key).last fun _ _ => .ok _) fun object? hobject => ?_
  obtain ⟨_, hsame⟩ := objectStep_iff.mp hobject
  rw [show objectAt isAside (key, v) = object? from hsame]
  cases object? with
  | none => exact .ok none
  | some object =>
    refine (settles_kindOf object.2).bind fun kind? hkind => ?_
    rw [kindWord?_of_kindOf hkind]
    cases kind? with
    | none => exact .ok none
    | some kind => exact (settles_typeOfKind _ kind object.2).last fun _ _ => .ok _

/-! ## Documents -/

/-- What names the entity container of a document, which is shown first and then expanded. -/
def containerAccidents (table : AliasTable) (d : Document) : List Accident :=
  (setMember? "$EntityContainer" d).elim [] fun v =>
    noDisplay v ++ expansionAccidents table v.display

/-- The members of the schemas of a document. -/
def declarationAccidents (table : AliasTable) (d : Document) : List Accident :=
  (objectsAmong isReserved d).flatMap fun schema => schema.2.flatMap (memberAccidents table)

/-- All accidents that a document has in store. What its references are expanded to is known when it
has an alias table. -/
def misreadings (d : Document) : List Accident :=
  tableAccidents d ++ (AliasTable.ofDocument d).toOption.elim [] fun table =>
    containerAccidents table d ++ declarationAccidents table d

theorem eq_display_of_shown {v : Value} {s : String} (h : shown v = .ok s) : s = v.display := by
  unfold shown at h
  split at h
  · exact (Except.ok.inj h).symm
  · cases h

theorem settles_containerName (d : Document) :
    Settles (containerAccidents table d) (containerName table d) := by
  unfold containerAccidents containerName
  cases setMember? "$EntityContainer" d with
  | none => exact .document _
  | some v =>
    refine (settles_shown v).bind fun s hs => ?_
    rw [← eq_display_of_shown hs]
    exact settles_resolve s

theorem settles_declarations (d : Document) :
    Settles (declarationAccidents table d) (declarations table (objectsAmong isReserved d)) := by
  have hmembers : declarationAccidents table d =
      ((objectsAmong isReserved d).flatMap fun s => s.2.map fun m => (s.1, m)).flatMap
        fun member => memberAccidents table member.2 := by
    rw [List.flatMap_assoc]
    simp only [List.flatMap_map, declarationAccidents]
  rw [hmembers]
  exact (Settles.mapM fun member _ => settles_typeOf member.1 member.2).last fun _ _ => .ok _

theorem settles_read (name : String) : Settles [] (QualifiedName.read name) := by
  unfold QualifiedName.read
  split
  · exact .ok _
  · exact .document _

theorem settles_checkReferences (types : Table SchemaType) (t : SchemaType) :
    Settles [] (checkReferences types t) := by
  have hloop : ∀ ps : List Property, Settles [] (forIn ps PUnit.unit fun p _ =>
      if (types.has p.typeName || isPrimitive p.typeName) = true then
        (pure (ForInStep.yield PUnit.unit) : Except Failure _)
      else do
        throw (.document (.undeclaredType p.typeName p.canonicalName))
        pure (ForInStep.yield PUnit.unit)) := by
    intro ps
    induction ps with
    | nil => exact .ok _
    | cons p rest ih =>
      rw [List.forIn_cons]
      split
      · exact ih
      · exact .document _
  unfold checkReferences
  cases t.base? with
  | none => exact (hloop _).last fun _ _ => .ok _
  | some base =>
    dsimp only
    split
    · exact (hloop _).last fun _ _ => .ok _
    · exact .document _

/-- What is left to do when all types are declared. -/
theorem settles_modelOf (version container : String) (types : Table SchemaType) :
    Settles [] (do
      unless declaresContainer types container do
        throw (.document (.undeclaredContainer container))
      types.values.forM (checkReferences types)
      let q ← QualifiedName.read container
      return (⟨version, q.space, types, container⟩ : Model)) := by
  split
  · refine (Settles.forM fun t _ => settles_checkReferences types t).last fun _ _ => ?_
    exact (settles_read container).last fun _ _ => .ok _
  · exact .document _

/-- **Extraction meets with the accidents of the document**: it yields a model only if there are none,
and if it fails, it refuses the document, or one of the accidents is to blame. -/
theorem extract_settles (version : String) (d : Document) :
    Settles (misreadings d) (extract version d) := by
  unfold misreadings extract
  refine (settles_ofDocument d).bind fun table htable => ?_
  obtain ⟨_, _, _, _, hschemas, _⟩ := ofDocument_eq_ok_iff.mp htable
  rw [htable, hschemas, ← (schemas_eq_ok_iff_named.mp hschemas).2]
  refine (settles_containerName d).bind fun container _ => ?_
  exact (settles_declarations d).last fun _ _ => settles_modelOf version container _

-- A key may name a property under an alias, by an object. Extraction does not foresee it.
example : misreadings
    [(.text "org", .object
      [(.text "book", .object
        [(.text "$Kind", .text "EntityType"),
         (.text "$Key", .list [.text "isbn", .object [(.text "shelf", .text "place/shelf")]])])])] =
    [.record [⟨["key", "1"], .notText⟩]] := by decide

end Schema

end CsdlRoutes
