import CsdlRoutes.Proofs.Schema.RearrangedModel

/-!
# What a document declares

Which objects of a document declare a type can be read off the document, by their names and by the
words for their kinds. References play no part in it. Extraction declares one type for each of these
objects, in their order.

* `recognised` lists the objects of a document that declare types.
* `declarations_eq_ok_iff_forall₂`: when the declarations succeed, and what they are.
-/

namespace CsdlRoutes.Schema

/-! ## Objects among members -/

/-- The keys of an object are texts. -/
def Named (ms : Members) : Prop := ∀ member ∈ ms, ∃ name, member.1 = .text name

/-- The objects among some members with their names, unless such a name is skipped. -/
def objectsAmong (skips : String → Bool) (ms : Members) : List (String × Members) :=
  ms.filterMap fun (key, v) =>
    match key with
    | .text name => objectOf skips name v
    | _ => none

/-- Whether the name of a member is reserved or that of an annotation. -/
def isAside (name : String) : Bool := isReserved name || isAnnotation name

/-- The object that a member holds with its name, unless the name is skipped. -/
def objectAt (skips : String → Bool) (member : Scalar × Value) : Option (String × Members) :=
  match member.1 with
  | .text name => objectOf skips name member.2
  | _ => none

theorem objectsAmong_eq (skips : String → Bool) (ms : Members) :
    objectsAmong skips ms = ms.filterMap (objectAt skips) := rfl

theorem objectStep_iff {skips : String → Bool} {member : Scalar × Value}
    {o : Option (String × Members)} :
    objectStep skips member = .ok o ↔
      (∃ name, member.1 = .text name) ∧ objectAt skips member = o := by
  rw [objectStep_eq_ok_iff]
  constructor
  · rintro ⟨name, hname, rfl⟩
    exact ⟨⟨name, hname⟩, by rw [objectAt, hname]⟩
  · rintro ⟨⟨name, hname⟩, rfl⟩
    exact ⟨name, hname, by rw [objectAt, hname]⟩

/-- Going through members step by step finds the objects among them, provided that all keys are
texts. -/
theorem collected_iff {skips : String → Bool} {ms : Members} {objects : List (String × Members)} :
    (∃ os, ms.mapM (objectStep skips) = .ok os ∧ os.reduceOption = objects) ↔
      Named ms ∧ objectsAmong skips ms = objects := by
  have hstep : ∀ member o, objectStep skips member = .ok o ↔
      (∃ name, member.1 = .text name) ∧ Option.Rel Eq (objectAt skips member) o := by
    intro member o
    rw [objectStep_iff]
    refine and_congr_right fun _ => ⟨fun h => ?_, fun h => ?_⟩
    · rw [h]
      cases o with
      | none => exact .none
      | some s => exact .some rfl
    · generalize objectAt skips member = s at h ⊢
      cases h with
      | none => rfl
      | some h => rw [h]
  rw [mapM_reduceOption_iff hstep, List.forall₂_eq_eq_eq]
  rfl

theorem schemas_eq_ok_iff_named {d : Document} {declaring : List (String × Members)} :
    schemas d = .ok declaring ↔ Named d ∧ objectsAmong isReserved d = declaring :=
  schemas_eq_ok_iff.trans collected_iff

theorem namedObjects_eq_ok_iff_named {ms : Members} {elements : List (String × Members)} :
    namedObjects ms = .ok elements ↔ Named ms ∧ objectsAmong isAside ms = elements :=
  namedObjects_eq_ok_iff.trans collected_iff

/-! ## Recognised members -/

/-- An object of a schema that declares a type. -/
structure Recognised where
  space : String
  name : String
  kind : TypeKind
  members : Members

/-- The name of the type that an object declares. -/
def Recognised.qualified (r : Recognised) : String := r.space ++ "." ++ r.name

/-- The kind that the word in an object stands for. -/
def kindWord? (member : Members) : Option TypeKind :=
  match Keyed.get? "$Kind" member with
  | some (.scalar (.text word)) => kindWords.lookup word
  | _ => none

/-- An object of a schema as one that declares a type, if it does. -/
def recognise (space : String) (object : String × Members) : Option Recognised :=
  (kindWord? object.2).map fun kind => ⟨space, object.1, kind, object.2⟩

/-- The objects of a schema that declare types, in document order. -/
def recognisedIn (schema : String × Members) : List Recognised :=
  (objectsAmong isAside schema.2).filterMap (recognise schema.1)

/-- The objects of a document that declare types, in document order. -/
def recognised (d : Document) : List Recognised :=
  (objectsAmong isReserved d).flatMap recognisedIn

/-- A catalogue of books and their authors, in which everything is named by an alias. It has an
annotation, a term, an action and the import of one. -/
def catalogue : Document :=
  [(.text "$EntityContainer", .text "c.root"),
   (.text "$Reference", .object
     [(.text "common.json", .object
       [(.text "$Include", .list
         [.object
           [(.text "$Namespace", .text "org.common"), (.text "$Alias", .text "common")]])])]),
   (.text "org.catalogue", .object
     [(.text "$Alias", .text "c"),
      (.text "item", .object
       [(.text "$Kind", .text "EntityType"), (.text "$Abstract", .scalar (.bool true)),
        (.text "$Key", .list [.text "id"]), (.text "id", .object []),
        (.text "id@Core.Computed", .object []),
        (.text "remark", .object [(.text "$Kind", .text "Term")])]),
      (.text "person", .object
       [(.text "$Kind", .text "EntityType"), (.text "$BaseType", .text "c.item"),
        (.text "wrote", .object
          [(.text "$Kind", .text "NavigationProperty"), (.text "$Collection", .scalar (.bool true)),
           (.text "$Type", .text "c.book")])]),
      (.text "book", .object
       [(.text "$Kind", .text "EntityType"), (.text "$BaseType", .text "c.item"),
        (.text "format", .object [(.text "$Type", .text "c.format")]),
        (.text "pages", .object [(.text "$Type", .text "Edm.Int32")]),
        (.text "sequel", .object
          [(.text "$Kind", .text "NavigationProperty"), (.text "$Type", .text "c.book"),
           (.text "$ContainsTarget", .scalar (.bool true))])]),
      (.text "format", .object [(.text "$Kind", .text "EnumType"), (.text "paper", .object [])]),
      (.text "lend", .list [.object [(.text "$Kind", .text "Action")]]),
      (.text "root", .object
       [(.text "$Kind", .text "EntityContainer"),
        (.text "books", .object
          [(.text "$Collection", .scalar (.bool true)), (.text "$Type", .text "c.book")]),
        (.text "lendAll", .object [(.text "$Action", .text "c.lend")])])])]

example : (recognised catalogue).map Recognised.qualified = ["org.catalogue.item",
    "org.catalogue.person", "org.catalogue.book", "org.catalogue.format",
    "org.catalogue.root"] := by decide

theorem exists_model_of_catalogue : ∃ m, extract "4.0" catalogue = .ok m := ⟨_, rfl⟩

variable {table : AliasTable}

/-! ## Declarations -/

theorem kindWord?_of_kindOf {member : Members} {kind? : Option TypeKind}
    (h : kindOf member = .ok kind?) : kindWord? member = kind? := by
  have hempty : kindWords.lookup "" = none := rfl
  unfold kindOf setMember? at h
  unfold kindWord?
  cases hkind : Keyed.get? "$Kind" member with
  | none =>
    rw [hkind] at h
    exact Except.ok.inj h
  | some v =>
    rw [hkind, Option.filter_some] at h
    by_cases htrue : v.isTruthy = true
    · rw [if_pos htrue] at h
      split at h
      · cases ‹some v = none›
      · cases ‹some v = _›
        exact Except.ok.inj h
      · rename_i s hnotext hv
        cases hv
        cases h
        cases s with
        | text word => exact absurd rfl (hnotext word)
        | _ => rfl
      · cases h
    · rw [if_neg htrue] at h
      cases h
      split
      · rename_i word hv
        cases hv
        have hword : word = "" := by simpa [Value.isTruthy, Scalar.isTruthy] using htrue
        rw [hword, hempty]
      · rfl

/-- An object declares a type, all references being expanded by a table. -/
def Gives (table : AliasTable) (r : Recognised) (t : SchemaType) : Prop :=
  typeOfKind table r.qualified r.kind r.members = .ok t

theorem typeStep_eq_ok_iff {space : String} {object? : Option (String × Members)}
    {o : Option SchemaType} :
    typeStep table space object? = .ok o ↔
      (∀ object, object? = some object → ∃ kind?, kindOf object.2 = .ok kind?) ∧
        Option.Rel (Gives table) (object?.bind (recognise space)) o := by
  cases object? with
  | none =>
    constructor
    · intro h
      cases h
      exact ⟨(fun _ h => nomatch h), .none⟩
    · rintro ⟨_, h⟩
      cases h
      rfl
  | some object =>
    obtain ⟨n, member⟩ := object
    simp only [Option.some.injEq, forall_eq', Option.bind_some]
    rw [typeStep, bind_eq_ok]
    constructor
    · rintro ⟨kind?, hkind, h⟩
      refine ⟨⟨kind?, hkind⟩, ?_⟩
      rw [recognise, kindWord?_of_kindOf hkind]
      cases kind? with
      | none =>
        cases h
        exact .none
      | some kind =>
        obtain ⟨t, ht, h⟩ := bind_eq_ok.mp h
        cases h
        exact .some ht
    · rintro ⟨⟨kind?, hkind⟩, h⟩
      refine ⟨kind?, hkind, ?_⟩
      rw [recognise, kindWord?_of_kindOf hkind] at h
      cases kind? with
      | none =>
        cases h
        rfl
      | some kind =>
        cases h with
        | some ht => exact bind_eq_ok.mpr ⟨_, ht, rfl⟩

/-- What a member of a schema declares. -/
theorem typeOf_eq_ok_iff {space : String} {member : Scalar × Value} {o : Option SchemaType} :
    typeOf table space member.1 member.2 = .ok o ↔
      ((∃ name, member.1 = .text name) ∧
        ∀ object, objectAt isAside member = some object → ∃ kind?, kindOf object.2 = .ok kind?) ∧
      Option.Rel (Gives table) ((objectAt isAside member).bind (recognise space)) o := by
  have hsteps : typeOf table space member.1 member.2 =
      objectStep isAside member >>= typeStep table space := typeOf_eq _ _ _ _
  rw [hsteps, bind_eq_ok, and_assoc, ← typeStep_eq_ok_iff]
  simp only [objectStep_iff, and_assoc, exists_and_left, exists_eq_left']

/-- A schema can be read: its keys are texts, and its objects have no kind that cannot be one. -/
def Readable (schema : String × Members) : Prop :=
  Named schema.2 ∧ ∀ object ∈ objectsAmong isAside schema.2, ∃ kind?, kindOf object.2 = .ok kind?

theorem readable_iff {schema : String × Members} :
    Readable schema ↔ ∀ member ∈ schema.2, (∃ name, member.1 = .text name) ∧
      ∀ object, objectAt isAside member = some object → ∃ kind?, kindOf object.2 = .ok kind? := by
  rw [Readable, objectsAmong_eq, List.forall_mem_filterMap, Named, forall₂_and]

/-- The declarations of some schemas. -/
theorem declarations_eq_ok_iff_forall₂ {declaring : List (String × Members)}
    {declared : List SchemaType} :
    declarations table declaring = .ok declared ↔ (∀ schema ∈ declaring, Readable schema) ∧
      List.Forall₂ (Gives table) (declaring.flatMap recognisedIn) declared := by
  have hsteps : declarations table declaring = .ok declared ↔ ∃ os,
      (declaring.flatMap fun s => s.2.map fun m => (s.1, m)).mapM
        (fun x => typeOf table x.1 x.2.1 x.2.2) = .ok os ∧ os.reduceOption = declared := by
    refine bind_eq_ok.trans (exists_congr fun os => and_congr_right fun _ => ?_)
    exact ⟨fun h => Except.ok.inj h, fun h => congrArg Except.ok h⟩
  have hfound : (declaring.flatMap fun s => s.2.map fun m => (s.1, m)).filterMap
      (fun x => (objectAt isAside x.2).bind (recognise x.1)) = declaring.flatMap recognisedIn := by
    rw [List.filterMap_flatMap]
    refine List.flatMap_congr fun s _ => ?_
    rw [List.filterMap_map, recognisedIn, objectsAmong_eq, List.filterMap_filterMap]
    rfl
  rw [hsteps, mapM_reduceOption_iff fun x o => typeOf_eq_ok_iff, hfound, List.forall_mem_flatMap]
  simp only [List.forall_mem_map, readable_iff]

end CsdlRoutes.Schema
