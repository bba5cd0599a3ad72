import CsdlRoutes.Schema.AliasTable
import CsdlRoutes.Schema.Inheritance

/-!
# Models of documents

The members of the declared schemas that are objects of a known kind become types; everything else
in a document (annotations, actions, functions, terms) is passed over. References are expanded by the
alias table, and in the end every base type has to be declared and every target has to be declared or
primitive.

* `extract` is the model of a document.
* `notices` lists what extraction passes over, up to the first failure; `Notice.words` puts a notice
  into words.
-/

namespace CsdlRoutes.Schema

/-! ## Members -/

/-- The objects among the members of a type that are neither reserved nor annotations. -/
def namedObjects : Members → Except Failure (List (String × Members))
  | [] => .ok []
  | (key, v) :: rest => do
    let name ← memberName key
    let more ← namedObjects rest
    match v.bare with
    | .object members =>
      return if isReserved name || isAnnotation name then more else (name, members) :: more
    | _ => return more

/-- Whether a member that says yes or no is there and counts as set. -/
def flag (name : String) (members : Members) : Bool :=
  ((Keyed.get? name members).map Value.isTruthy).getD false

/-- A member that is there and counts as set. -/
def setMember? (name : String) (members : Members) : Option Value :=
  (Keyed.get? name members).filter Value.isTruthy

/-- Whether a member is there with a given text. -/
def hasText (name text : String) (members : Members) : Bool :=
  Keyed.get? name members == some (.text text)

/-- What the kind of a member makes of it. -/
inductive MemberKind where
  | structural
  | navigation
  | other (kind : Value)
  deriving DecidableEq, Repr

/-- The kind of a member of a structured type. Without a kind it is structural. -/
def MemberKind.of (element : Members) : MemberKind :=
  match Keyed.get? "$Kind" element with
  | none => .structural
  | some v =>
    if v = .text "NavigationProperty" then .navigation
    else if v = .text "Property" then .structural
    else .other v

/-- The type of a structural property that names none. -/
def defaultPropertyType : String := "Edm.String"

/-- The target of a structural property. The name of a primitive type is taken as it stands. -/
def structuralTarget (table : AliasTable) (element : Members) : Except Failure String := do
  let name ← textOf ((Keyed.get? "$Type" element).getD (.text defaultPropertyType))
  if isPrimitive name then return name else table.resolve name

/-- The property that a member of a structured type declares, if it declares one. -/
def propertyOf (table : AliasTable) (owner name : String) (element : Members) :
    Except Failure (Option Property) :=
  match MemberKind.of element with
  | .navigation =>
    match setMember? "$Type" element with
    | none => .error (.document (.navigationWithoutType owner name))
    | some reference => do
      let target ← table.resolveValue reference
      return some ⟨name, owner, target, flag "$Collection" element, true,
        flag "$ContainsTarget" element⟩
  | .structural => do
    let target ← structuralTarget table element
    return some ⟨name, owner, target, flag "$Collection" element, false, false⟩
  | .other _ => .ok none

/-- Whether a member of the container stands for an operation. -/
def isOperationImport (element : Members) : Bool :=
  Keyed.has "$Action" element || Keyed.has "$Function" element

/-- The property that a member of the container declares, if it declares one. -/
def resourceOf (table : AliasTable) (owner name : String) (element : Members) :
    Except Failure (Option Property) :=
  if isOperationImport element then .ok none
  else
    match setMember? "$Type" element with
    | none => .error (.document (.memberWithoutType owner name))
    | some reference => do
      let target ← table.resolveValue reference
      return some ⟨name, owner, target, flag "$Collection" element, true, true⟩

/-! ## Types -/

/-- The kinds of types by the words of a document. -/
def kindWords : List (String × TypeKind) :=
  [("EntityType", .entity), ("ComplexType", .complex), ("EnumType", .enum),
   ("TypeDefinition", .primitive), ("EntityContainer", .container)]

/-- The kind of type that a member of a schema declares, if it declares a type. -/
def kindOf (member : Members) : Except Failure (Option TypeKind) :=
  match setMember? "$Kind" member with
  | none => .ok none
  | some (.scalar (.text word)) => .ok (kindWords.lookup word)
  | some (.scalar _) => .ok none
  | some v => .error (.accident (.unusableKey v))

/-- The base type that a structured type names, if it names one. -/
def baseOf (table : AliasTable) (member : Members) : Except Failure (Option String) :=
  match setMember? "$BaseType" member with
  | none => .ok none
  | some reference => do return some (← table.resolveValue reference)

/-- The names of the key properties of an entity type. -/
def keyNames (member : Members) : Except Failure (List String) := do
  let items ← iterated ((Keyed.get? "$Key" member).getD (.list []))
  match Checked.each textField 0 items with
  | .ok names => return names
  | .error problems =>
    throw (.accident (.record (problems.map fun p => ⟨"key" :: p.path, p.kind⟩)))

/-- The type that an object of a structured kind declares. -/
def structuredType (table : AliasTable) (name : String) (kind : TypeKind) (member : Members) :
    Except Failure SchemaType := do
  let elements ← namedObjects member
  let properties ← elements.mapM fun (n, element) => propertyOf table name n element
  let base? ← baseOf table member
  let key ← if kind = .entity then keyNames member else pure []
  return ⟨name, kind, base?, flag "$Abstract" member, key, properties.reduceOption⟩

/-- The type that an entity container declares. -/
def containerType (table : AliasTable) (name : String) (member : Members) :
    Except Failure SchemaType := do
  let elements ← namedObjects member
  let properties ← elements.mapM fun (n, element) => resourceOf table name n element
  return ⟨name, .container, none, false, [], properties.reduceOption⟩

/-- The type that an object of a kind declares. -/
def typeOfKind (table : AliasTable) (name : String) (kind : TypeKind) (member : Members) :
    Except Failure SchemaType :=
  match kind with
  | .container => containerType table name member
  | .entity | .complex => structuredType table name kind member
  | .enum | .primitive => .ok ⟨name, kind, none, false, [], []⟩

/-- The type that a member of a schema declares, if it declares one. -/
def typeOf (table : AliasTable) (space : String) (key : Scalar) (v : Value) :
    Except Failure (Option SchemaType) := do
  let name ← memberName key
  if isReserved name || isAnnotation name then return none
  match v.bare with
  | .object member =>
    match ← kindOf member with
    | some kind => return some (← typeOfKind table (space ++ "." ++ name) kind member)
    | none => return none
  | _ => return none

/-- The types that the schemas of a document declare, one for each declaration. -/
def declarations (table : AliasTable) (schemas : List (String × Members)) :
    Except Failure (List SchemaType) := do
  let members := schemas.flatMap fun (space, members) => members.map fun m => (space, m)
  let types ← members.mapM fun (space, key, v) => typeOf table space key v
  return types.reduceOption

/-! ## References -/

/-- Refuses a type with a base type or a target that is not declared. -/
def checkReferences (types : Table SchemaType) (t : SchemaType) : Except Failure Unit := do
  if let some base := t.base? then
    unless types.has base do throw (.document (.undeclaredBase base t.name))
  for p in t.properties do
    unless types.has p.typeName || isPrimitive p.typeName do
      throw (.document (.undeclaredType p.typeName p.canonicalName))

/-- The name of the entity container of a document. -/
def containerName (table : AliasTable) (document : Document) : Except Failure String :=
  match setMember? "$EntityContainer" document with
  | none => .error (.document .noContainer)
  | some v => (shown v).bind table.resolve

/-- Whether a name is that of a declared entity container. -/
def declaresContainer (types : Table SchemaType) (name : String) : Bool :=
  (types.get? name).any (·.kind == .container)

/-- The model of a document. -/
def extract (version : String) (document : Document) : Except Failure Model := do
  let table ← AliasTable.ofDocument document
  let container ← containerName table document
  let declared ← declarations table (← schemas document)
  let types := Table.ofList (declared.map fun t => (t.name, t))
  unless declaresContainer types container do
    throw (.document (.undeclaredContainer container))
  types.values.forM (checkReferences types)
  let q ← QualifiedName.read container
  return ⟨version, q.space, types, container⟩

/-! ## Notices -/

/-- Something that extraction passed over, or its result. -/
inductive Notice where
  | noObject (name : String)
  | otherKind (name : String) (kind : Value)
  | otherMember (owner name : String) (kind : Value)
  | operationImport (owner name : String)
  | extracted (count : Nat) (version container : String)
  deriving DecidableEq, Repr

/-- How many levels a value may have to be quoted in a notice. -/
def quotedLevels : Nat := 979

/-- A value as notices quote it. Only collections in too many others stand against it. -/
def quotation (v : Value) : Except Failure String :=
  match v.hindrance? quotedLevels with
  | some .tooDeep => .error (.accident .tooDeep)
  | _ => .ok v.quoted

/-- The wording of a notice, if it can be put into words. -/
def Notice.words : Notice → Except Failure String
  | .noObject name => .ok s!"Skipping non-type schema element {name}"
  | .otherKind name kind => do return s!"Skipping {name} of kind {← quotation kind}"
  | .otherMember owner name kind => do
    return s!"Skipping {owner}/{name} of kind {← quotation kind}"
  | .operationImport owner name => .ok s!"Skipping operation import {owner}/{name}"
  | .extracted count version container =>
    .ok s!"Extracted {count} types from CSDL {version} (container {container})"

/-- The notices of a row of steps, up to and including the first one that fails. -/
def noticesUntil {α β : Type} (step : α → Except Failure β) (noticesOf : α → List Notice) :
    List α → List Notice
  | [] => []
  | a :: rest =>
    noticesOf a ++
      match step a with
      | .ok _ => noticesUntil step noticesOf rest
      | .error _ => []

/-- The notices about the members of a structured type or a container. -/
def memberNotices (table : AliasTable) (name : String) (kind : TypeKind) (member : Members) :
    List Notice :=
  match namedObjects member, kind with
  | .ok elements, .container =>
    noticesUntil (fun (n, element) => resourceOf table name n element)
      (fun (n, element) => if isOperationImport element then [.operationImport name n] else [])
      elements
  | .ok elements, .entity | .ok elements, .complex =>
    noticesUntil (fun (n, element) => propertyOf table name n element)
      (fun (n, element) =>
        match MemberKind.of element with
        | .other v => [.otherMember name n v]
        | _ => [])
      elements
  | _, _ => []

/-- The notices about a member of a schema. -/
def typeNotices (table : AliasTable) (space : String) (key : Scalar) (v : Value) : List Notice :=
  match key with
  | .text name =>
    let qualified := space ++ "." ++ name
    if isReserved name || isAnnotation name then []
    else
      match v.bare with
      | .object member =>
        match kindOf member with
        | .ok (some kind) => memberNotices table qualified kind member
        | .ok none => [.otherKind qualified ((Keyed.get? "$Kind" member).getD .null)]
        | .error _ => []
      | _ => [.noObject qualified]
  | _ => []

/-- What extraction passes over, up to the first failure, and its result. -/
def notices (version : String) (document : Document) : List Notice :=
  match AliasTable.ofDocument document, schemas document with
  | .ok table, .ok declared =>
    match containerName table document with
    | .ok _ =>
      let members := declared.flatMap fun (space, members) => members.map fun m => (space, m)
      noticesUntil (fun (space, key, v) => typeOf table space key v)
          (fun (space, key, v) => typeNotices table space key v) members ++
        match extract version document with
        | .ok m => [.extracted m.types.length version m.entityContainer]
        | .error _ => []
    | .error _ => []
  | _, _ => []

end CsdlRoutes.Schema
