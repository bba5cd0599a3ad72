import CsdlRoutes.Schema.Model

/-!
# Models from records

A model can be given directly, as an object with a member for each field. The properties of a type
are read before the type, and the types before the model; each of them reports its own problems. A
type that stands alone is read with its properties, and all their problems are reported together.

* `Property.read`, `SchemaType.read` and `Model.read` read such objects.
* `SchemaType.readAlone` reads a type that stands alone.
-/

namespace CsdlRoutes.Schema

/-- The problems of a record as a failure. -/
def ofChecked {α : Type} (a : Checked α) : Except Failure α :=
  a.mapError fun problems => .accident (.record problems)

/-- A kind of type. -/
def kindField : Value → Checked TypeKind
  | .scalar (.text word) =>
    match TypeKind.ofWord? word with
    | some kind => .ok kind
    | none => .problem .unknownKind
  | _ => .problem .unknownKind

/-- Checks the fields of a property. -/
def Property.check (members : Members) : Checked Property :=
  let fields :=
    (field textField "name" members).both <|
    (field textField "declaring_type" members).both <|
    (field textField "type_name" members).both <|
    (fieldOr false truthField "is_collection" members).both <|
    (fieldOr false truthField "is_navigation" members).both <|
    fieldOr false truthField "contains_target" members
  fields.map fun (name, declaringType, typeName, collection, navigation, contains) =>
    ⟨name, declaringType, typeName, collection, navigation, contains⟩

/-- A list of properties. -/
def propertiesField : Value → Checked (List Property)
  | .list items => Checked.each (objectField Property.check) 0 items
  | _ => .problem .notList

/-- Checks the fields of a type, given those of its properties. -/
def SchemaType.checkWith (properties : Checked (List Property)) (members : Members) :
    Checked SchemaType :=
  let fields :=
    (field textField "name" members).both <|
    (field kindField "kind" members).both <|
    (fieldOr none optionalTextField "base_type" members).both <|
    (fieldOr false truthField "abstract" members).both <|
    (fieldOr [] textListField "key" members).both properties
  fields.map fun (name, kind, base?, isAbstract, key, properties) =>
    ⟨name, kind, base?, isAbstract, key, properties⟩

/-- Reads a property. -/
def Property.read (members : Members) : Except Failure Property := ofChecked (Property.check members)

/-- Reads a type that stands alone. The problems of its properties are reported with its own. -/
def SchemaType.readAlone (members : Members) : Except Failure SchemaType :=
  ofChecked (SchemaType.checkWith (fieldOr [] propertiesField "properties" members) members)

/-- The objects in a list that is a member. -/
def objectsOf (name : String) (members : Members) : List Members :=
  match Keyed.get? name members with
  | some (.list items) => items.filterMap fun v =>
    match v with
    | .object ms => some ms
    | _ => none
  | _ => []

/-- Reads a type of a model. -/
def SchemaType.read (members : Members) : Except Failure SchemaType := do
  let properties ← (objectsOf "properties" members).mapM Property.read
  ofChecked (SchemaType.checkWith (.ok properties) members)

/-- The key of a type in a model: a member of its own, or else the name of the type. -/
def typeKey (members : Members) (t : SchemaType) : String :=
  match Keyed.get? "id" members with
  | some (.scalar (.text id)) => id
  | _ => t.name

/-- Reads a model. -/
def Model.read (members : Members) : Except Failure Model := do
  let types ← (objectsOf "types" members).mapM fun ms => do
    let t ← SchemaType.read ms
    return (typeKey ms t, t)
  let fields :=
    (fieldOr "4.0" textField "version" members).both <|
    (field textField "namespace" members).both <|
    field textField "entity_container" members
  ofChecked <| fields.map fun (version, space, container) =>
    ⟨version, space, Table.ofList types, container⟩

end CsdlRoutes.Schema
