import CsdlRoutes.Schema.QualifiedName
import CsdlRoutes.Table

/-!
# The schema model

A schema model is a graph: types are its nodes, properties its edges. One type, the entity container,
is distinguished; its properties are the top-level resources of the service.

* `Property.canonicalName` is the identity of an edge.
* `Model.getType` looks a type up. Primitive types need no declaration.
* `Model.isReference` says which edges only relate two resources.
-/

namespace CsdlRoutes.Schema

/-- The kinds of types. -/
inductive TypeKind where
  | entity
  | complex
  | enum
  | primitive
  | container
  deriving DecidableEq, Repr

/-- The word for a kind of type. -/
def TypeKind.word : TypeKind → String
  | .entity => "entity"
  | .complex => "complex"
  | .enum => "enum"
  | .primitive => "primitive"
  | .container => "container"

/-- All kinds of types. -/
def TypeKind.all : List TypeKind := [.entity, .complex, .enum, .primitive, .container]

/-- The kind of type that a word stands for. -/
def TypeKind.ofWord? (word : String) : Option TypeKind := TypeKind.all.find? (·.word == word)

/-- An edge of the graph: a member that a type declares, and the type that it leads to. -/
structure Property where
  name : String
  declaringType : String
  typeName : String
  isCollection : Bool := false
  isNavigation : Bool := false
  /-- Whether the target belongs to the owner. -/
  containsTarget : Bool := false
  deriving DecidableEq, Repr

/-- The identity of an edge, whichever subtype it was reached through. -/
def Property.canonicalName (p : Property) : String := p.declaringType ++ "/" ++ p.name

/-- A type with the properties that it declares itself. -/
structure SchemaType where
  name : String
  kind : TypeKind
  base? : Option String := none
  isAbstract : Bool := false
  key : List String := []
  properties : List Property := []
  deriving DecidableEq, Repr

/-- The name of a type without its namespace. -/
def SchemaType.shortName (t : SchemaType) : String := Schema.shortName t.name

/-- A graph of types. -/
structure Model where
  version : String
  space : String
  /-- The types in the order of their declaration. -/
  types : Table SchemaType
  entityContainer : String
  deriving DecidableEq, Repr

namespace Model

/-- The type with a name. A primitive type that is not declared has no properties. -/
def getType (m : Model) (name : String) : Except Failure SchemaType :=
  match m.types.get? name with
  | some t => .ok t
  | none =>
    if isPrimitive name then .ok ⟨name, .primitive, none, false, [], []⟩
    else .error (.schema (.unknownType name m.space))

/-- The entity container. -/
def rootContainer (m : Model) : Except Failure SchemaType :=
  match m.types.get? m.entityContainer with
  | some t =>
    if t.kind = .container then .ok t
    else .error (.schema (.containerNotFound m.entityContainer))
  | none => .error (.schema (.containerNotFound m.entityContainer))

/-- Whether a type is the entity container. -/
def isRootContainer (m : Model) (t : SchemaType) : Bool := t.name == m.entityContainer

/-- The type that a property leads to. -/
def targetType (m : Model) (p : Property) : Except Failure SchemaType := m.getType p.typeName

/-- Whether a property only relates its owner to a resource that belongs elsewhere. The members of
the entity container never do. -/
def isReference (m : Model) (p : Property) : Bool :=
  p.declaringType != m.entityContainer && p.isNavigation && !p.containsTarget

/-- A type by its qualified name, or by its short name where that is the name of one type alone. -/
def findType? (m : Model) (name : String) : Option SchemaType :=
  match m.types.get? name with
  | some t => some t
  | none =>
    match m.types.values.filter (·.shortName == name) with
    | [t] => some t
    | _ => none

end Model

end CsdlRoutes.Schema
