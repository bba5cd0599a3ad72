import CsdlRoutes.Schema.Access
import CsdlRoutes.Schema.QualifiedName

/-!
# Namespaces and aliases

References to types may use an alias in place of a namespace. The alias table of a document takes
every usable name to the namespace it stands for: the namespaces of its own schemas and of the
included ones to themselves, and their aliases to them. Later assignments win.

* `namespaces` lists the schemas that a document declares.
* `AliasTable.ofDocument` is the alias table of a document.
* `AliasTable.resolve` expands a reference.
-/

namespace CsdlRoutes.Schema

/-- A whole schema document. -/
abbrev Document := Members

/-- The name of a member, which has to be a text. -/
def memberName (key : Scalar) : Except Failure String := textOf (.scalar key)

/-- The schemas that a document declares: the objects among its members that are not reserved. -/
def schemas : Document → Except Failure (List (String × Members))
  | [] => .ok []
  | (key, v) :: rest => do
    let name ← memberName key
    let more ← schemas rest
    match v.bare with
    | .object members => return if isReserved name then more else (name, members) :: more
    | _ => return more

/-- The namespaces of the schemas that a document declares. -/
def namespaces (document : Document) : Except Failure (List String) := do
  return (← schemas document).map (·.1)

/-- What every usable name stands for. -/
abbrev AliasTable := Keyed Scalar

/-- The assignment that an alias makes, if there is one. -/
def aliasAssignment (space : Scalar) (members : Members) :
    Except Failure (List (Scalar × Scalar)) :=
  match Keyed.get? "$Alias" members with
  | none => .ok []
  | some v =>
    if v.isTruthy then do return [(← keyOf v, space)]
    else .ok []

/-- The assignments of a declared schema. -/
def schemaAssignments (name : String) (members : Members) :
    Except Failure (List (Scalar × Scalar)) := do
  return (.text name, .text name) :: (← aliasAssignment (.text name) members)

/-- The assignments of an included schema. -/
def includeAssignments (v : Value) : Except Failure (List (Scalar × Scalar)) :=
  match v.bare with
  | .object members =>
    match Keyed.get? "$Namespace" members with
    | none => .ok []
    | some space =>
      if space.isTruthy then do
        let space ← keyOf space
        return (space, space) :: (← aliasAssignment space members)
      else .ok []
  | v => .error (.accident (.wrongShape v))

/-- The assignments of a reference to another document. -/
def referenceAssignments (v : Value) : Except Failure (List (Scalar × Scalar)) :=
  match v.bare with
  | .object members => do
    let includes ← iterated ((Keyed.get? "$Include" members).getD (.list []))
    return (← includes.mapM includeAssignments).flatten
  | v => .error (.accident (.wrongShape v))

/-- The references of a document to others. -/
def references (document : Document) : Except Failure (List Value) :=
  match (Keyed.get? "$Reference" document).map Value.bare with
  | none => .ok []
  | some (.object members) => .ok (members.map (·.2))
  | some v => .error (.accident (.wrongShape v))

/-- The alias table of a document. -/
def AliasTable.ofDocument (document : Document) : Except Failure AliasTable := do
  let declared ← (← schemas document).mapM fun (name, members) => schemaAssignments name members
  let included ← (← references document).mapM referenceAssignments
  return Keyed.ofList
    ((.text primitiveSpace, .text primitiveSpace) :: (declared.flatten ++ included.flatten))

/-- Expands a reference to the name with its namespace. -/
def AliasTable.resolve (table : AliasTable) (name : String) : Except Failure String := do
  let q ← QualifiedName.read name
  match Keyed.get? q.space table with
  | some space => return (← shown (.scalar space)) ++ "." ++ q.short
  | none => .error (.document (.unknownNamespace name q.space))

/-- Expands the reference that stands in a document, which has to be a text. -/
def AliasTable.resolveValue (table : AliasTable) (v : Value) : Except Failure String :=
  (textOf v).bind table.resolve

end CsdlRoutes.Schema
