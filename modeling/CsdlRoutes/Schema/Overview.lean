import CsdlRoutes.Schema.Segments

/-!
# Overviews of a schema

An overview shows the types of a model, or the segments that a type offers, as rows of a table.

* `Model.typeRows` are the rows of all types.
* `Model.segmentRows` are the rows of the segments of a type.
-/

namespace CsdlRoutes.Schema

/-- The headers of an overview of types. -/
def typeHeaders : List String := ["Type", "Kind", "Base", "Properties", "Derived"]

/-- The headers of an overview of segments. -/
def segmentHeaders : List String := ["Segment", "Declared On", "Target", "Multiplicity", "Edge"]

namespace Model

/-- The row of a type: its name, its kind, its base, and the numbers of its own properties and of the
types derived from it. -/
def typeRow (m : Model) (t : SchemaType) : Except Failure (List String) := do
  let derived ← m.derivedTypes t
  let base := (t.base?.filter (!·.isEmpty)).getD "-"
  return [t.name, t.kind.word, base, toString t.properties.length, toString derived.length]

/-- The rows of all types. -/
def typeRows (m : Model) : Except Failure (List (List String)) := m.types.values.mapM m.typeRow

/-- The row of a segment. -/
def segmentRow (m : Model) (p : Property) : List String :=
  [p.name, p.declaringType, p.typeName, if p.isCollection then "collection" else "single",
   if m.isReference p then "reference" else "containment"]

/-- The rows of the segments of a type. -/
def segmentRows (m : Model) (t : SchemaType) : Except Failure (List (List String)) := do
  return (← m.segments t).map m.segmentRow

end Model

end CsdlRoutes.Schema
