import CsdlRoutes.Schema.Inheritance

/-!
# Route segments

A route segment is a property that leads on to another resource: any member of the entity container,
and elsewhere a property whose target is an entity type. What a reference to a type leads to may be
of any subtype, so the segments of a type are its own, those of its base types and those of its
subtypes, each canonical name once.

* `Model.segments` lists the route segments of a type.
-/

namespace CsdlRoutes.Schema.Model

/-- Whether a property may be a segment of a route. -/
def isSegment (m : Model) (isRoot : Bool) (p : Property) : Except Failure Bool :=
  if isRoot then .ok true
  else do return decide ((← m.targetType p).kind = .entity)

/-- The segments among a row of properties, leaving out canonical names that were taken before. -/
def distinctSegments (m : Model) (isRoot : Bool) :
    List String → List Property → Except Failure (List Property)
  | _, [] => .ok []
  | taken, p :: rest =>
    if p.canonicalName ∈ taken then m.distinctSegments isRoot taken rest
    else do
      if ← m.isSegment isRoot p then
        let more ← m.distinctSegments isRoot (p.canonicalName :: taken) rest
        return p :: more
      else m.distinctSegments isRoot taken rest

/-- The types that contribute segments to a type: itself, its base types and its subtypes. -/
def contributors (m : Model) (t : SchemaType) : Except Failure (List SchemaType) := do
  let bases ← m.baseTypes t
  let derived ← m.derivedTypes t
  return t :: (bases ++ derived)

/-- The route segments of a type that counts as the entity container or does not. -/
def segmentsAs (m : Model) (isRoot : Bool) (t : SchemaType) : Except Failure (List Property) := do
  let types ← m.contributors t
  m.distinctSegments isRoot [] (types.flatMap (·.properties))

/-- The route segments of a type. -/
def segments (m : Model) (t : SchemaType) : Except Failure (List Property) :=
  m.segmentsAs (m.isRootContainer t) t

end CsdlRoutes.Schema.Model
