import CsdlRoutes.Route.Words
import CsdlRoutes.Schema.Segments

/-!
# URL templates of routes

A route is the row of properties from a member of the entity container down to one resource. Its URL
template names them in order. A collection that is not last is addressed by a key, for which a
placeholder follows its name. A property that a subtype of the previous target declares is preceded
by a cast to that subtype. A route to a mere reference ends in `$ref`.

* `keyParameters` lists the placeholders of a route.
* `castBefore` is the cast in front of a segment.
* `template` is the URL template, `commandWords` are the words of the command.
-/

namespace CsdlRoutes.Route

open Schema (Model Property)

/-- The last segment of a route that addresses a reference. -/
def referenceSegment : String := "$ref"

/-- A placeholder for the key of a collection. -/
structure KeyParameter where
  name : String
  /-- The position of the collection in the route. -/
  position : Nat
  segment : Property
  /-- The type of the members of the collection. -/
  typeName : String
  deriving DecidableEq, Repr

/-- The name of a placeholder, given the stems of those before it: from the second use of a stem on,
a number follows it. -/
def placeholder (used : List String) (stem : String) : String :=
  let n := used.count stem + 1
  if n = 1 then stem else stem ++ toString n

/-- The placeholders of the segments from a position on, given the stems of those before. -/
def keyParametersFrom (m : Model) :
    List String → Nat → List Property → Except Failure (List KeyParameter)
  | _, _, [] => .ok []
  | used, position, p :: rest =>
    if p.isCollection then do
      let target ← m.targetType p
      let stem := lowerFirst target.shortName ++ "Id"
      let more ← keyParametersFrom m (used ++ [stem]) (position + 1) rest
      return ⟨placeholder used stem, position, p, target.name⟩ :: more
    else keyParametersFrom m used (position + 1) rest

/-- The placeholders of a route: one for each collection but the last segment. -/
def keyParameters (m : Model) (route : List Property) : Except Failure (List KeyParameter) :=
  keyParametersFrom m [] 0 route.dropLast

/-- The cast in front of a segment that follows another one. -/
def castBetween (m : Model) (previous p : Property) : Except Failure (Option String) :=
  if p.declaringType = m.entityContainer then .ok none
  else do
    let target ← m.targetType previous
    if p.declaringType = target.name then return none
    let bases ← m.baseTypes target
    if bases.any (·.name == p.declaringType) then return none
    else return some p.declaringType

/-- The cast in front of a segment, given the segment before it. -/
def castBefore (m : Model) (previous? : Option Property) (p : Property) :
    Except Failure (Option String) :=
  match previous? with
  | none => .ok none
  | some previous => castBetween m previous p

/-- The cast in front of each segment of a route, from a segment on. -/
def castsFrom (m : Model) (previous? : Option Property) :
    List Property → Except Failure (List (Option String))
  | [] => .ok []
  | p :: rest => do
    let cast ← castBefore m previous? p
    let more ← castsFrom m (some p) rest
    return cast :: more

/-- The cast in front of each segment of a route. -/
def casts (m : Model) (route : List Property) : Except Failure (List (Option String)) :=
  castsFrom m none route

/-- Whether a route ends in a mere reference. -/
def isReference (m : Model) (route : List Property) : Bool :=
  route.getLast?.any m.isReference

/-- The parts of a template from a position on: casts, names and placeholders. -/
def templateParts (keys : List KeyParameter) :
    Nat → List (Property × Option String) → List String
  | _, [] => []
  | position, (p, cast) :: rest =>
    cast.toList ++ p.name ::
      (((keys.find? (·.position == position)).map fun k => "\x7b" ++ k.name ++ "\x7d").toList ++
        templateParts keys (position + 1) rest)

/-- A template from its placeholders and casts. -/
def assemble (m : Model) (route : List Property) (keys : List KeyParameter)
    (casts : List (Option String)) : String :=
  let parts := templateParts keys 0 (route.zip casts)
  "/" ++ "/".intercalate (parts ++ if isReference m route then [referenceSegment] else [])

/-- The URL template of a route. -/
def template (m : Model) (route : List Property) : Except Failure String := do
  let keys ← keyParameters m route
  return assemble m route keys (← casts m route)

/-- The URL of a route without placeholders. -/
def bareTemplate (m : Model) (route : List Property) : Except Failure String := do
  return assemble m route [] (← casts m route)

/-- The words of the command for a route. -/
def commandWords (route : List Property) : List String := route.map (kebab ·.name)

end CsdlRoutes.Route
