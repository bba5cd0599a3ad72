import CsdlRoutes.Schema.Segments

/-!
# The index of subtypes

A model looks its direct subtypes up in an index. The index is built when subtypes are asked for the
first time, and it is kept with the model, for whoever asks next.

* `Model.subtypeIndex` is the index.
* `Cached` are computations that may build the index or find it built.
* `Model.cachedDerivedTypes`, `Model.cachedSegments`: the questions about a type that need it.
-/

namespace CsdlRoutes.Schema

/-- The names of types under the names of their base types. -/
abbrev SubtypeIndex := Table (List String)

namespace SubtypeIndex

/-- The names under a base type. -/
def under (index : SubtypeIndex) (base : String) : List String := (index.get? base).getD []

/-- Enters a type under its base type, if it has one. -/
def enter (index : SubtypeIndex) (t : SchemaType) : SubtypeIndex :=
  match t.base? with
  | none => index
  | some base => index.put base (index.under base ++ [t.name])

end SubtypeIndex

/-- A computation that finds the index built or not, and may leave it built. A failure does not undo
that. -/
abbrev Cached (α : Type) := ExceptT Failure (StateM (Option SubtypeIndex)) α

namespace Model

/-- The direct subtypes of all types, in the order of their declaration. -/
def subtypeIndex (m : Model) : SubtypeIndex := m.types.values.foldl SubtypeIndex.enter []

/-- The index that is kept, or else a new one, which is kept from then on. -/
def fetchIndex (m : Model) : Cached SubtypeIndex := do
  match ← get with
  | some index => return index
  | none =>
    set (some m.subtypeIndex)
    return m.subtypeIndex

/-- The subtypes that a queue of names leads to by an index, each once. -/
def derivedBy (m : Model) (index : SubtypeIndex) :
    Nat → List String → List String → Except Failure (List SchemaType)
  | 0, _, _ => .ok []
  | _ + 1, _, [] => .ok []
  | fuel + 1, met, name :: pending =>
    if name ∈ met then m.derivedBy index fuel met pending
    else do
      let t ← m.getType name
      let more ← m.derivedBy index fuel (name :: met) (pending ++ index.under name)
      return t :: more

/-- The direct and indirect subtypes of a type, the nearer first. -/
def cachedDerivedTypes (m : Model) (t : SchemaType) : Cached (List SchemaType) := do
  let index ← m.fetchIndex
  m.derivedBy index m.types.length [t.name] (index.under t.name)

/-- The types that contribute segments to a type: itself, its base types and its subtypes. -/
def cachedContributors (m : Model) (t : SchemaType) : Cached (List SchemaType) := do
  let bases ← m.baseTypes t
  let derived ← m.cachedDerivedTypes t
  return t :: (bases ++ derived)

/-- The route segments of a type that counts as the entity container or does not. -/
def cachedSegmentsAs (m : Model) (isRoot : Bool) (t : SchemaType) : Cached (List Property) := do
  let types ← m.cachedContributors t
  m.distinctSegments isRoot [] (types.flatMap (·.properties))

/-- The route segments of a type. -/
def cachedSegments (m : Model) (t : SchemaType) : Cached (List Property) :=
  m.cachedSegmentsAs (m.isRootContainer t) t

end Model

end CsdlRoutes.Schema
