import CsdlRoutes.Schema.Model

/-!
# Inheritance

The base types of a type form a chain, its subtypes a graph that is searched breadth first. A model
may hold cycles, so both walks stop at names that they met before.

* `Model.baseTypes` is the chain of base types, the nearest first.
* `Model.derivedTypes` lists the direct and indirect subtypes, the nearer first.
-/

namespace CsdlRoutes.Schema.Model

/-- The chain of base types above a type, up to a name that was met before. -/
def basesFrom (m : Model) : Nat → List String → SchemaType → Except Failure (List SchemaType)
  | 0, _, _ => .ok []
  | fuel + 1, met, t =>
    match t.base? with
    | none => .ok []
    | some base =>
      if base ∈ met then .ok []
      else do
        let b ← m.getType base
        let more ← m.basesFrom fuel (b.name :: met) b
        return b :: more

/-- The base types of a type, the nearest first. Every step but one meets a new name or repeats the
steps before, so the walk ends within two rounds through the types. -/
def baseTypes (m : Model) (t : SchemaType) : Except Failure (List SchemaType) :=
  m.basesFrom (2 * m.types.length + 1) [t.name] t

/-- The names of the types that have a given base, in the order of their declaration. -/
def directSubtypes (m : Model) (base : String) : List String :=
  (m.types.values.filter fun t => t.base? == some base).map (·.name)

/-- The subtypes that a queue of names leads to, each once. -/
def derivedFrom (m : Model) :
    Nat → List String → List String → Except Failure (List SchemaType)
  | 0, _, _ => .ok []
  | _ + 1, _, [] => .ok []
  | fuel + 1, met, name :: pending =>
    if name ∈ met then m.derivedFrom fuel met pending
    else do
      let t ← m.getType name
      let more ← m.derivedFrom fuel (name :: met) (pending ++ m.directSubtypes name)
      return t :: more

/-- The direct and indirect subtypes of a type, the nearer first. Every type has one base, so it
enters the queue once, and the number of types bounds the walk. -/
def derivedTypes (m : Model) (t : SchemaType) : Except Failure (List SchemaType) :=
  m.derivedFrom m.types.length [t.name] (m.directSubtypes t.name)

end CsdlRoutes.Schema.Model
