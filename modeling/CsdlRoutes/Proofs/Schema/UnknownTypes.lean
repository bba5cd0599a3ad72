import CsdlRoutes.Proofs.Postconditions
import CsdlRoutes.Schema.Segments

/-!
# Why questions about a model fail

A model may refer to types that it does not have. Nothing else can go wrong: a question about a type
fails when it comes to a name that is neither declared nor that of a primitive type, and the failure
tells the name.

* `Model.Unknown`: the failures that tell an unknown name.
* `unknown_baseTypes`, `unknown_derivedTypes`, `unknown_segments`: the questions fail with no other.
-/

namespace CsdlRoutes.Schema.Model

variable {m : Model}

/-- A failure tells a name that is neither declared nor that of a primitive type. -/
def Unknown (m : Model) (failure : Failure) : Prop :=
  ∃ name, failure = .schema (.unknownType name m.space) ∧ m.types.get? name = none ∧
    isPrimitive name = false

theorem unknown_getType (m : Model) (name : String) : FailsOnly m.Unknown (m.getType name) := by
  unfold getType
  split
  · exact .ok ⟨_, rfl⟩
  · rename_i hnone
    split
    · exact .ok ⟨_, rfl⟩
    · rename_i hprimitive
      exact .error ⟨name, rfl, hnone, by simpa using hprimitive⟩

theorem unknown_targetType (m : Model) (p : Property) : FailsOnly m.Unknown (m.targetType p) :=
  unknown_getType m p.typeName

theorem unknown_basesFrom (m : Model) (fuel : Nat) (met : List String) (t : SchemaType) :
    FailsOnly m.Unknown (m.basesFrom fuel met t) := by
  induction fuel generalizing met t with
  | zero => exact .ok ⟨[], rfl⟩
  | succ fuel ih =>
    rw [basesFrom]
    split
    · exact .ok ⟨[], rfl⟩
    · split
      · exact .ok ⟨[], rfl⟩
      · exact (unknown_getType m _).bind fun b _ => (ih _ b).bind fun _ _ => .ok ⟨_, rfl⟩

theorem unknown_baseTypes (m : Model) (t : SchemaType) : FailsOnly m.Unknown (m.baseTypes t) :=
  unknown_basesFrom m _ _ t

theorem unknown_derivedFrom (m : Model) (fuel : Nat) (met pending : List String) :
    FailsOnly m.Unknown (m.derivedFrom fuel met pending) := by
  induction fuel generalizing met pending with
  | zero => exact .ok ⟨[], rfl⟩
  | succ fuel ih =>
    cases pending with
    | nil => exact .ok ⟨[], rfl⟩
    | cons name rest =>
      rw [derivedFrom]
      split
      · exact ih _ _
      · exact (unknown_getType m _).bind fun _ _ => (ih _ _).bind fun _ _ => .ok ⟨_, rfl⟩

theorem unknown_derivedTypes (m : Model) (t : SchemaType) :
    FailsOnly m.Unknown (m.derivedTypes t) := unknown_derivedFrom m _ _ _

theorem unknown_isSegment (m : Model) (isRoot : Bool) (p : Property) :
    FailsOnly m.Unknown (m.isSegment isRoot p) := by
  unfold isSegment
  split
  · exact .ok ⟨true, rfl⟩
  · exact (unknown_targetType m p).bind fun _ _ => .ok ⟨_, rfl⟩

theorem unknown_distinctSegments (m : Model) (isRoot : Bool) (taken : List String)
    (ps : List Property) : FailsOnly m.Unknown (m.distinctSegments isRoot taken ps) := by
  induction ps generalizing taken with
  | nil => exact .ok ⟨[], rfl⟩
  | cons p rest ih =>
    rw [distinctSegments]
    split
    · exact ih taken
    · refine (unknown_isSegment m isRoot p).bind fun qualifies _ => ?_
      cases qualifies with
      | false => exact ih taken
      | true => exact (ih _).bind fun _ _ => .ok ⟨_, rfl⟩

theorem unknown_segments (m : Model) (t : SchemaType) : FailsOnly m.Unknown (m.segments t) := by
  refine ((unknown_baseTypes m t).bind fun _ _ => ?_).bind fun _ _ => unknown_distinctSegments ..
  exact (unknown_derivedTypes m t).bind fun _ _ => .ok ⟨_, rfl⟩

end CsdlRoutes.Schema.Model
