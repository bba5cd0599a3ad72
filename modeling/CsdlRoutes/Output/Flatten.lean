import CsdlRoutes.Value

/-!
# Flattened settings

Nested settings are shown as one row of pairs. The key of a pair joins the keys on the way to a leaf
by dots.

* `flatten` lists the pairs of an object in document order.
-/

namespace CsdlRoutes.Output

mutual

/-- The pairs of the members of an object that stands under a given start of keys. -/
def flattenUnder (stem : String) : List (Scalar × Value) → List (String × Value)
  | [] => []
  | (key, v) :: rest => flattenMember (stem ++ key.display) v ++ flattenUnder stem rest

/-- The pairs of a member with a given whole key. -/
def flattenMember (name : String) : Value → List (String × Value)
  | .object members => flattenUnder (name ++ ".") members
  | v => [(name, v)]

end

/-- The pairs of an object. -/
def flatten (members : Members) : List (String × Value) := flattenUnder "" members

end CsdlRoutes.Output
