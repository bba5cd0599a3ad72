/-!
# Sets of characters as ranges of code points

The character classes of this library are finite unions of closed ranges, in ascending order.
-/

namespace CsdlRoutes.Text

/-- Closed ranges of code points, in ascending order. -/
abbrev Ranges := List (Nat × Nat)

/-- Whether a character lies in one of the ranges. -/
def Ranges.contains (ranges : Ranges) (c : Char) : Bool :=
  ranges.any fun (lo, hi) => decide (lo ≤ c.toNat) && decide (c.toNat ≤ hi)

end CsdlRoutes.Text
