/-!
# Characters by their code points

Escapes give characters by their code points, and among these are halves of pairs, which are no
characters by themselves. So that a text keeps them apart, each half is stood for by a character of
its own: these are the last private characters, which have no meaning outside of private agreements.

* `charOfCode` is the character that a code point is kept as.
* `isStandIn` tells the characters that stand for halves of pairs.
-/

namespace CsdlRoutes.Text

/-- Whether a code point is half a pair. -/
def isHalf (code : Nat) : Bool := decide (0xd800 ≤ code) && decide (code ≤ 0xdfff)

/-- The code point of the first character that stands for half a pair. -/
def firstStandIn : Nat := 0x10f800

/-- Whether a character stands for half a pair. -/
def isStandIn (c : Char) : Bool := decide (firstStandIn ≤ c.toNat)

/-- The character that a code point is kept as. -/
def charOfCode (code : Nat) : Char :=
  if isHalf code then Char.ofNat (firstStandIn + (code - 0xd800)) else Char.ofNat code

/-- A character is kept as it is. -/
theorem charOfCode_toNat (c : Char) : charOfCode c.toNat = c := by
  have hvalid : c.toNat < 0xd800 ∨ 0xdfff < c.toNat ∧ c.toNat < 0x110000 := c.valid
  have hwhole : isHalf c.toNat = false := by
    simp only [isHalf, Bool.and_eq_false_iff, decide_eq_false_iff_not]
    omega
  rw [charOfCode, hwhole, if_neg Bool.false_ne_true]
  exact Char.ofNat_toNat c

end CsdlRoutes.Text
