import CsdlRoutes.Text.Digit

/-!
# Base64

Three bytes are written as four characters of six bits each. Where fewer bytes are left at the end,
equals signs fill the last group up. A reader passes over everything that is neither such a character
nor an equals sign, and stops when a group has been filled up.

* `readBase64?` reads the bytes.
-/

namespace CsdlRoutes.Text

/-- The six bits that a character stands for. -/
def sextet? (c : Char) : Option Nat :=
  if 'A' ≤ c ∧ c ≤ 'Z' then some (c.toNat - 65)
  else if 'a' ≤ c ∧ c ≤ 'z' then some (c.toNat - 71)
  else if isAsciiDigit c then some (c.toNat + 4)
  else if c = '+' then some 62
  else if c = '/' then some 63
  else none

/-- A group of four characters of which some were read. -/
structure Sextets where
  /-- How many characters were read, below four. -/
  count : Nat
  /-- The bits that have not made up a byte yet. -/
  left : Nat
  /-- How many equals signs followed. -/
  fillers : Nat
  deriving DecidableEq, Repr

/-- A group before its first character. -/
def Sextets.none : Sextets := ⟨0, 0, 0⟩

/-- Adds a character to a group: the byte that it completes, and the group that is open then. -/
def Sextets.add (g : Sextets) (bits : Nat) : List UInt8 × Sextets :=
  match g.count with
  | 0 => ([], ⟨1, bits, 0⟩)
  | 1 => ([UInt8.ofNat (g.left * 4 + bits / 16)], ⟨2, bits % 16, 0⟩)
  | 2 => ([UInt8.ofNat (g.left * 16 + bits / 4)], ⟨3, bits % 4, 0⟩)
  | _ => ([UInt8.ofNat (g.left * 64 + bits)], .none)

/-- Adds an equals sign to a group. It counts from the third place on. -/
def Sextets.fill (g : Sextets) : Sextets :=
  if 2 ≤ g.count then { g with fillers := g.fillers + 1 } else g

/-- Whether equals signs have filled a group up. -/
def Sextets.isFilled (g : Sextets) : Bool := decide (2 ≤ g.count) && decide (4 ≤ g.count + g.fillers)

/-- Reads on in a group. The text must not end inside one. -/
def readSextets? (g : Sextets) : List Char → Option (List UInt8)
  | [] => if g.count = 0 then some [] else none
  | c :: rest =>
    if c = '=' then if g.fill.isFilled then some [] else readSextets? g.fill rest
    else
      match sextet? c with
      | none => readSextets? g rest
      | some bits => (readSextets? (g.add bits).2 rest).map ((g.add bits).1 ++ ·)

/-- Reads bytes. -/
def readBase64? (cs : List Char) : Option (List UInt8) := readSextets? .none cs

end CsdlRoutes.Text
