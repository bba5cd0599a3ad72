import CsdlRoutes.Number.Binary64

/-!
# Shortest decimal text of a number

A finite number is written with the fewest significant digits that read back as the same number; of
two such decimals the nearer one is taken.

* `shortestDecimal` finds the digits. A number reads back from every real of its rounding interval,
  whose ends belong to it when the mantissa is even. On the grid of decimals with a given count of
  digits, if any point lies in the interval then one of the two neighbours of the number does, so
  only those two are tried.
* `Layout` holds the decisions of a text format: which exponents are written in positional notation,
  how an exponent is written, and the words for what is not finite.
-/

namespace CsdlRoutes.Number

/-- A decimal `coefficient * 10 ^ exponent`. -/
structure Decimal where
  coefficient : Nat
  exponent : Int
  deriving DecidableEq, Repr

/-- Drops trailing zeros of the coefficient, at most as many as the fuel says. -/
def Decimal.trim : Nat → Decimal → Decimal
  | 0, d => d
  | fuel + 1, d =>
    if d.coefficient ≠ 0 ∧ d.coefficient % 10 = 0 then
      Decimal.trim fuel ⟨d.coefficient / 10, d.exponent + 1⟩
    else d

/-- The count of digits before the decimal point of a positive quotient; zero or negative for a
quotient below one. -/
def leadingPlace (num den : Nat) : Int :=
  if den ≤ num then Int.ofNat (Nat.toDigits 10 (num / den)).length
  else
    let len := (Nat.toDigits 10 (den / num)).length
    if den ≤ num * Nat.pow 10 (len - 1) then 2 - Int.ofNat len else 1 - Int.ofNat len

/-- The interval of reals that round to a number, and the number itself, over one denominator. -/
structure RoundingInterval where
  low : Nat
  value : Nat
  high : Nat
  den : Nat
  closed : Bool

/-- The rounding interval of `mantissa * 2 ^ exponent`. Below a power of two the spacing of the
numbers is half as wide. -/
def RoundingInterval.of (mantissa : Nat) (exponent : Int) : RoundingInterval :=
  let (up, down) := powRatio 2 (exponent - 2)
  let below := if mantissa = Nat.pow 2 52 ∧ -1074 < exponent then 1 else 2
  ⟨(4 * mantissa - below) * up, 4 * mantissa * up, (4 * mantissa + 2) * up, down,
    mantissa % 2 == 0⟩

/-- Whether `coefficient * 10 ^ exponent` lies in a rounding interval. -/
def RoundingInterval.holds (i : RoundingInterval) (coefficient : Nat) (exponent : Int) : Bool :=
  let (up, down) := powRatio 10 exponent
  let point := coefficient * up * i.den
  if i.closed then decide (i.low * down ≤ point) && decide (point ≤ i.high * down)
  else decide (i.low * down < point) && decide (point < i.high * down)

/-- The point of a decimal grid that lies in a rounding interval and is nearest to the number, a tie
going to the even coefficient. -/
def RoundingInterval.gridPoint? (i : RoundingInterval) (exponent : Int) : Option Decimal :=
  let (up, down) := powRatio 10 exponent
  let lower := i.value * down / (i.den * up)
  let twice := 2 * i.value * down
  let middle := (2 * lower + 1) * (i.den * up)
  match i.holds lower exponent, i.holds (lower + 1) exponent with
  | true, true =>
    if twice < middle then some ⟨lower, exponent⟩
    else if middle < twice then some ⟨lower + 1, exponent⟩
    else some ⟨lower + lower % 2, exponent⟩
  | true, false => some ⟨lower, exponent⟩
  | false, true => some ⟨lower + 1, exponent⟩
  | false, false => none

/-- The shortest decimal that reads back as `mantissa * 2 ^ exponent`, for a mantissa other than
zero. Seventeen digits always suffice. -/
def shortestDecimal (mantissa : Nat) (exponent : Int) : Decimal :=
  let i := RoundingInterval.of mantissa exponent
  let place := leadingPlace i.value i.den
  let grids := (List.range 17).map fun k => place - Int.ofNat (k + 1)
  match grids.findSome? i.gridPoint? with
  | some d => d.trim 20
  | none => ⟨0, 0⟩

/-- The decisions of a text format for numbers. -/
structure Layout where
  /-- The least decimal exponent that is written in positional notation. -/
  leastPositional : Int
  /-- The greatest decimal exponent that is written in positional notation. -/
  mostPositional : Int
  /-- The least count of digits of an exponent. -/
  exponentDigits : Nat
  infinity : String
  nan : String

/-- Decimal digits of a number, padded with zeros on the left. -/
def padded (width n : Nat) : String :=
  let digits := Nat.toDigits 10 n
  String.ofList (List.replicate (width - digits.length) '0' ++ digits)

/-- The text of a decimal. Positional notation always shows a digit after the point; scientific
notation shows a point only before further digits. -/
def Layout.decimal (layout : Layout) (d : Decimal) : String :=
  let digits := Nat.toDigits 10 d.coefficient
  let point : Int := Int.ofNat digits.length + d.exponent
  let exponent := point - 1
  if layout.leastPositional ≤ exponent ∧ exponent ≤ layout.mostPositional then
    if point ≤ 0 then
      "0." ++ String.ofList (List.replicate (-point).toNat '0' ++ digits)
    else
      let whole := digits.take point.toNat
      let zeros := List.replicate (point.toNat - digits.length) '0'
      let rest := digits.drop point.toNat
      String.ofList (whole ++ zeros) ++ "." ++
        (if rest.isEmpty then "0" else String.ofList rest)
  else
    let mantissa :=
      match digits with
      | [] => "0"
      | [c] => String.singleton c
      | c :: rest => String.singleton c ++ "." ++ String.ofList rest
    mantissa ++ (if exponent < 0 then "e-" else "e+") ++
      padded layout.exponentDigits exponent.natAbs

/-- The text of a number. -/
def Layout.format (layout : Layout) : Binary64 → String
  | .nan _ => layout.nan
  | .infinite negative => (if negative then "-" else "") ++ layout.infinity
  | .finite negative m e =>
    (if negative then "-" else "") ++
      (if m = 0 then "0.0" else layout.decimal (shortestDecimal m e))

end CsdlRoutes.Number
