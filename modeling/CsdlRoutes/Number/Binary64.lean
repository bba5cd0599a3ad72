/-!
# Binary floating-point numbers of 64 bits

A finite number is a sign, a mantissa below `2 ^ 53` and a binary exponent from -1074 to 971. It is
kept in normal form: the mantissa is at least `2 ^ 52`, or the exponent is the least one. Each
number has one normal form, so equality of representations is equality of numbers, the two zeros
apart.

* `Binary64.ofRatio` rounds a quotient to the nearest number, a tie to the even mantissa.
* `Binary64.ofDecimal` reads a decimal coefficient and exponent.
* `Binary64.toInt?` recognises the integers.

A result that is no number carries a payload. Arithmetic gives it the payload 0.
-/

namespace CsdlRoutes.Number

/-- A binary floating-point number of 64 bits. -/
inductive Binary64 where
  /-- The number `± mantissa * 2 ^ exponent`. -/
  | finite (negative : Bool) (mantissa : Nat) (exponent : Int)
  | infinite (negative : Bool)
  /-- No number. The payload tells results of this kind apart. -/
  | nan (payload : Nat)
  deriving DecidableEq, Repr, Inhabited

/-- The quotient of two numbers, rounded to the nearest integer, a tie to the even one. -/
def roundHalfEven (num den : Nat) : Nat :=
  let q := num / den
  let twice := 2 * (num % den)
  if twice < den then q
  else if den < twice then q + 1
  else q + q % 2

/-- `2 ^ e` or `10 ^ e` as a quotient of two positive numbers. -/
def powRatio (base : Nat) (e : Int) : Nat × Nat :=
  if 0 ≤ e then (base.pow e.toNat, 1) else (1, base.pow (-e).toNat)

namespace Binary64

/-- Zero, with a sign. -/
def zero (negative : Bool) : Binary64 := .finite negative 0 (-1074)

/-- The number `± mantissa * 2 ^ exponent`, where rounding may have carried the mantissa up to
`2 ^ 53`. Numbers beyond the greatest finite one are infinite. -/
def pack (negative : Bool) (mantissa : Nat) (exponent : Int) : Binary64 :=
  let (m, e) := if mantissa = Nat.pow 2 53 then (Nat.pow 2 52, exponent + 1) else (mantissa, exponent)
  if m = 0 then zero negative
  else if e > 971 then .infinite negative
  else .finite negative m e

/-- The number nearest to a quotient of two positive numbers; of two nearest the one with the even
mantissa. -/
def ofRatio (negative : Bool) (num den : Nat) : Binary64 :=
  if num = 0 ∨ den = 0 then zero negative
  else
    let guess : Int := Int.ofNat num.log2 - Int.ofNat den.log2 - 53
    let scaled (e : Int) : Nat × Nat :=
      let (up, down) := powRatio 2 (-e)
      (num * up, den * down)
    let (n, d) := scaled guess
    let fitted := if n / d < Nat.pow 2 53 then guess else guess + 1
    let e := if fitted < -1074 then -1074 else fitted
    let (n, d) := scaled e
    pack negative (roundHalfEven n d) e

/-- The number nearest to `± coefficient * 10 ^ exponent`. Quotients far beyond the range are
settled by the count of digits alone. -/
def ofDecimal (negative : Bool) (coefficient : Nat) (exponent : Int) : Binary64 :=
  if coefficient = 0 then zero negative
  else
    let magnitude : Int := Int.ofNat (Nat.toDigits 10 coefficient).length + exponent
    if magnitude > 310 then .infinite negative
    else if magnitude < -330 then zero negative
    else
      let (up, down) := powRatio 10 exponent
      ofRatio negative (coefficient * up) down

/-- The number nearest to an integer. -/
def ofInt (i : Int) : Binary64 := ofDecimal (decide (i < 0)) i.natAbs 0

/-- The number with the other sign. -/
def neg : Binary64 → Binary64
  | .finite s m e => .finite (!s) m e
  | .infinite s => .infinite (!s)
  | .nan payload => .nan payload

/-- Whether a number is one of the two zeros. -/
def isZero : Binary64 → Bool
  | .finite _ m _ => m == 0
  | _ => false

/-- The integer that a number is, if it is one. -/
def toInt? : Binary64 → Option Int
  | .finite s m e =>
    let (up, down) := powRatio 2 e
    if (m * up) % down = 0 then
      let n : Int := Int.ofNat (m * up / down)
      some (if s then -n else n)
    else none
  | _ => none

/-- The sum of two numbers, rounded to nearest. -/
def add : Binary64 → Binary64 → Binary64
  | .finite s m e, .finite t n f =>
    let (up, down) := powRatio 2 e
    let (up', down') := powRatio 2 f
    let signed (neg : Bool) (k : Nat) : Int := if neg then -Int.ofNat k else Int.ofNat k
    let sum := signed s (m * up * down') + signed t (n * up' * down)
    if sum = 0 then zero (s && t) else ofRatio (decide (sum < 0)) sum.natAbs (down * down')
  | .infinite s, .infinite t => if s = t then .infinite s else .nan 0
  | .infinite s, .finite _ _ _ => .infinite s
  | .finite _ _ _, .infinite t => .infinite t
  | _, _ => .nan 0

/-- The product of two numbers, rounded to nearest. -/
def mul : Binary64 → Binary64 → Binary64
  | .finite s m e, .finite t n f =>
    let (up, down) := powRatio 2 (e + f)
    ofRatio (s != t) (m * n * up) down
  | .infinite s, .infinite t => .infinite (s != t)
  | .infinite s, .finite t n _ => if n = 0 then .nan 0 else .infinite (s != t)
  | .finite s m _, .infinite t => if m = 0 then .nan 0 else .infinite (s != t)
  | _, _ => .nan 0

end Binary64

end CsdlRoutes.Number
