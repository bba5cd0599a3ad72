import CsdlRoutes.Number.Whole
import CsdlRoutes.Text.Base64
import CsdlRoutes.Text.Lower
import CsdlRoutes.Value
import CsdlRoutes.Yaml.Fault
import CsdlRoutes.Yaml.Tag

/-!
# Values of YAML scalars

A scalar is read as its tag says. A tag that was implied by the form of a plain scalar nearly always
fits; one that was written out may not.

* `intOf`, `floatOf`, `momentOf`, `truthOf` and `bytesOf` read the text of a scalar.
* `leafOf` reads a text under a tag.
-/

namespace CsdlRoutes.Yaml

open Number
open Text (digitValue? isSpace ofDigits trimBoth)

/-! ## Integers -/

/-- The value of a digit below a base. -/
def digitBelow? (base : Nat) (c : Char) : Option Nat := do
  let d ← (digitValue? c).or (Text.hexValue? c)
  if d < base then some d else none

/-- What follows the mark of a base, a zero and a letter of either case, or the whole text. -/
def withoutBaseMark (letter : Char) : List Char → List Char
  | '0' :: c :: rest => if c = letter ∨ c = letter.toUpper then rest else '0' :: c :: rest
  | cs => cs

/-- Reads an integer in a base other than ten, which its mark may precede. -/
def readInBase? (base : Nat) (letter : Char) (cs : List Char) : Option Int := do
  let (negative, body) := splitSign (trimBoth isSpace cs)
  let ds ← (withoutBaseMark letter body).mapM (digitBelow? base)
  if ds.isEmpty then none
  else
    let n := Int.ofNat (ofDigits base ds)
    return if negative then -n else n

/-- The number that digits of base sixty denote, the last digit first. -/
def ofSixtieths : List Int → Int
  | [] => 0
  | d :: rest => d + 60 * ofSixtieths rest

/-- Reads the magnitude of an integer: in base 2, 16, 8, 60 or 10, as its first characters and its
colons tell. -/
def magnitude? (cs : List Char) : Option Int :=
  match cs with
  | ['0'] => some 0
  | '0' :: 'b' :: rest => readInBase? 2 'b' rest
  | '0' :: 'x' :: rest => readInBase? 16 'x' rest
  | '0' :: _ => readInBase? 8 'o' cs
  | _ =>
    if cs.contains ':' then
      ((splitAtEach ':' cs).mapM fun part => readWhole? (String.ofList part)).map
        fun parts => ofSixtieths parts.reverse
    else readWhole? (String.ofList cs)

/-- The text of a number without underscores, split into its sign and the rest. -/
def signAndBody (cs : List Char) : Bool × List Char := splitSign (cs.filter (· != '_'))

/-- Reads an integer. -/
def intOf (text : String) : Except Unreadable Int :=
  match signAndBody text.toList with
  | (_, []) => .error .emptyNumber
  | (negative, body) =>
    match magnitude? body with
    | some n => .ok (if negative then -n else n)
    | none => .error (.number text)

/-! ## Floating-point numbers -/

/-- The digits at the head of a text, and what follows them. -/
def leadingDigits (cs : List Char) : List Nat × List Char :=
  let ds := cs.takeWhile fun c => (digitValue? c).isSome
  (ds.filterMap digitValue?, cs.drop ds.length)

/-- Reads an exponent with its mark, or nothing. -/
def exponentOf? : List Char → Option Int
  | [] => some 0
  | mark :: rest => do
    if mark != 'e' && mark != 'E' then none
    let (negative, body) := splitSign rest
    let (ds, left) := leadingDigits body
    if ds.isEmpty || !left.isEmpty then none else return signedOfDigits negative ds

/-- Reads a floating-point number in decimal notation, or one of the words for infinity and for no
number. -/
def readFloat? (cs : List Char) : Option Binary64 :=
  let (negative, body) := splitSign (trimBoth isSpace cs)
  let word := Text.lower (String.ofList body)
  if word == "inf" || word == "infinity" then some (.infinite negative)
  else if word == "nan" then some (.nan 0)
  else do
    let (whole, rest) := leadingDigits body
    let (fraction, rest) :=
      match rest with
      | '.' :: rest => leadingDigits rest
      | _ => ([], rest)
    if whole.isEmpty && fraction.isEmpty then none
    let exponent ← exponentOf? rest
    return Binary64.ofDecimal negative (ofDigits 10 (whole ++ fraction)) (exponent - fraction.length)

/-- The number that digits of base sixty denote, the last digit first, each a floating-point number.
The sum is rounded at every step. There is none if the value of a place is too great. -/
def sumOfSixtieths? (sum : Binary64) (base : Int) : List Binary64 → Option Binary64
  | [] => some sum
  | d :: rest =>
    match Binary64.ofInt base with
    | .infinite _ => none
    | place => sumOfSixtieths? (sum.add (d.mul place)) (base * 60) rest

/-- Reads the magnitude of a floating-point number other than the words for infinity and for no
number. -/
def floatMagnitude (text : String) (body : List Char) : Except Unreadable Binary64 :=
  if body.contains ':' then
    match (splitAtEach ':' body).mapM readFloat? with
    | some parts =>
      match sumOfSixtieths? (Binary64.zero false) 1 parts.reverse with
      | some x => .ok x
      | none => .error (.beyondFloat text)
    | none => .error (.number text)
  else
    match readFloat? body with
    | some x => .ok x
    | none => .error (.number text)

/-- Reads a floating-point number. The word for no number has the payload 0; a result of another kind
that is no number gets a payload of its own. -/
def floatOf (payload : Nat) (text : String) : Except Unreadable Binary64 :=
  let cs := (Text.lower text).toList
  if (cs.filter (· != '_')).isEmpty then .error .emptyNumber
  else
    let (negative, body) := signAndBody cs
    if body == ".inf".toList then .ok (.infinite negative)
    else if body == ".nan".toList then .ok (.nan 0)
    else
      match floatMagnitude text body with
      | .ok (.nan _) => .ok (.nan payload)
      | .ok x => .ok (if negative then x.neg else x)
      | .error what => .error what

/-! ## Dates -/

/-- The number of days of a month. -/
def daysIn (year month : Nat) : Nat :=
  if month = 2 then if isLeapYear year then 29 else 28
  else if month = 4 ∨ month = 6 ∨ month = 9 ∨ month = 11 then 30
  else 31

/-- The number that decimal digits denote. -/
def numberOf (cs : List Char) : Nat := ofDigits 10 (cs.map Text.asciiDigitValue)

/-- The date of a stamp, if it exists. -/
def Stamp.date? (s : Stamp) : Option Date :=
  let (year, month, day) := (numberOf s.year, numberOf s.month, numberOf s.day)
  if 1 ≤ year ∧ 1 ≤ month ∧ month ≤ 12 ∧ 1 ≤ day ∧ day ≤ daysIn year month then
    some ⟨year, month, day⟩
  else none

/-- The distance of a zone from universal time in minutes, if it is below a day. -/
def zoneOffset? : Option (Option (Char × List Char × List Char)) → Option (Option Int)
  | none => some none
  | some none => some (some 0)
  | some (some (sign, hours, minutes)) =>
    let n := numberOf hours * 60 + numberOf minutes
    if n < 1440 then some (some (if sign = '-' then -n else n)) else none

/-- The moment of a stamp with a time, if it exists. -/
def Clock.moment? (date : Date) (c : Clock) : Option Moment := do
  let (hour, minute, second) := (numberOf c.hour, numberOf c.minute, numberOf c.second)
  if hour ≥ 24 ∨ minute ≥ 60 ∨ second ≥ 60 then none
  let fraction := c.fraction.take 6
  let microsecond := numberOf fraction * Nat.pow 10 (6 - fraction.length)
  return ⟨date, hour, minute, second, microsecond, ← zoneOffset? c.zone⟩

/-- Reads a date, with or without a time. -/
def momentOf (text : String) : Except Unreadable Scalar :=
  match Stamp.read? (withoutLastBreak text.toList) with
  | none => .error (.dateForm text)
  | some stamp =>
    let moment? := do
      let date ← stamp.date?
      match stamp.clock with
      | none => some (Scalar.date date)
      | some clock => return Scalar.moment (← clock.moment? date)
    match moment? with
    | some s => .ok s
    | none => .error (.moment text)

/-! ## Scalars under tags -/

/-- Reads a truth value. -/
def truthOf (text : String) : Except Unreadable Bool :=
  match truthWords.lookup (Text.lower text) with
  | some b => .ok b
  | none => .error (.truthValue text)

/-- Reads bytes from base64. -/
def bytesOf (text : String) : Except Fault (List UInt8) :=
  if text.toList.all fun c => decide (c.toNat < 128) then
    match Text.readBase64? text.toList with
    | some bs => .ok bs
    | none => .error .base64
  else .error .base64

/-- A reading as a leaf. -/
def leafBy {α : Type} (f : α → Scalar) : Except Unreadable α → Except Fault Scalar
  | .ok a => .ok (f a)
  | .error what => .error (.unreadable what)

/-- Reads a text under a tag. A result that is no number gets a given payload. -/
def leafOf (payload : Nat) (tag : Tag) (text : String) : Except Fault Scalar :=
  match tag with
  | .null => .ok .null
  | .bool => leafBy .bool (truthOf text)
  | .int => leafBy .int (intOf text)
  | .float => leafBy .float (floatOf payload text)
  | .moment => leafBy id (momentOf text)
  | .bytes => (bytesOf text).map .bytes
  | .text => .ok (.text text)
  | .sequence | .mapping | .set | .orderedMap | .pairs => .error (.wrongKind tag.name)
  | .merge | .value | .other _ => .error (.unknownTag tag.name)

end CsdlRoutes.Yaml
