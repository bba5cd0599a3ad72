import CsdlRoutes.Text.Blank
import CsdlRoutes.Text.Digit

/-!
# Whole numbers in text

A whole number is an optional sign and decimal digits, which single underscores may separate. Two
readers differ in what else they take.

* `readWhole?` reads what was typed: digits of any script, blanks around, at most 4300 digits.
* `readSetting` reads what stands in a settings file: digits 0 to 9, white space around, zeros before
  them, and a fraction of zeros only.
-/

namespace CsdlRoutes.Number

open Text

/-- The most digits that are read as one number. -/
def maxDigits : Nat := 4300

/-- The values of digits that single underscores may separate, under a reading of single digits.
`afterDigit` says whether a digit came just before. -/
def separatedDigits? (digit? : Char → Option Nat) : Bool → List Char → Option (List Nat)
  | afterDigit, [] => if afterDigit then some [] else none
  | afterDigit, c :: rest =>
    if c = '_' then
      if afterDigit then separatedDigits? digit? false rest else none
    else do
      let d ← digit? c
      let ds ← separatedDigits? digit? true rest
      return d :: ds

/-- A sign, if there is one, as whether it is negative, and what follows it. -/
def splitSign : List Char → Bool × List Char
  | '-' :: rest => (true, rest)
  | '+' :: rest => (false, rest)
  | cs => (false, cs)

/-- An integer from its sign and its digits. -/
def signedOfDigits (negative : Bool) (digits : List Nat) : Int :=
  let n := Int.ofNat (ofDigits 10 digits)
  if negative then -n else n

/-- Reads a whole number as typed in. -/
def readWhole? (text : String) : Option Int := do
  let (negative, body) := splitSign (trimBoth isSpace text.toList)
  let digits ← separatedDigits? digitValue? false body
  if digits.length > maxDigits then none
  else return signedOfDigits negative digits

/-! ## Settings -/

/-- How a text from a settings file is read as a whole number. -/
inductive SettingReading where
  | whole (n : Int)
  | tooLong
  | noNumber
  deriving DecidableEq, Repr

/-- Reads a whole number in its plain form: perhaps a minus sign, and digits of which the first is a
zero only if it stands alone. A long row of digits counts even if something follows it. -/
def readPlain (cs : List Char) : SettingReading :=
  let negative := cs.head? == some '-'
  let body := if negative then cs.drop 1 else cs
  let digits := body.takeWhile isAsciiDigit
  if digits.head? == some '0' then
    if body.length = 1 then .whole 0 else .noNumber
  else if maxDigits < digits.length + (if negative then 1 else 0) then .tooLong
  else if digits.isEmpty || digits.length != body.length then .noNumber
  else .whole (signedOfDigits negative (digits.map asciiDigitValue))

/-- A text without the plus sign before it. No minus sign may follow. -/
def dropPlus? : List Char → Option (List Char)
  | '+' :: '-' :: _ => none
  | '+' :: rest => some rest
  | cs => some cs

/-- What follows zeros, given the character before it. Before a point one character stays, and so
does the last one of a text that ends. -/
def afterZeros? (before : Char) : List Char → Option (List Char)
  | [] => some [before]
  | c :: rest =>
    if c == '0' || c == '_' then afterZeros? c rest
    else if isAsciiDigit c || c == '-' then some (c :: rest)
    else if c == '.' then some (before :: c :: rest)
    else none

/-- A number without the zeros before it, among which underscores may stand. -/
def dropZeros? : List Char → Option (List Char)
  | '0' :: rest => afterZeros? '0' rest
  | c :: rest => if isAsciiDigit c || c == '-' then some (c :: rest) else none
  | [] => none

/-- A whole number without a fraction that differs from zero: the part before the point, if a point
and zeros alone follow it. -/
def dropZeroFraction (cs : List Char) : List Char :=
  match cs.dropWhile (· != '.') with
  | '.' :: '0' :: rest =>
    if rest.all (· == '0') then cs.takeWhile (· != '.') else cs
  | _ => cs

/-- Whether two underscores stand side by side. -/
def hasDoubleUnderscore : List Char → Bool
  | '_' :: '_' :: _ => true
  | _ :: rest => hasDoubleUnderscore rest
  | [] => false

/-- A text without its underscores. They may stand neither at an end nor side by side. -/
def dropUnderscores? (cs : List Char) : Option (List Char) :=
  if cs.head? == some '_' || cs.getLast? == some '_' || hasDoubleUnderscore cs then none
  else some (cs.filter (· != '_'))

/-- The plain form of a whole number. -/
def plainForm? (cs : List Char) : Option (List Char) := do
  let cs ← dropPlus? (trimBoth isSpace cs)
  let cs ← dropZeros? cs
  dropUnderscores? (dropZeroFraction cs)

/-- Reads a whole number from a settings file: in its plain form, or else by way of it. Only a number
that stands in its plain form can be too long. -/
def readSetting (text : String) : SettingReading :=
  match readPlain text.toList with
  | .noNumber =>
    match (plainForm? text.toList).map readPlain with
    | some (.whole n) => .whole n
    | _ => .noNumber
  | reading => reading

end CsdlRoutes.Number
