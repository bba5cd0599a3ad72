import CsdlRoutes.Number.Whole
import CsdlRoutes.Value

/-!
# Records

A record is read from the members of an object. Each field says which values it takes; a value of
another kind is taken where it plainly stands for one of the right kind. All problems of a record are
reported together, in the order of its fields.

* `Checked` is a value, or the problems that were found.
* `field` reads a member, `Checked.both` puts fields together.
-/

namespace CsdlRoutes

open Number (Binary64 readSetting)

/-- What is wrong with a field. -/
inductive ProblemKind where
  | missing
  | notText
  | notUnicode
  | notTruthValue
  | unclearTruthValue
  | notList
  | notWhole
  | unclearWhole
  | longWhole
  | fractional
  | notFinite
  | belowZero
  | unknownKind
  | unknownChoice
  | notObject
  deriving DecidableEq, Repr

/-- A problem, with the path of the field. -/
structure Problem where
  path : List String
  kind : ProblemKind
  deriving DecidableEq, Repr

/-- The wording of a kind of problem. -/
def ProblemKind.wording : ProblemKind → String
  | .missing => "is missing"
  | .notText => "is not a text"
  | .notUnicode => "is not a text in Unicode"
  | .notTruthValue => "is not a truth value"
  | .unclearTruthValue => "cannot be read as a truth value"
  | .notList => "is not a list"
  | .notWhole => "is not a whole number"
  | .unclearWhole => "cannot be read as a whole number"
  | .longWhole => "has too many digits"
  | .fractional => "has a fraction"
  | .notFinite => "is not finite"
  | .belowZero => "is below zero"
  | .unknownKind => "is not a kind of type"
  | .unknownChoice => "is not one of the choices"
  | .notObject => "is not an object"

/-- The wording of a problem. -/
def Problem.message (p : Problem) : String :=
  ".".intercalate p.path ++ " " ++ p.kind.wording

/-- A value, or the problems that were found. -/
abbrev Checked (α : Type) := Except (List Problem) α

namespace Checked

/-- A problem with the value itself. -/
def problem {α : Type} (kind : ProblemKind) : Checked α := .error [⟨[], kind⟩]

/-- Two values together, or all their problems. -/
def both {α β : Type} (a : Checked α) (b : Checked β) : Checked (α × β) :=
  match a, b with
  | .ok x, .ok y => .ok (x, y)
  | .error e, .ok _ => .error e
  | .ok _, .error e => .error e
  | .error e, .error e' => .error (e ++ e')

/-- The problems as those of a member. -/
def within {α : Type} (name : String) (a : Checked α) : Checked α :=
  a.mapError fun problems => problems.map fun p => { p with path := name :: p.path }

/-- A row of values, each under its position. -/
def each {α β : Type} (check : α → Checked β) (position : Nat) : List α → Checked (List β)
  | [] => .ok []
  | a :: rest =>
    (both (within (toString position) (check a)) (each check (position + 1) rest)).map
      fun (b, bs) => b :: bs

end Checked

/-! ## Fields -/

/-- A text, or the bytes of one. -/
def textField : Value → Checked String
  | .scalar (.text s) => .ok s
  | .scalar (.bytes bs) =>
    match String.fromUTF8? ⟨bs.toArray⟩ with
    | some s => .ok s
    | none => .problem .notUnicode
  | _ => .problem .notText

/-- A text or nothing. -/
def optionalTextField : Value → Checked (Option String)
  | .scalar .null => .ok none
  | v => (textField v).map some

/-- A list of texts. -/
def textListField : Value → Checked (List String)
  | .list items => Checked.each textField 0 items
  | _ => .problem .notList

/-- The words for true, in small letters. -/
def trueWords : List String := ["1", "t", "y", "on", "yes", "true"]

/-- The words for false, in small letters. -/
def falseWords : List String := ["0", "f", "n", "no", "off", "false"]

/-- The floating-point numbers that are taken for whole numbers lie between this bound and its
negative. -/
def floatBound : Nat := Nat.pow 2 63

/-- The whole number that a floating-point number equals. -/
def wholeOfFloat (x : Binary64) : Checked Int :=
  match x with
  | .finite .. =>
    match x.toInt? with
    | some i => if i.natAbs < floatBound then .ok i else .problem .longWhole
    | none => .problem .fractional
  | _ => .problem .notFinite

/-- The truth value that a whole number stands for. Numbers beyond sixty-four bits are not looked at. -/
def truthOfWhole (i : Int) : Checked Bool :=
  if i = 1 then .ok true
  else if i = 0 then .ok false
  else if -Int.ofNat floatBound ≤ i ∧ i < Int.ofNat floatBound then .problem .unclearTruthValue
  else .problem .notTruthValue

/-- A truth value, one of the words for one, or the number one or zero. -/
def truthField : Value → Checked Bool
  | .scalar (.bool b) => .ok b
  | .scalar (.text s) =>
    let word := s.map Char.toLower
    if trueWords.contains word then .ok true
    else if falseWords.contains word then .ok false
    else .problem .unclearTruthValue
  | .scalar (.int i) => truthOfWhole i
  | .scalar (.float x) =>
    match wholeOfFloat x with
    | .ok i => truthOfWhole i
    | .error _ => .problem .notTruthValue
  | _ => .problem .notTruthValue

/-- A whole number, a truth value as one or zero, a floating-point number without a fraction, or the
text of a whole number. -/
def wholeField : Value → Checked Int
  | .scalar (.int i) => .ok i
  | .scalar (.bool b) => .ok (if b then 1 else 0)
  | .scalar (.float x) => wholeOfFloat x
  | .scalar (.text s) =>
    match readSetting s with
    | .whole i => .ok i
    | .tooLong => .problem .longWhole
    | .noNumber => .problem .unclearWhole
  | _ => .problem .notWhole

/-- A whole number that is not below zero. -/
def countField (v : Value) : Checked Nat :=
  match wholeField v with
  | .ok (.ofNat n) => .ok n
  | .ok (.negSucc _) => .problem .belowZero
  | .error problems => .error problems

/-- A member that has to be there. -/
def field {α : Type} (check : Value → Checked α) (name : String) (members : Members) :
    Checked α :=
  match Keyed.get? name members with
  | some v => (check v).within name
  | none => .error [⟨[name], .missing⟩]

/-- A member that has a value of its own when it is not there. -/
def fieldOr {α : Type} (fallback : α) (check : Value → Checked α) (name : String)
    (members : Members) : Checked α :=
  match Keyed.get? name members with
  | some v => (check v).within name
  | none => .ok fallback

/-- A member that is a record itself. -/
def objectField {α : Type} (read : Members → Checked α) : Value → Checked α
  | .object members => read members
  | _ => .problem .notObject

end CsdlRoutes
