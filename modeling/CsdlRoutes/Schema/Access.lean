import CsdlRoutes.Failure

/-!
# Values in schema documents

A document may hold anything, but each place in it is read in one way: as a text, as a key, as a row
of items, or as something to be shown. A value that cannot be read in that way is an accident.

* `textOf`, `keyOf`, `iterated` and `shown` read a value.
-/

namespace CsdlRoutes.Schema

/-- A value as a text. Bytes are no text, but are told apart from other values. -/
def textOf (v : Value) : Except Failure String :=
  match v.bare with
  | .scalar (.text s) => .ok s
  | .scalar (.bytes bs) => .error (.accident (.bytesForText bs))
  | v => .error (.accident (.wrongShape v))

/-- A value as a key. -/
def keyOf (v : Value) : Except Failure Scalar :=
  match v.bare with
  | .scalar s => .ok s
  | v => .error (.accident (.unusableKey v))

/-- The items that going through a value yields: those of a list, the keys of an object or a set, the
characters of a text, the numbers of bytes. -/
def iterated (v : Value) : Except Failure (List Value) :=
  match v.bare with
  | .list items => .ok items
  | .object members => .ok (members.map fun (key, _) => .scalar key)
  | .set keys => .ok (keys.map .scalar)
  | .pair first second => .ok [first, second]
  | .scalar (.text s) => .ok (s.toList.map fun c => .text c.toString)
  | .scalar (.bytes bs) => .ok (bs.map fun b => .scalar (.int b.toNat))
  | v => .error (.accident (.notIterable v))

/-- How many levels a value may have to be shown. -/
def shownLevels : Nat := 989

/-- The accident that a hindrance is. -/
def accidentOf : Hindrance → Accident
  | .longInteger => .unshowable
  | .tooDeep => .tooDeep

/-- A value as it is shown. -/
def shown (v : Value) : Except Failure String :=
  match v.hindrance? shownLevels with
  | none => .ok v.display
  | some hindrance => .error (.accident (accidentOf hindrance))

end CsdlRoutes.Schema
