import CsdlRoutes.Moment
import CsdlRoutes.Number.Whole
import CsdlRoutes.Text.Quoted

/-!
# Document values

A document is a tree of collections over scalars. The members of an object keep the order in which
their keys first occurred, and a repeated key keeps its first position and its last value.

A collection may hold itself. Such a document is given unfolded, as deep as anything looks, and all
its collections are labelled: those with one label are one collection.

* `Scalar` is a leaf, and also what a key of an object may be. Keys compare by `Scalar.sameKey`, under
  which numbers and truth values of equal magnitude are one key.
* `Value` is a tree; `Keyed.put` adds a member to an object.
* `Value.bare` is a value without its label.
* `Value.isTruthy` says which values count as set.
* `Value.display` and `Value.quoted` are the texts of a value in messages.
* `Value.hindrance?` is what keeps a value from being shown: a number of too many digits, or
  collections that stand in too many others.
-/

namespace CsdlRoutes

open Number (Binary64 Layout maxDigits)

/-- A leaf of a document, or a key of an object. -/
inductive Scalar where
  | null
  | bool (b : Bool)
  | int (i : Int)
  | float (x : Binary64)
  | text (s : String)
  /-- Bytes, whether they make up a text or not. -/
  | bytes (bs : List UInt8)
  | date (d : Date)
  | moment (m : Moment)
  deriving DecidableEq, Repr, Inhabited

/-- A row of entries under keys, in the order in which the keys first occurred. -/
abbrev Keyed (α : Type) := List (Scalar × α)

/-- A document. -/
inductive Value where
  | scalar (s : Scalar)
  | list (items : List Value)
  | object (members : List (Scalar × Value))
  /-- Keys without values. -/
  | set (keys : List Scalar)
  /-- An entry of a list of pairs. -/
  | pair (first second : Value)
  /-- A collection of a document in which some collection holds itself. -/
  | labelled (label : Nat) (collection : Value)
  deriving Repr, Inhabited

/-- The members of an object, in document order. -/
abbrev Members := Keyed Value

mutual

/-- Decides whether two values are equal. -/
def Value.decideEq : (v w : Value) → Decidable (v = w)
  | .scalar s, .scalar t =>
    if h : s = t then isTrue (by rw [h]) else isFalse (by simp [h])
  | .list s, .list t =>
    match Value.decideItems s t with
    | isTrue h => isTrue (by rw [h])
    | isFalse h => isFalse (by simp [h])
  | .object s, .object t =>
    match Value.decideMembers s t with
    | isTrue h => isTrue (by rw [h])
    | isFalse h => isFalse (by simp [h])
  | .set s, .set t => if h : s = t then isTrue (by rw [h]) else isFalse (by simp [h])
  | .pair a b, .pair c d =>
    match Value.decideEq a c, Value.decideEq b d with
    | isTrue h, isTrue h' => isTrue (by rw [h, h'])
    | isFalse h, _ => isFalse (by simp [h])
    | _, isFalse h => isFalse (by simp [h])
  | .labelled m v, .labelled n w =>
    if hm : m = n then
      match Value.decideEq v w with
      | isTrue h => isTrue (by rw [hm, h])
      | isFalse h => isFalse (by simp [h])
    else isFalse (by simp [hm])
  | .scalar _, .list _ | .scalar _, .object _ | .scalar _, .set _ | .scalar _, .pair _ _
  | .scalar _, .labelled _ _ | .list _, .scalar _ | .list _, .object _ | .list _, .set _
  | .list _, .pair _ _ | .list _, .labelled _ _ | .object _, .scalar _ | .object _, .list _
  | .object _, .set _ | .object _, .pair _ _ | .object _, .labelled _ _ | .set _, .scalar _
  | .set _, .list _ | .set _, .object _ | .set _, .pair _ _ | .set _, .labelled _ _
  | .pair _ _, .scalar _ | .pair _ _, .list _ | .pair _ _, .object _ | .pair _ _, .set _
  | .pair _ _, .labelled _ _ | .labelled _ _, .scalar _ | .labelled _ _, .list _
  | .labelled _ _, .object _ | .labelled _ _, .set _ | .labelled _ _, .pair _ _ =>
    isFalse (by simp)

/-- Decides whether the items of two lists are equal. -/
def Value.decideItems : (v w : List Value) → Decidable (v = w)
  | [], [] => isTrue rfl
  | v :: vs, w :: ws =>
    match Value.decideEq v w, Value.decideItems vs ws with
    | isTrue h, isTrue hs => isTrue (by rw [h, hs])
    | isFalse h, _ => isFalse (by simp [h])
    | _, isFalse hs => isFalse (by simp [hs])
  | [], _ :: _ | _ :: _, [] => isFalse (by simp)

/-- Decides whether the members of two objects are equal. -/
def Value.decideMembers : (v w : List (Scalar × Value)) → Decidable (v = w)
  | [], [] => isTrue rfl
  | (k, v) :: vs, (l, w) :: ws =>
    if hk : k = l then
      match Value.decideEq v w, Value.decideMembers vs ws with
      | isTrue h, isTrue hs => isTrue (by rw [hk, h, hs])
      | isFalse h, _ => isFalse (by simp [h])
      | _, isFalse hs => isFalse (by simp [hs])
    else isFalse (by simp [hk])
  | [], _ :: _ | _ :: _, [] => isFalse (by simp)

end

instance : DecidableEq Value := Value.decideEq

/-- The null value. -/
abbrev Value.null : Value := .scalar .null

/-- A text as a value. -/
abbrev Value.text (s : String) : Value := .scalar (.text s)

/-- A value without its label. -/
def Value.bare : Value → Value
  | .labelled _ v => v.bare
  | v => v

/-! ## Keys -/

/-- The integer that a scalar equals as a number, if there is one. -/
def Scalar.toInt? : Scalar → Option Int
  | .bool b => some (if b then 1 else 0)
  | .int i => some i
  | .float x => x.toInt?
  | _ => none

/-- The point in time that a scalar tells, if it does. -/
def Scalar.instant? : Scalar → Option Int
  | .moment m => m.instant?
  | _ => none

/-- Whether two scalars are one key. Truth values and numbers are compared as numbers, and moments by
the point in time that they tell, if they tell one. -/
def Scalar.sameKey (a b : Scalar) : Bool :=
  match a.toInt?, b.toInt? with
  | some i, some j => i == j
  | none, none =>
    match a.instant?, b.instant? with
    | some s, some t => s == t
    | _, _ => a == b
  | _, _ => false

/-- Sets an entry: the first entry with the same key gets the new value, and without one the entry is
added at the end. -/
def Keyed.put {α : Type} (key : Scalar) (value : α) : Keyed α → Keyed α
  | [] => [(key, value)]
  | (k, v) :: rest =>
    if k.sameKey key then (k, value) :: rest else (k, v) :: Keyed.put key value rest

/-- The entries that a row of assignments leaves behind. -/
def Keyed.ofList {α : Type} (assignments : List (Scalar × α)) : Keyed α :=
  assignments.foldl (fun entries (k, v) => Keyed.put k v entries) []

/-- The value of an entry with a textual key. -/
def Keyed.get? {α : Type} (key : String) (entries : Keyed α) : Option α :=
  (entries.find? fun m => m.1 == .text key).map (·.2)

/-- Whether there is an entry with a textual key. -/
def Keyed.has {α : Type} (key : String) (entries : Keyed α) : Bool :=
  (Keyed.get? key entries).isSome

theorem Scalar.sameKey_text {s t : String} :
    (Scalar.text s).sameKey (.text t) = true ↔ s = t := by
  simp [Scalar.sameKey, Scalar.toInt?, Scalar.instant?]

theorem Scalar.sameKey_text_right {k : Scalar} {s : String} :
    k.sameKey (.text s) = true ↔ k = .text s := by
  cases k <;> simp [Scalar.sameKey, Scalar.toInt?, Scalar.instant?]
  all_goals try (split <;> simp_all)

/-- An entry that was set can be read back. -/
theorem Keyed.get?_put_self {α : Type} (key : String) (value : α) (entries : Keyed α) :
    Keyed.get? key (Keyed.put (.text key) value entries) = some value := by
  induction entries with
  | nil => simp [Keyed.put, Keyed.get?]
  | cons m rest ih =>
    obtain ⟨k, v⟩ := m
    unfold Keyed.put
    by_cases h : k.sameKey (.text key) = true
    · rw [Scalar.sameKey_text_right] at h
      subst h
      simp [Keyed.get?, Scalar.sameKey_text]
    · have hk : ¬ k = .text key := fun e => h (Scalar.sameKey_text_right.2 e)
      rw [if_neg h]
      simpa [Keyed.get?, List.find?_cons, hk] using ih

/-- Setting one entry leaves the others as they were. -/
theorem Keyed.get?_put_of_ne {α : Type} {key other : String} (h : other ≠ key) (value : α)
    (entries : Keyed α) :
    Keyed.get? other (Keyed.put (.text key) value entries) = Keyed.get? other entries := by
  induction entries with
  | nil => simp [Keyed.put, Keyed.get?, Ne.symm h]
  | cons m rest ih =>
    obtain ⟨k, v⟩ := m
    unfold Keyed.put
    by_cases hk : k.sameKey (.text key) = true
    · rw [if_pos hk]
      rw [Scalar.sameKey_text_right] at hk
      subst hk
      simp [Keyed.get?, Ne.symm h]
    · rw [if_neg hk]
      by_cases ho : k = .text other
      · simp [Keyed.get?, ho]
      · simpa [Keyed.get?, List.find?_cons, ho] using ih

/-! ## Values that count as set -/

/-- Whether a leaf counts as set: null, false, zero, the empty text and no bytes do not. -/
def Scalar.isTruthy : Scalar → Bool
  | .null => false
  | .bool b => b
  | .int i => i != 0
  | .float x => !x.isZero
  | .text s => s != ""
  | .bytes bs => !bs.isEmpty
  | .date _ | .moment _ => true

/-- Whether a value counts as set: an unset leaf and an empty collection do not. -/
def Value.isTruthy : Value → Bool
  | .scalar s => s.isTruthy
  | .list items => !items.isEmpty
  | .object members => !members.isEmpty
  | .set keys => !keys.isEmpty
  | .pair _ _ => true
  | .labelled _ v => v.isTruthy

/-! ## Texts of values -/

/-- Numbers in messages: positional notation from `1e-04` up to below `1e+16`. -/
def numberLayout : Layout := ⟨-4, 15, 2, "inf", "nan"⟩

/-- A leaf as messages quote it. -/
def Scalar.quoted : Scalar → String
  | .null => "None"
  | .bool b => if b then "True" else "False"
  | .int i => toString i
  | .float x => numberLayout.format x
  | .text s => Text.quoted s
  | .bytes bs => Text.quotedBytes bs
  | .date d => s!"datetime.date({d.year}, {d.month}, {d.day})"
  | .moment m => m.quoted

/-- A leaf as messages show it: a text without quotes, and a date in its usual form. -/
def Scalar.display : Scalar → String
  | .text s => s
  | .date d => d.display
  | .moment m => m.displayWith " "
  | s => s.quoted

/-- What stands for a collection inside itself. -/
def Value.ellipsis (v : Value) : String :=
  match v.bare with
  | .object _ => "\x7b...\x7d"
  | _ => "[...]"

mutual

/-- A value as messages quote it inside the collections with given labels. -/
def Value.quotedWithin (around : List Nat) : Value → String
  | .scalar s => s.quoted
  | .list items => "[" ++ ", ".intercalate (Value.quotedItems around items) ++ "]"
  | .object members => "\x7b" ++ ", ".intercalate (Value.quotedMembers around members) ++ "\x7d"
  | .set [] => "set()"
  | .set keys => "\x7b" ++ ", ".intercalate (keys.map Scalar.quoted) ++ "\x7d"
  | .pair v w => "(" ++ v.quotedWithin around ++ ", " ++ w.quotedWithin around ++ ")"
  | .labelled label v =>
    if around.contains label then v.ellipsis else v.quotedWithin (label :: around)

/-- The items of a list as messages quote them. -/
def Value.quotedItems (around : List Nat) : List Value → List String
  | [] => []
  | v :: rest => v.quotedWithin around :: Value.quotedItems around rest

/-- The members of an object as messages quote them. -/
def Value.quotedMembers (around : List Nat) : List (Scalar × Value) → List String
  | [] => []
  | (k, v) :: rest =>
    (k.quoted ++ ": " ++ v.quotedWithin around) :: Value.quotedMembers around rest

end

/-- A value as messages quote it. -/
def Value.quoted (v : Value) : String := v.quotedWithin []

/-- A value as messages show it. -/
def Value.display : Value → String
  | .scalar s => s.display
  | v => v.quoted

/-- The word for the kind of a value. -/
def Value.kindWord : Value → String
  | .scalar .null => "NoneType"
  | .scalar (.bool _) => "bool"
  | .scalar (.int _) => "int"
  | .scalar (.float _) => "float"
  | .scalar (.text _) => "str"
  | .scalar (.bytes _) => "bytes"
  | .scalar (.date _) => "date"
  | .scalar (.moment _) => "datetime"
  | .list _ => "list"
  | .object _ => "dict"
  | .set _ => "set"
  | .pair _ _ => "tuple"
  | .labelled _ v => v.kindWord

/-! ## Values that are not shown -/

/-- Why a value is not shown. -/
inductive Hindrance where
  /-- An integer has too many digits. -/
  | longInteger
  /-- Collections stand in too many others. -/
  | tooDeep
  deriving DecidableEq, Repr

/-- Looks one level further down, where a number of levels is left. -/
def Hindrance.below? (levels : Nat) (look : Nat → Option Hindrance) : Option Hindrance :=
  match levels with
  | 0 => some .tooDeep
  | levels + 1 => look levels

/-- What hinders a leaf from being shown. -/
def Scalar.hindrance? : Scalar → Option Hindrance
  | .int i => if Nat.pow 10 maxDigits ≤ i.natAbs then some .longInteger else none
  | _ => none

/-- What hinders the first of some leaves that are not shown. -/
def Scalar.firstHindrance? (levels : Nat) (keys : List Scalar) : Option Hindrance :=
  keys.findSome? fun key => Hindrance.below? levels fun _ => key.hindrance?

mutual

/-- What first hinders a value from being shown, inside the collections with given labels and where a
number of levels is left. A leaf takes one level, and so does each collection around it; the keys of
a set are shown as a list in it. -/
def Value.hindranceWithin? (around : List Nat) (levels : Nat) : Value → Option Hindrance
  | .scalar s => Hindrance.below? levels fun _ => s.hindrance?
  | .list items => Hindrance.below? levels fun levels => Value.itemsHindrance? around levels items
  | .object members =>
    Hindrance.below? levels fun levels => Value.membersHindrance? around levels members
  | .set keys =>
    Hindrance.below? levels fun levels =>
      if keys.isEmpty then none
      else Hindrance.below? levels fun levels => Scalar.firstHindrance? levels keys
  | .pair v w =>
    Hindrance.below? levels fun levels =>
      (v.hindranceWithin? around levels).or (w.hindranceWithin? around levels)
  | .labelled label v =>
    if around.contains label then Hindrance.below? levels fun _ => none
    else v.hindranceWithin? (label :: around) levels

/-- What first hinders the items of a list from being shown. -/
def Value.itemsHindrance? (around : List Nat) (levels : Nat) : List Value → Option Hindrance
  | [] => none
  | v :: rest => (v.hindranceWithin? around levels).or (Value.itemsHindrance? around levels rest)

/-- What first hinders the members of an object from being shown. -/
def Value.membersHindrance? (around : List Nat) (levels : Nat) :
    List (Scalar × Value) → Option Hindrance
  | [] => none
  | (k, v) :: rest =>
    (Hindrance.below? levels fun _ => k.hindrance?).or <|
      (v.hindranceWithin? around levels).or (Value.membersHindrance? around levels rest)

end

/-- What hinders a value from being shown in a number of levels. -/
def Value.hindrance? (levels : Nat) (v : Value) : Option Hindrance := v.hindranceWithin? [] levels

end CsdlRoutes
