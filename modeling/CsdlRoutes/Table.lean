/-!
# Tables

A table holds values under names, in the order in which the names were first set.

* `Table.put` sets a name, `Table.get?` looks one up, `Table.erase` removes one.
* `Table.ofList` is what a row of assignments leaves behind.
-/

namespace CsdlRoutes

/-- Values under names. -/
abbrev Table (α : Type) := List (String × α)

namespace Table

variable {α : Type}

/-- The value under a name. -/
def get? (name : String) : Table α → Option α
  | [] => none
  | (n, v) :: rest => if n = name then some v else get? name rest

/-- Whether a name is set. -/
def has (name : String) (t : Table α) : Bool := (t.get? name).isSome

/-- Sets a name. A name that was set keeps its place. -/
def put (name : String) (value : α) : Table α → Table α
  | [] => [(name, value)]
  | (n, v) :: rest => if n = name then (n, value) :: rest else (n, v) :: put name value rest

/-- Removes a name. -/
def erase (name : String) (t : Table α) : Table α := t.filter (·.1 ≠ name)

/-- What a row of assignments leaves behind. -/
def ofList (assignments : List (String × α)) : Table α :=
  assignments.foldl (fun t (n, v) => t.put n v) []

/-- The names that are set. -/
def names (t : Table α) : List String := t.map (·.1)

/-- The values. -/
def values (t : Table α) : List α := t.map (·.2)

theorem get?_put_self (name : String) (value : α) (t : Table α) :
    get? name (put name value t) = some value := by
  induction t with
  | nil => simp [put, get?]
  | cons entry rest ih =>
    by_cases h : entry.1 = name
    · simp [put, get?, h]
    · simpa [put, get?, h] using ih

theorem get?_put_of_ne {name other : String} (h : other ≠ name) (value : α) (t : Table α) :
    get? other (put name value t) = get? other t := by
  induction t with
  | nil => simp [put, get?, Ne.symm h]
  | cons entry rest ih =>
    by_cases hn : entry.1 = name
    · simp [put, get?, hn, Ne.symm h]
    · by_cases ho : entry.1 = other
      · simp [put, get?, ho, h]
      · simpa [put, get?, hn, ho] using ih

end Table

end CsdlRoutes
