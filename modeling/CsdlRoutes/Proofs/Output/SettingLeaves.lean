import CsdlRoutes.Output.Flatten

/-!
# The leaves of settings

The leaves of an object are the values in it that are no objects, in the objects inside too. A leaf
has a place, which tells from the outside in the numbers of the members that lead to it, and the
keys of these members are its keys. Places that are ordered like words in a dictionary are in the
order of the document.

* `IsLeafOf`: the leaves of an object with their places and keys.
* `leaves`, `mem_leaves_iff`, `pairwise_places`: all of them, in the order of their places.
* `flatten_eq_map_leaves`: flattening lists the leaves, each under its keys joined by dots.
-/

namespace CsdlRoutes

/-- A value is not an object. -/
def Value.IsLeaf (v : Value) : Prop := ∀ members, v ≠ .object members

theorem Value.isLeaf_or_object (v : Value) : v.IsLeaf ∨ ∃ members, v = .object members := by
  by_cases h : ∃ members, v = .object members
  · exact Or.inr h
  · exact Or.inl fun members hv => h ⟨members, hv⟩

/-- What holds of an object whenever it holds of the objects among its members holds of all
objects. -/
@[elab_as_elim]
theorem Members.nested {P : Members → Prop}
    (step : ∀ members, (∀ m ∈ members, ∀ inner, m.2 = .object inner → P inner) → P members)
    (members : Members) : P members :=
  step members fun m hm inner hinner => by
    have hmember := List.sizeOf_lt_of_mem hm
    obtain ⟨key, v⟩ := m
    obtain rfl : v = .object inner := hinner
    have hinside : sizeOf inner < sizeOf (key, Value.object inner) := by
      simp only [Prod.mk.sizeOf_spec, Value.object.sizeOf_spec]
      omega
    exact nested step inner
termination_by sizeOf members

namespace Output

/-! ## Leaves and their places -/

/-- A value in an object, with the numbers of the members that lead to it and their keys. -/
structure Leaf where
  place : List Nat
  keys : List Scalar
  value : Value

namespace Leaf

/-- A leaf of the object that is the member with a given number, as a leaf of the whole. -/
def within (number : Nat) (key : Scalar) (l : Leaf) : Leaf :=
  ⟨number :: l.place, key :: l.keys, l.value⟩

/-- The keys of a leaf, joined by dots. -/
def name (l : Leaf) : String := ".".intercalate (l.keys.map Scalar.display)

/-- A leaf as it is listed. -/
def pair (l : Leaf) : String × Value := (l.name, l.value)

end Leaf

/-- The leaves of an object: its members that are no objects, and the leaves of those that are. -/
inductive IsLeafOf : Members → Leaf → Prop
  | member {members : Members} {i : Nat} {key : Scalar} {v : Value}
      (h : members[i]? = some (key, v)) (hv : v.IsLeaf) : IsLeafOf members ⟨[i], [key], v⟩
  | within {members inner : Members} {i : Nat} {key : Scalar} {l : Leaf}
      (h : members[i]? = some (key, .object inner)) (hl : IsLeafOf inner l) :
      IsLeafOf members (l.within i key)

theorem IsLeafOf.keys_ne_nil {members : Members} {l : Leaf} (h : IsLeafOf members l) :
    l.keys ≠ [] := by
  cases h with
  | member => exact List.cons_ne_nil _ _
  | within => exact List.cons_ne_nil _ _

mutual

/-- The leaves of a row of members, the first of which has a given number. -/
def leavesFrom (number : Nat) : List (Scalar × Value) → List Leaf
  | [] => []
  | (key, v) :: rest => leavesUnder number key v ++ leavesFrom (number + 1) rest

/-- The leaves that a member with a given number leads to. -/
def leavesUnder (number : Nat) (key : Scalar) : Value → List Leaf
  | .object members => (leavesFrom 0 members).map (Leaf.within number key)
  | v => [⟨[number], [key], v⟩]

end

/-- The leaves of an object. -/
def leaves (members : Members) : List Leaf := leavesFrom 0 members

theorem leavesUnder_object (number : Nat) (key : Scalar) (members : Members) :
    leavesUnder number key (.object members) = (leaves members).map (Leaf.within number key) := rfl

theorem leavesUnder_leaf {v : Value} (hv : v.IsLeaf) (number : Nat) (key : Scalar) :
    leavesUnder number key v = [⟨[number], [key], v⟩] := by
  cases v with
  | object members => exact absurd rfl (hv members)
  | _ => rfl

/-! ## All leaves in their order -/

theorem mem_leavesFrom_iff {members : Members} {number : Nat} {l : Leaf} :
    l ∈ leavesFrom number members ↔
      ∃ i key v, members[i]? = some (key, v) ∧ l ∈ leavesUnder (number + i) key v := by
  induction members generalizing number with
  | nil => simp [leavesFrom]
  | cons m rest ih =>
    obtain ⟨key, v⟩ := m
    rw [leavesFrom, List.mem_append, ih]
    constructor
    · rintro (h | ⟨i, k, w, hi, h⟩)
      · exact ⟨0, key, v, rfl, h⟩
      · exact ⟨i + 1, k, w, hi, by rwa [← Nat.add_assoc, Nat.add_right_comm]⟩
    · rintro ⟨i, k, w, hi, h⟩
      cases i with
      | zero =>
        cases hi
        exact Or.inl h
      | succ i => exact Or.inr ⟨i, k, w, hi, by rwa [Nat.add_right_comm, Nat.add_assoc]⟩

theorem mem_leaves_iff {members : Members} {l : Leaf} :
    l ∈ leaves members ↔ IsLeafOf members l := by
  constructor
  · induction members using Members.nested generalizing l with
    | step members hinner =>
      intro h
      obtain ⟨i, key, v, hi, h⟩ := mem_leavesFrom_iff.mp h
      rw [Nat.zero_add] at h
      rcases v.isLeaf_or_object with hv | ⟨inner, rfl⟩
      · rw [leavesUnder_leaf hv, List.mem_singleton] at h
        exact h ▸ .member hi hv
      · rw [leavesUnder_object] at h
        obtain ⟨l, hl, rfl⟩ := List.mem_map.mp h
        exact .within hi (hinner _ (List.mem_of_getElem? hi) inner rfl hl)
  · intro h
    induction h with
    | @member members i key v hi hv =>
      refine mem_leavesFrom_iff.mpr ⟨i, key, v, hi, ?_⟩
      rw [Nat.zero_add, leavesUnder_leaf hv]
      exact List.mem_singleton_self _
    | @within members inner i key l hi _ ih =>
      refine mem_leavesFrom_iff.mpr ⟨i, key, _, hi, ?_⟩
      rw [Nat.zero_add, leavesUnder_object]
      exact List.mem_map_of_mem ih

/-- All places of the leaves that a member leads to start with its number. -/
theorem exists_place_of_mem {number : Nat} {key : Scalar} {v : Value} {l : Leaf}
    (h : l ∈ leavesUnder number key v) : ∃ place, l.place = number :: place := by
  rcases v.isLeaf_or_object with hv | ⟨inner, rfl⟩
  · rw [leavesUnder_leaf hv, List.mem_singleton] at h
    exact ⟨[], h ▸ rfl⟩
  · rw [leavesUnder_object] at h
    obtain ⟨l, _, rfl⟩ := List.mem_map.mp h
    exact ⟨l.place, rfl⟩

theorem place_lt_of_mem {number : Nat} {key : Scalar} {v : Value} {members : Members} {k l : Leaf}
    (hk : k ∈ leavesUnder number key v) (hl : l ∈ leavesFrom (number + 1) members) :
    k.place < l.place := by
  obtain ⟨i, key', w, _, hl⟩ := mem_leavesFrom_iff.mp hl
  obtain ⟨_, hk⟩ := exists_place_of_mem hk
  obtain ⟨_, hl⟩ := exists_place_of_mem hl
  rw [hk, hl]
  exact .rel (by omega)

theorem pairwise_leavesUnder {number : Nat} {key : Scalar} {v : Value}
    (h : ∀ inner, v = .object inner → (leaves inner).Pairwise fun k l => k.place < l.place) :
    (leavesUnder number key v).Pairwise fun k l => k.place < l.place := by
  rcases v.isLeaf_or_object with hv | ⟨inner, rfl⟩
  · rw [leavesUnder_leaf hv]
    exact List.pairwise_singleton _ _
  · rw [leavesUnder_object, List.pairwise_map]
    exact (h inner rfl).imp fun hlt => .cons hlt

/-- Leaves are listed in the order of their places. -/
theorem pairwise_places (members : Members) :
    (leaves members).Pairwise fun k l => k.place < l.place := by
  induction members using Members.nested with
  | step members hinner =>
    suffices h : ∀ number, (leavesFrom number members).Pairwise fun k l => k.place < l.place from
      h 0
    induction members with
    | nil => exact fun _ => .nil
    | cons m rest ih =>
      intro number
      obtain ⟨hfirst, hrest⟩ := List.forall_mem_cons.mp hinner
      rw [leavesFrom, List.pairwise_append]
      exact ⟨pairwise_leavesUnder hfirst, ih hrest (number + 1),
        fun k hk l hl => place_lt_of_mem hk hl⟩

/-! ## Flattening -/

theorem flattenMember_leaf {v : Value} (hv : v.IsLeaf) (name : String) :
    flattenMember name v = [(name, v)] := by
  cases v with
  | object members => exact absurd rfl (hv members)
  | _ => rfl

theorem Leaf.name_within (number : Nat) (key : Scalar) {l : Leaf} (h : l.keys ≠ []) :
    (l.within number key).name = key.display ++ "." ++ l.name := by
  rw [name, within, List.map_cons, String.intercalate_cons_of_ne_nil (by simpa using h)]
  rfl

theorem flattenMember_eq_map {stem : String} {number : Nat} {key : Scalar} {v : Value}
    (h : ∀ inner, v = .object inner → ∀ stem,
      flattenUnder stem inner = (leaves inner).map fun l => (stem ++ l.name, l.value)) :
    flattenMember (stem ++ key.display) v =
      (leavesUnder number key v).map fun l => (stem ++ l.name, l.value) := by
  rcases v.isLeaf_or_object with hv | ⟨inner, rfl⟩
  · rw [flattenMember_leaf hv, leavesUnder_leaf hv]
    simp [Leaf.name]
  · rw [flattenMember, h inner rfl, leavesUnder_object, List.map_map]
    refine List.map_congr_left fun l hl => ?_
    have hkeys := (mem_leaves_iff.mp hl).keys_ne_nil
    simp only [Function.comp_apply, l.name_within number key hkeys, String.append_assoc]
    rfl

theorem flattenUnder_eq_map (stem : String) (members : Members) :
    flattenUnder stem members = (leaves members).map fun l => (stem ++ l.name, l.value) := by
  induction members using Members.nested generalizing stem with
  | step members hinner =>
    suffices h : ∀ number,
        flattenUnder stem members =
          (leavesFrom number members).map fun l => (stem ++ l.name, l.value) from h 0
    induction members with
    | nil => exact fun _ => rfl
    | cons m rest ih =>
      intro number
      obtain ⟨hfirst, hrest⟩ := List.forall_mem_cons.mp hinner
      rw [flattenUnder, leavesFrom, List.map_append, ← ih hrest (number + 1),
        flattenMember_eq_map hfirst]

/-- Flattening lists the leaves of an object. -/
theorem flatten_eq_map_leaves (members : Members) :
    flatten members = (leaves members).map Leaf.pair := by
  rw [flatten, flattenUnder_eq_map]
  exact List.map_congr_left fun l _ => by rw [String.empty_append]; rfl

end Output

end CsdlRoutes
