import Mathlib.Data.List.Nodup
import CsdlRoutes.Value

/-!
# Values without repeated keys

An object has each key once: setting an entry replaces the entry with the same key. So what is
looked up under a key does not depend on the order of the entries.

* `Keyed.Distinct`: no key occurs twice.
* `Value.Proper`: no object in a value has a key twice.
* `Keyed.distinct_ofList`: what a row of assignments leaves behind.
* `Keyed.at?_ofList`: what is assigned to a key last is found under it.
-/

namespace CsdlRoutes

/-! ## Objects -/

/-- The members of a value, if it is an object. -/
def Value.members (v : Value) : Members :=
  match v.bare with
  | .object members => members
  | _ => []

theorem Value.members_of_bare {v : Value} {members : Members} (h : v.bare = .object members) :
    v.members = members := by
  rw [Value.members, h]

/-- No key occurs twice. -/
def Keyed.Distinct {α : Type} (entries : Keyed α) : Prop := (entries.map Prod.fst).Nodup

instance {α : Type} (entries : Keyed α) : Decidable entries.Distinct :=
  inferInstanceAs (Decidable (List.Nodup _))

theorem Keyed.get?_eq_some_iff {α : Type} {entries : Keyed α} (h : entries.Distinct) {key : String}
    {value : α} : Keyed.get? key entries = some value ↔ (Scalar.text key, value) ∈ entries := by
  rw [Keyed.get?, Option.map_eq_some_iff]
  constructor
  · rintro ⟨⟨k, v⟩, hfound, rfl⟩
    have hk := List.find?_some hfound
    rw [beq_iff_eq] at hk
    cases hk
    exact List.mem_of_find?_eq_some hfound
  · intro hmem
    cases hfound : entries.find? fun m => m.1 == .text key with
    | none => exact absurd BEq.rfl (List.find?_eq_none.mp hfound _ hmem)
    | some entry =>
      have hk := List.find?_some hfound
      rw [beq_iff_eq] at hk
      have he := List.inj_on_of_nodup_map h (List.mem_of_find?_eq_some hfound) hmem hk
      exact ⟨entry, rfl, congrArg Prod.snd he⟩

/-- Where no key occurs twice, the order of the entries does not matter. -/
theorem Keyed.get?_eq_of_perm {α : Type} {s t : Keyed α} (h : s.Perm t) (hs : s.Distinct)
    (key : String) : Keyed.get? key s = Keyed.get? key t := by
  have ht : t.Distinct := (h.map Prod.fst).nodup_iff.mp hs
  refine Option.ext fun v => ?_
  rw [Keyed.get?_eq_some_iff hs, Keyed.get?_eq_some_iff ht, h.mem_iff]

/-! ## Assignments -/

theorem Scalar.sameKey_self (key : Scalar) : key.sameKey key = true := by
  unfold Scalar.sameKey
  cases key.toInt? with
  | some i => exact beq_self_eq_true i
  | none =>
    cases key.instant? with
    | some i => exact beq_self_eq_true i
    | none => exact beq_self_eq_true key

namespace Keyed

variable {α : Type} {key : Scalar} {value : α}

theorem mem_keys_put {entries : Keyed α} {k : Scalar}
    (h : k ∈ (put key value entries).map Prod.fst) : k = key ∨ k ∈ entries.map Prod.fst := by
  induction entries with
  | nil => exact Or.inl (List.mem_singleton.mp h)
  | cons entry rest ih =>
    obtain ⟨l, w⟩ := entry
    rw [put] at h
    split at h
    · exact Or.inr h
    · rcases List.mem_cons.mp h with rfl | h
      · exact Or.inr List.mem_cons_self
      · exact (ih h).imp_right (List.mem_cons_of_mem _)

theorem distinct_put {entries : Keyed α} (h : entries.Distinct) :
    (put key value entries).Distinct := by
  induction entries with
  | nil => exact List.nodup_singleton _
  | cons entry rest ih =>
    obtain ⟨l, w⟩ := entry
    obtain ⟨hnew, hrest⟩ := List.nodup_cons.mp h
    rw [put]
    split
    · exact List.nodup_cons.mpr ⟨hnew, hrest⟩
    · rename_i hother
      refine List.nodup_cons.mpr ⟨?_, ih hrest⟩
      intro hmem
      rcases mem_keys_put hmem with rfl | hmem
      · exact hother (Scalar.sameKey_self l)
      · exact hnew hmem

theorem forall_put {P : α → Prop} {entries : Keyed α} (h : ∀ e ∈ entries, P e.2)
    (hvalue : P value) : ∀ e ∈ put key value entries, P e.2 := by
  induction entries with
  | nil =>
    intro e he
    rw [List.mem_singleton.mp he]
    exact hvalue
  | cons entry rest ih =>
    obtain ⟨l, w⟩ := entry
    obtain ⟨hw, hrest⟩ := List.forall_mem_cons.mp h
    rw [put]
    split
    · exact List.forall_mem_cons.mpr ⟨hvalue, hrest⟩
    · exact List.forall_mem_cons.mpr ⟨hw, ih hrest⟩

/-- What a row of assignments leaves behind has each key once and no value but the assigned ones. -/
theorem distinct_ofList {P : α → Prop} {assignments : List (Scalar × α)}
    (h : ∀ a ∈ assignments, P a.2) :
    (ofList assignments).Distinct ∧ ∀ e ∈ ofList assignments, P e.2 := by
  have hfold : ∀ {entries : Keyed α}, entries.Distinct → (∀ e ∈ entries, P e.2) →
      let after : Keyed α := assignments.foldl (fun entries a => put a.1 a.2 entries) entries
      after.Distinct ∧ ∀ e ∈ after, P e.2 := by
    induction assignments with
    | nil => exact fun hentries hvalues => ⟨hentries, hvalues⟩
    | cons a rest ih =>
      intro entries hentries hvalues
      obtain ⟨ha, hrest⟩ := List.forall_mem_cons.mp h
      exact ih hrest (distinct_put hentries) (forall_put hvalues ha)
  exact hfold List.nodup_nil (by simp)

theorem put_of_new {name : String} {entries : Keyed α}
    (h : Scalar.text name ∉ entries.map Prod.fst) :
    put (.text name) value entries = entries ++ [(.text name, value)] := by
  induction entries with
  | nil => rfl
  | cons entry rest ih =>
    obtain ⟨k, w⟩ := entry
    rw [List.map_cons, List.mem_cons, not_or] at h
    have hother : ¬ k.sameKey (.text name) = true :=
      fun hsame => h.1 (Scalar.sameKey_text_right.mp hsame).symm
    rw [put, if_neg hother, ih h.2, List.cons_append]

theorem foldl_put_of_texts {entries assignments : Keyed α}
    (htexts : ∀ a ∈ assignments, ∃ name, a.1 = .text name)
    (h : Distinct (entries ++ assignments)) :
    assignments.foldl (fun entries a => put a.1 a.2 entries) entries = entries ++ assignments := by
  induction assignments generalizing entries with
  | nil => exact (List.append_nil entries).symm
  | cons a rest ih =>
    obtain ⟨⟨name, ha⟩, hrest⟩ := List.forall_mem_cons.mp htexts
    obtain ⟨k, v⟩ := a
    subst ha
    have hnew : Scalar.text name ∉ entries.map Prod.fst := by
      rw [Distinct, List.map_append, List.nodup_append'] at h
      exact fun hmem => h.2.2 hmem List.mem_cons_self
    rw [List.append_cons, ← put_of_new hnew] at h
    rw [List.foldl_cons, List.append_cons, ← put_of_new hnew]
    exact ih hrest h

/-- Assignments to distinct textual keys are what they leave behind. -/
theorem ofList_eq_self {assignments : Keyed α}
    (htexts : ∀ a ∈ assignments, ∃ name, a.1 = .text name) (h : assignments.Distinct) :
    ofList assignments = assignments := foldl_put_of_texts htexts h

end Keyed

/-! ## Assignments to one key -/

/-- What a scalar is as a key: a number, a point in time or itself. -/
def Scalar.identity (s : Scalar) : Int ⊕ Int ⊕ Scalar :=
  match s.toInt? with
  | some i => .inl i
  | none =>
    match s.instant? with
    | some t => .inr (.inl t)
    | none => .inr (.inr s)

theorem Scalar.sameKey_iff {a b : Scalar} : a.sameKey b = true ↔ a.identity = b.identity := by
  have hdiffers : a.instant? ≠ b.instant? → a ≠ b := fun h hab => h (congrArg _ hab)
  unfold Scalar.sameKey Scalar.identity
  cases a.toInt? with
  | some i => cases b.toInt? <;> cases b.instant? <;> simp
  | none =>
    cases b.toInt? with
    | some j => cases a.instant? <;> simp
    | none => cases ha : a.instant? <;> cases hb : b.instant? <;> simp_all

namespace Keyed

variable {α : Type} {key : Scalar}

/-- The value of an entry under any key. -/
def at? (key : Scalar) (entries : Keyed α) : Option α :=
  (entries.find? fun e => e.1.sameKey key).map (·.2)

theorem at?_text (name : String) (entries : Keyed α) : at? (.text name) entries = get? name entries := by
  have hsame : (fun e : Scalar × α => e.1.sameKey (.text name)) = fun e => e.1 == .text name := by
    funext e
    rw [Bool.eq_iff_iff, Scalar.sameKey_text_right, beq_iff_eq]
  rw [at?, get?, hsame]

theorem at?_put (key other : Scalar) (value : α) (entries : Keyed α) :
    at? other (put key value entries) =
      if key.sameKey other then some value else at? other entries := by
  unfold at?
  induction entries with
  | nil =>
    rw [put, List.find?_cons]
    cases key.sameKey other <;> rfl
  | cons entry rest ih =>
    obtain ⟨k, v⟩ := entry
    rw [put]
    split
    · rename_i hsame
      -- the entry that is replaced is found under the same keys
      have hagree : k.sameKey other = key.sameKey other := by
        rw [Bool.eq_iff_iff, Scalar.sameKey_iff, Scalar.sameKey_iff, Scalar.sameKey_iff.mp hsame]
      rw [List.find?_cons, List.find?_cons, hagree]
      cases key.sameKey other <;> rfl
    · rename_i hother
      rw [List.find?_cons, List.find?_cons]
      cases hk : k.sameKey other with
      | false => exact ih
      | true =>
        have hkey : ¬ key.sameKey other = true := by
          rw [Scalar.sameKey_iff] at hk hother ⊢
          exact fun h => hother (hk.trans h.symm)
        rw [if_neg hkey]

/-- The last assignment to a key counts. -/
theorem at?_foldl_put (key : Scalar) (assignments : List (Scalar × α)) (entries : Keyed α) :
    at? key (assignments.foldl (fun entries a => put a.1 a.2 entries) entries) =
      ((assignments.filter fun a => a.1.sameKey key).getLast?.map (·.2)).or (at? key entries) := by
  induction assignments generalizing entries with
  | nil => rfl
  | cons a rest ih =>
    rw [List.foldl_cons, ih, at?_put, List.filter_cons]
    split
    · rw [List.getLast?_cons]
      cases (rest.filter fun a => a.1.sameKey key).getLast? <;> rfl
    · rfl

theorem at?_ofList (key : Scalar) (assignments : List (Scalar × α)) :
    at? key (ofList assignments) =
      (assignments.filter fun a => a.1.sameKey key).getLast?.map (·.2) :=
  (at?_foldl_put key assignments []).trans (Option.or_none)

end Keyed

/-! ## Proper values -/

/-- No object in a value has a key twice. -/
inductive Value.Proper : Value → Prop
  | scalar (s : Scalar) : Proper (.scalar s)
  | list {items : List Value} (h : ∀ v ∈ items, Proper v) : Proper (.list items)
  | object {members : List (Scalar × Value)} (hkeys : Keyed.Distinct members)
      (h : ∀ m ∈ members, Proper m.2) : Proper (.object members)
  | set (keys : List Scalar) : Proper (.set keys)
  | pair {v w : Value} (hv : Proper v) (hw : Proper w) : Proper (.pair v w)
  | labelled {label : Nat} {v : Value} (h : Proper v) : Proper (.labelled label v)

theorem Value.Proper.bare {v : Value} (h : v.Proper) : v.bare.Proper := by
  induction h with
  | scalar s => exact .scalar s
  | list h => exact .list h
  | object hkeys h => exact .object hkeys h
  | set keys => exact .set keys
  | pair hv hw => exact .pair hv hw
  | labelled _ ih => exact ih

theorem Value.Proper.members {v : Value} (h : v.Proper) :
    v.members.Distinct ∧ ∀ m ∈ v.members, m.2.Proper := by
  have hbare := h.bare
  unfold Value.members
  split
  · rename_i members hv
    rw [hv] at hbare
    cases hbare with
    | object hkeys hmembers => exact ⟨hkeys, hmembers⟩
  · exact ⟨List.nodup_nil, by simp⟩

end CsdlRoutes
