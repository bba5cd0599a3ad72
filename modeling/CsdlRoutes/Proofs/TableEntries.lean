import Mathlib.Data.List.Nodup
import CsdlRoutes.Table

/-!
# Entries of tables

A name that is looked up leads to an entry of the table. Where no name occurs twice the entries are
exactly what can be looked up, and a row of assignments always leaves such a table behind.

* `Table.get?_eq_some_iff`: entries and look-ups agree.
* `Table.nodup_names_ofList`, `Table.ofList_eq_self`, `Table.get?_foldl_put`: what a row of
  assignments leaves behind.
-/

namespace CsdlRoutes.Table

variable {α : Type}

/-! ## Looking up -/

theorem mem_of_get? {name : String} {t : Table α} {v : α} (h : t.get? name = some v) :
    (name, v) ∈ t := by
  induction t with
  | nil => cases h
  | cons entry rest ih =>
    obtain ⟨n, w⟩ := entry
    rw [get?] at h
    split at h
    · rename_i hn
      cases h
      rw [hn]
      exact List.mem_cons_self
    · exact List.mem_cons_of_mem _ (ih h)

theorem mem_values {t : Table α} {v : α} : v ∈ t.values ↔ ∃ name, (name, v) ∈ t := by
  simp [values]

theorem exists_get?_of_mem {name : String} {t : Table α} {v : α} (h : (name, v) ∈ t) :
    ∃ w, t.get? name = some w := by
  induction t with
  | nil => cases h
  | cons entry rest ih =>
    obtain ⟨n, w⟩ := entry
    rw [get?]
    split
    · exact ⟨w, rfl⟩
    · rename_i hn
      rcases List.mem_cons.mp h with he | h
      · cases he
        exact absurd rfl hn
      · exact ih h

theorem get?_eq_some_iff {name : String} {t : Table α} {v : α} (ht : t.names.Nodup) :
    t.get? name = some v ↔ (name, v) ∈ t := by
  constructor
  · exact mem_of_get?
  · intro h
    obtain ⟨w, hw⟩ := exists_get?_of_mem h
    have hinj := List.inj_on_of_nodup_map ht h (mem_of_get? hw) rfl
    cases hinj
    exact hw

theorem has_iff {name : String} {t : Table α} : t.has name = true ↔ ∃ v, t.get? name = some v := by
  rw [has, Option.isSome_iff_exists]

theorem mem_names_iff {name : String} {t : Table α} :
    name ∈ t.names ↔ ∃ v, t.get? name = some v := by
  constructor
  · intro h
    obtain ⟨⟨n, v⟩, hm, rfl⟩ := List.mem_map.mp h
    exact exists_get?_of_mem hm
  · rintro ⟨v, hv⟩
    exact List.mem_map.mpr ⟨(name, v), mem_of_get? hv, rfl⟩

/-! ## Assignments -/

theorem mem_put {name : String} {value : α} {t : Table α} {entry : String × α}
    (h : entry ∈ t.put name value) : entry ∈ t ∨ entry = (name, value) := by
  induction t with
  | nil => exact Or.inr (List.mem_singleton.mp h)
  | cons first rest ih =>
    obtain ⟨n, w⟩ := first
    rw [put] at h
    split at h
    · rename_i hn
      rcases List.mem_cons.mp h with he | h
      · exact Or.inr (hn ▸ he)
      · exact Or.inl (List.mem_cons_of_mem _ h)
    · rcases List.mem_cons.mp h with he | h
      · exact Or.inl (he ▸ List.mem_cons_self)
      · rcases ih h with h | h
        · exact Or.inl (List.mem_cons_of_mem _ h)
        · exact Or.inr h

theorem nodup_names_put {name : String} {value : α} {t : Table α} (ht : t.names.Nodup) :
    (t.put name value).names.Nodup := by
  induction t with
  | nil => exact List.nodup_singleton _
  | cons first rest ih =>
    obtain ⟨n, w⟩ := first
    obtain ⟨hn, hrest⟩ := List.nodup_cons.mp ht
    rw [put]
    split
    · exact List.nodup_cons.mpr ⟨hn, hrest⟩
    · rename_i hne
      refine List.nodup_cons.mpr ⟨?_, ih hrest⟩
      intro hm
      obtain ⟨v, hv⟩ := mem_names_iff.mp hm
      rw [get?_put_of_ne hne] at hv
      exact hn (mem_names_iff.mpr ⟨v, hv⟩)

theorem nodup_names_foldl_put (assignments : List (String × α)) (t : Table α)
    (ht : t.names.Nodup) :
    (assignments.foldl (fun t (n, v) => t.put n v) t : Table α).names.Nodup := by
  induction assignments generalizing t with
  | nil => exact ht
  | cons a rest ih => exact ih _ (nodup_names_put ht)

theorem nodup_names_ofList (assignments : List (String × α)) : (ofList assignments).names.Nodup :=
  nodup_names_foldl_put assignments [] List.nodup_nil

theorem mem_foldl_put {t : Table α} {assignments : List (String × α)} {entry : String × α}
    (h : entry ∈ (assignments.foldl (fun t (n, v) => t.put n v) t : Table α)) :
    entry ∈ t ∨ entry ∈ assignments := by
  induction assignments generalizing t with
  | nil => exact Or.inl h
  | cons a rest ih =>
    rcases ih h with h | h
    · rcases mem_put h with h | h
      · exact Or.inl h
      · exact Or.inr (h ▸ List.mem_cons_self)
    · exact Or.inr (List.mem_cons_of_mem _ h)

theorem mem_of_mem_ofList {assignments : List (String × α)} {entry : String × α}
    (h : entry ∈ ofList assignments) : entry ∈ assignments := by
  rcases mem_foldl_put h with h | h
  · cases h
  · exact h

theorem put_of_new {name : String} {value : α} {t : Table α} (h : name ∉ t.names) :
    t.put name value = t ++ [(name, value)] := by
  induction t with
  | nil => rfl
  | cons first rest ih =>
    obtain ⟨n, w⟩ := first
    have hne : n ≠ name := fun he => h (he ▸ List.mem_cons_self)
    rw [put, if_neg hne, ih fun hmem => h (List.mem_cons_of_mem _ hmem), List.cons_append]

theorem length_le_put (name : String) (value : α) (t : Table α) :
    t.length ≤ (t.put name value).length := by
  induction t with
  | nil => exact Nat.zero_le _
  | cons first rest ih =>
    obtain ⟨n, w⟩ := first
    rw [put]
    split
    · exact Nat.le_refl _
    · exact Nat.succ_le_succ ih

theorem erase_of_new {name : String} {t : Table α} (h : t.get? name = none) : t.erase name = t := by
  rw [erase, List.filter_eq_self]
  rintro ⟨n, v⟩ hmem
  have hne : n ≠ name := by
    rintro rfl
    obtain ⟨w, hw⟩ := exists_get?_of_mem hmem
    rw [h] at hw
    cases hw
  simpa using hne

theorem foldl_put_eq_append {t : Table α} {assignments : List (String × α)}
    (h : (t ++ assignments : Table α).names.Nodup) :
    assignments.foldl (fun t (n, v) => t.put n v) t = t ++ assignments := by
  induction assignments generalizing t with
  | nil => exact (List.append_nil t).symm
  | cons a rest ih =>
    obtain ⟨n, v⟩ := a
    have hnew : n ∉ t.names := by
      rw [names, List.map_append, List.nodup_append'] at h
      exact fun hmem => h.2.2 hmem List.mem_cons_self
    rw [List.append_cons, ← put_of_new hnew] at h
    rw [List.foldl_cons, List.append_cons, ← put_of_new hnew]
    exact ih h

/-- Assignments to distinct names are what they leave behind. -/
theorem ofList_eq_self {assignments : List (String × α)} (h : (assignments.map Prod.fst).Nodup) :
    ofList assignments = assignments := foldl_put_eq_append h

/-- Of assignments to distinct names each one counts, and the other names stay as they were. -/
theorem get?_foldl_put {t : Table α} {assignments : List (String × α)}
    (h : (assignments.map Prod.fst).Nodup) (name : String) :
    get? name (assignments.foldl (fun t (n, v) => t.put n v) t) =
      (get? name assignments).or (get? name t) := by
  induction assignments generalizing t with
  | nil => rfl
  | cons a rest ih =>
    obtain ⟨n, v⟩ := a
    obtain ⟨hn, hrest⟩ := List.nodup_cons.mp h
    rw [List.foldl_cons, ih hrest]
    dsimp only
    rw [get?]
    split
    · rename_i he
      subst he
      have hnone : get? n rest = none := by
        cases hr : get? n rest with
        | none => rfl
        | some w => exact absurd (mem_names_iff.mpr ⟨w, hr⟩) hn
      rw [hnone, get?_put_self]
      rfl
    · rename_i hne
      rw [get?_put_of_ne (Ne.symm hne)]

end CsdlRoutes.Table
