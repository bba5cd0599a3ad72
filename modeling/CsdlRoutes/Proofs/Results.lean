import Mathlib.Data.List.Forall2
import Mathlib.Data.List.Nodup
import Mathlib.Data.List.ReduceOption
import CsdlRoutes.Failure

/-!
# Results of steps that may fail

A row of steps succeeds when each of them does, and then it has the results of all of them.

* `bind_eq_ok`: two steps in a row.
* `mapM_eq_ok`: one step for each item of a list.
* `mapM_reduceOption_iff`: one step for each item of a list, which may leave nothing behind.
* `nodup_of_mapM`: different items with different results.
* `exists_forall₂_iff`: a partner for each item of a list.
* `Alike`: two runs that fail alike or have related results; `Alike.mapM_filterMap`: steps on what is
  left of some items.
-/

namespace CsdlRoutes

variable {ε α β : Type}

theorem bind_eq_ok {x : Except ε α} {f : α → Except ε β} {b : β} :
    (x >>= f) = .ok b ↔ ∃ a, x = .ok a ∧ f a = .ok b := by
  cases x with
  | error e => simp [bind, Except.bind]
  | ok a => simp [bind, Except.bind]

theorem ok_bind (a : α) (f : α → Except ε β) : ((.ok a : Except ε α) >>= f) = f a := rfl

theorem mapM_eq_ok {f : α → Except Failure β} {as : List α} {bs : List β} :
    as.mapM f = .ok bs ↔ List.Forall₂ (fun a b => f a = .ok b) as bs := by
  induction as generalizing bs with
  | nil =>
    rw [List.mapM_nil]
    constructor
    · intro h
      cases h
      exact .nil
    · intro h
      cases h
      rfl
  | cons a as ih =>
    rw [List.mapM_cons]
    simp only [bind_eq_ok]
    constructor
    · rintro ⟨b, hb, rest, hrest, h⟩
      cases h
      exact .cons hb (ih.mp hrest)
    · intro h
      cases h with
      | cons hb hrest => exact ⟨_, hb, _, ih.mpr hrest, rfl⟩

/-- Steps whose results are told have these results. -/
theorem eq_map_of_mapM {f : α → Except Failure β} {g : α → β} (h : ∀ a b, f a = .ok b → g a = b)
    {as : List α} {bs : List β} (hbs : as.mapM f = .ok bs) : as.map g = bs := by
  have hsame : List.Forall₂ Eq (as.map g) bs :=
    List.forall₂_map_left_iff.mpr ((mapM_eq_ok.mp hbs).imp h)
  rwa [List.forall₂_eq_eq_eq] at hsame

/-- Steps that may leave nothing behind: it is told of each item when its step succeeds, whether it
counts, and to what the result is related if so. -/
theorem mapM_reduceOption_iff {γ : Type} {f : α → Except Failure (Option β)} {good : α → Prop}
    {g : α → Option γ} {R : γ → β → Prop}
    (hf : ∀ a o, f a = .ok o ↔ good a ∧ Option.Rel R (g a) o) {as : List α} {bs : List β} :
    (∃ os, as.mapM f = .ok os ∧ os.reduceOption = bs) ↔
      (∀ a ∈ as, good a) ∧ List.Forall₂ R (as.filterMap g) bs := by
  induction as generalizing bs with
  | nil =>
    constructor
    · rintro ⟨os, hos, rfl⟩
      cases hos
      exact ⟨List.forall_mem_nil _, .nil⟩
    · rintro ⟨_, h⟩
      cases h
      exact ⟨[], rfl, rfl⟩
  | cons a as ih =>
    rw [List.forall_mem_cons]
    constructor
    · rintro ⟨os, hos, rfl⟩
      cases mapM_eq_ok.mp hos with
      | @cons _ o _ os ho hrest =>
        obtain ⟨ha, hrel⟩ := (hf a o).mp ho
        obtain ⟨has, hrels⟩ := ih.mp ⟨os, mapM_eq_ok.mpr hrest, rfl⟩
        refine ⟨⟨ha, has⟩, ?_⟩
        generalize hg : g a = c at hrel
        cases hrel with
        | none =>
          rw [List.filterMap_cons_none hg]
          exact hrels
        | some hcb =>
          rw [List.filterMap_cons_some hg]
          exact .cons hcb hrels
    · rintro ⟨⟨ha, has⟩, hrels⟩
      cases hg : g a with
      | none =>
        rw [List.filterMap_cons_none hg] at hrels
        obtain ⟨os, hos, rfl⟩ := ih.mpr ⟨has, hrels⟩
        have ho := (hf a none).mpr ⟨ha, hg ▸ .none⟩
        exact ⟨none :: os, mapM_eq_ok.mpr (.cons ho (mapM_eq_ok.mp hos)), rfl⟩
      | some c =>
        rw [List.filterMap_cons_some hg] at hrels
        cases hrels with
        | @cons _ b _ bs hcb hrels =>
          obtain ⟨os, hos, rfl⟩ := ih.mpr ⟨has, hrels⟩
          have ho := (hf a (some b)).mpr ⟨ha, hg ▸ .some hcb⟩
          exact ⟨some b :: os, mapM_eq_ok.mpr (.cons ho (mapM_eq_ok.mp hos)), rfl⟩

/-- Items have partners with some property when each item has one. -/
theorem exists_forall₂_iff {R : α → β → Prop} {Q : β → Prop} {as : List α} :
    (∃ bs, List.Forall₂ R as bs ∧ ∀ b ∈ bs, Q b) ↔ ∀ a ∈ as, ∃ b, R a b ∧ Q b := by
  induction as with
  | nil =>
    constructor
    · intro _ a ha
      cases ha
    · intro _
      exact ⟨[], .nil, List.forall_mem_nil _⟩
  | cons a as ih =>
    rw [List.forall_mem_cons, ← ih]
    constructor
    · rintro ⟨_, hrel, hall⟩
      cases hrel with
      | cons hab hrest =>
        obtain ⟨hb, hbs⟩ := List.forall_mem_cons.mp hall
        exact ⟨⟨_, hab, hb⟩, _, hrest, hbs⟩
    · rintro ⟨⟨b, hab, hb⟩, bs, hrest, hbs⟩
      exact ⟨b :: bs, .cons hab hrest, List.forall_mem_cons.mpr ⟨hb, hbs⟩⟩

/-- A row of steps succeeds when each step does. -/
theorem exists_mapM_ok {f : α → Except Failure β} {as : List α}
    (h : ∀ a ∈ as, ∃ b, f a = .ok b) : ∃ bs, as.mapM f = .ok bs := by
  induction as with
  | nil => exact ⟨[], rfl⟩
  | cons a as ih =>
    obtain ⟨b, hb⟩ := h a List.mem_cons_self
    obtain ⟨bs, hbs⟩ := ih fun a' ha' => h a' (List.mem_cons_of_mem _ ha')
    exact ⟨b :: bs, mapM_eq_ok.mpr (.cons hb (mapM_eq_ok.mp hbs))⟩

/-- Steps with different results for different items give a row without repetitions for one. -/
theorem nodup_of_mapM {f : α → Except Failure β} {as : List α} {bs : List β}
    (h : as.mapM f = .ok bs) (has : as.Nodup)
    (hf : ∀ a ∈ as, ∀ a' ∈ as, ∀ b, f a = .ok b → f a' = .ok b → a = a') : bs.Nodup := by
  have hrels : List.Forall₂ (fun a b => a ∈ as ∧ f a = .ok b) as bs :=
    (List.forall₂_and_left as bs).mpr ⟨fun _ ha => ha, mapM_eq_ok.mp h⟩
  refine (List.rel_nodup ⟨?_, ?_⟩ hrels).mp has
  · rintro a a' b ⟨ha, hb⟩ ⟨ha', hb'⟩
    exact hf a ha a' ha' b hb hb'
  · rintro a b b' ⟨_, hb⟩ ⟨_, hb'⟩
    rw [hb] at hb'
    exact Except.ok.inj hb'

/-! ## Two runs -/

/-- Two steps fail alike or succeed with related results. -/
inductive Alike (R : α → β → Prop) : Except Failure α → Except Failure β → Prop
  | ok {a : α} {b : β} (h : R a b) : Alike R (.ok a) (.ok b)
  | error (failure : Failure) : Alike R (.error failure) (.error failure)

namespace Alike

variable {γ δ : Type} {R : α → β → Prop} {Q : γ → δ → Prop}

theorem refl {R : α → α → Prop} (hR : ∀ a, R a a) (x : Except Failure α) : Alike R x x := by
  cases x with
  | error failure => exact .error failure
  | ok a => exact .ok (hR a)

theorem of_eq {x y : Except Failure α} (h : x = y) : Alike Eq x y := h ▸ refl (fun _ => rfl) x

theorem eq {x y : Except Failure α} (h : Alike Eq x y) : x = y := by
  cases h with
  | ok h => rw [h]
  | error => rfl

theorem bind {x : Except Failure α} {y : Except Failure β} {f : α → Except Failure γ}
    {g : β → Except Failure δ} (h : Alike R x y) (hf : ∀ a b, R a b → Alike Q (f a) (g b)) :
    Alike Q (x >>= f) (y >>= g) := by
  cases h with
  | ok h => exact hf _ _ h
  | error failure => exact .error failure

/-- Steps that do the same for related items do the same for related rows. -/
theorem mapM_eq {f : α → Except Failure γ} {g : β → Except Failure γ} {as : List α} {bs : List β}
    (h : List.Forall₂ R as bs) (hf : ∀ a b, R a b → f a = g b) : as.mapM f = bs.mapM g := by
  induction h with
  | nil => rfl
  | cons hab _ ih => rw [List.mapM_cons, List.mapM_cons, hf _ _ hab, ih]

/-- Steps on what is left of some items. Where nothing is left of an item, nothing is left of its
result, and elsewhere what is left of the item has what is left of the result. -/
theorem mapM_filterMap {f : α → Except Failure (Option β)} {g : γ → Except Failure (Option δ)}
    {p : α → Option γ} {q : β → Option δ} {as : List α}
    (hnone : ∀ a ∈ as, p a = none → ∃ o, f a = .ok o ∧ o.bind q = none)
    (hsome : ∀ a ∈ as, ∀ c, p a = some c → g c = (·.bind q) <$> f a) :
    Alike (fun os os' => os.reduceOption.filterMap q = os'.reduceOption) (as.mapM f)
      ((as.filterMap p).mapM g) := by
  have hcons : ∀ (o : Option β) (os : List (Option β)), (o :: os).reduceOption.filterMap q =
      (o.bind q).toList ++ os.reduceOption.filterMap q := by
    intro o os
    cases o with
    | none => rfl
    | some b =>
      rw [List.reduceOption_cons_of_some, List.filterMap_cons, Option.bind_some]
      cases q b <;> rfl
  induction as with
  | nil => exact .ok rfl
  | cons a as ih =>
    obtain ⟨hnone, hnones⟩ := List.forall_mem_cons.mp hnone
    obtain ⟨hsome, hsomes⟩ := List.forall_mem_cons.mp hsome
    have hrest := ih hnones hsomes
    rw [List.mapM_cons]
    cases hp : p a with
    | none =>
      obtain ⟨o, ho, hq⟩ := hnone hp
      rw [List.filterMap_cons_none hp, ho, ok_bind, ← bind_pure ((as.filterMap p).mapM g)]
      refine hrest.bind fun os os' h => .ok ?_
      rw [hcons, hq, h]
      rfl
    | some c =>
      rw [List.filterMap_cons_some hp, List.mapM_cons, hsome c hp]
      cases f a with
      | error failure => exact .error failure
      | ok o =>
        refine hrest.bind fun os os' h => .ok ?_
        rw [hcons, h]
        dsimp only
        cases o.bind q <;> rfl

end Alike

end CsdlRoutes
