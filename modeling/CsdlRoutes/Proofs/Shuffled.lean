import Mathlib.Data.List.Perm.Basic
import Mathlib.Data.List.ReduceOption
import CsdlRoutes.Proofs.Results
import CsdlRoutes.Proofs.TableEntries

/-!
# Lists in another order

Two lists are shuffled when one of them, put into some order, agrees with the other item by item.
What agrees is any relation between items: equality, for lists that are permutations of each other,
or a relation between parts of documents whose own parts may be in another order.

* `Shuffled` is the relation between lists.
* `mapM_related`, `mapM_shuffled`: one step for each item of related lists.
* `Shuffled.rel_get?`: tables with distinct names, set in any order.
-/

namespace CsdlRoutes

variable {α β γ δ : Type}

/-- The items of two lists are related, for some order of the first list. -/
def Shuffled (R : α → β → Prop) (as : List α) (bs : List β) : Prop :=
  ∃ ordered, as.Perm ordered ∧ List.Forall₂ R ordered bs

/-! ## Shuffled lists -/

namespace Shuffled

variable {R : α → β → Prop}

theorem of_perm {as bs : List α} (h : as.Perm bs) : Shuffled Eq as bs :=
  ⟨bs, h, List.forall₂_eq_eq_eq ▸ rfl⟩

theorem perm {as bs : List α} (h : Shuffled Eq as bs) : as.Perm bs := by
  obtain ⟨ordered, hperm, hsame⟩ := h
  rw [List.forall₂_eq_eq_eq] at hsame
  exact hsame ▸ hperm

theorem of_forall₂ {as : List α} {bs : List β} (h : List.Forall₂ R as bs) : Shuffled R as bs :=
  ⟨as, .refl as, h⟩

theorem map {R' : γ → δ → Prop} {f : α → γ} {g : β → δ} {as : List α} {bs : List β}
    (h : Shuffled R as bs) (hR : ∀ a b, R a b → R' (f a) (g b)) :
    Shuffled R' (as.map f) (bs.map g) := by
  obtain ⟨ordered, hperm, hrel⟩ := h
  refine ⟨ordered.map f, hperm.map f, ?_⟩
  rw [List.forall₂_map_left_iff, List.forall₂_map_right_iff]
  exact hrel.imp hR

theorem perm_map {f : α → γ} {g : β → γ} {as : List α} {bs : List β} (h : Shuffled R as bs)
    (hR : ∀ a b, R a b → f a = g b) : (as.map f).Perm (bs.map g) :=
  (h.map hR).perm

theorem exists_mem {as : List α} {bs : List β} (h : Shuffled R as bs) {a : α} (ha : a ∈ as) :
    ∃ b ∈ bs, R a b := by
  obtain ⟨ordered, hperm, hrel⟩ := h
  have ha := hperm.mem_iff.mp ha
  clear hperm
  induction hrel with
  | nil => cases ha
  | cons hab hrel ih =>
    rcases List.mem_cons.mp ha with rfl | ha
    · exact ⟨_, List.mem_cons_self, hab⟩
    · obtain ⟨b, hb, hr⟩ := ih ha
      exact ⟨b, List.mem_cons_of_mem _ hb, hr⟩

end Shuffled

theorem forall₂_reduceOption {R : α → β → Prop} {os : List (Option α)} {ps : List (Option β)}
    (h : List.Forall₂ (Option.Rel R) os ps) : List.Forall₂ R os.reduceOption ps.reduceOption := by
  induction h with
  | nil => exact .nil
  | cons hab _ ih =>
    cases hab with
    | none => exact ih
    | some hab => exact .cons hab ih

theorem Shuffled.reduceOption {R : α → β → Prop} {os : List (Option α)} {ps : List (Option β)}
    (h : Shuffled (Option.Rel R) os ps) : Shuffled R os.reduceOption ps.reduceOption := by
  obtain ⟨ordered, hperm, hrel⟩ := h
  exact ⟨ordered.reduceOption, hperm.filterMap id, forall₂_reduceOption hrel⟩

/-- What steps leave behind comes from one of the items. -/
theorem exists_source {link : α → Option β → Prop} {as : List α} {os : List (Option β)}
    (h : List.Forall₂ link as os) {b : β} (hb : b ∈ os.reduceOption) :
    ∃ a ∈ as, link a (some b) :=
  (Shuffled.of_forall₂ h.flip).exists_mem (List.reduceOption_mem_iff.mp hb)

/-! ## Steps -/

/-- Steps for related items that have related results. -/
theorem mapM_related {R : α → β → Prop} {Q : γ → δ → Prop} {f : α → Except Failure γ}
    {g : β → Except Failure δ} {as : List α} {bs : List β} (h : List.Forall₂ R as bs)
    (hstep : ∀ a ∈ as, ∀ b x, R a b → f a = .ok x → ∃ y, g b = .ok y ∧ Q x y) {xs : List γ}
    (hx : as.mapM f = .ok xs) : ∃ ys, bs.mapM g = .ok ys ∧ List.Forall₂ Q xs ys := by
  induction h generalizing xs with
  | nil =>
    cases hx
    exact ⟨[], rfl, .nil⟩
  | cons hab h ih =>
    cases mapM_eq_ok.mp hx with
    | cons hfa hrest =>
      obtain ⟨y, hy, hxy⟩ := hstep _ List.mem_cons_self _ _ hab hfa
      obtain ⟨ys, hys, hrel⟩ :=
        ih (fun a ha => hstep a (List.mem_cons_of_mem _ ha)) (mapM_eq_ok.mpr hrest)
      exact ⟨y :: ys, mapM_eq_ok.mpr (.cons hy (mapM_eq_ok.mp hys)), .cons hxy hrel⟩

theorem mapM_shuffled {R : α → β → Prop} {Q : γ → δ → Prop} {f : α → Except Failure γ}
    {g : β → Except Failure δ} {as : List α} {bs : List β} (h : Shuffled R as bs)
    (hstep : ∀ a ∈ as, ∀ b x, R a b → f a = .ok x → ∃ y, g b = .ok y ∧ Q x y) {xs : List γ}
    (hx : as.mapM f = .ok xs) : ∃ ys, bs.mapM g = .ok ys ∧ Shuffled Q xs ys := by
  obtain ⟨ordered, hperm, hrel⟩ := h
  obtain ⟨zs, hzs, hpermute⟩ := List.perm_comp_forall₂ hperm.symm (mapM_eq_ok.mp hx)
  obtain ⟨ys, hys, hout⟩ := mapM_related hrel
    (fun a ha => hstep a (hperm.mem_iff.mpr ha)) (mapM_eq_ok.mpr hzs)
  exact ⟨ys, hys, zs, hpermute.symm, hout⟩

/-- The same steps for the same items in another order. -/
theorem mapM_perm {f g : α → Except Failure β} (hfg : ∀ a b, f a = .ok b → g a = .ok b)
    {as as' : List α} (h : as.Perm as') {bs : List β} (hbs : as.mapM f = .ok bs) :
    ∃ bs', as'.mapM g = .ok bs' ∧ bs.Perm bs' := by
  obtain ⟨bs', hbs', hshuffled⟩ := mapM_shuffled (Q := Eq) (Shuffled.of_perm h)
    (by rintro a _ _ b rfl hb; exact ⟨b, hfg a b hb, rfl⟩) hbs
  exact ⟨bs', hbs', hshuffled.perm⟩

/-- What holds between any two items carries over to what steps leave behind. -/
theorem pairwise_reduceOption {link : α → Option β → Prop} {R : α → α → Prop} {S : β → β → Prop}
    (hlink : ∀ a a' b b', link a (some b) → link a' (some b') → R a a' → S b b') {as : List α}
    {os : List (Option β)} (h : List.Forall₂ link as os) (hr : as.Pairwise R) :
    os.reduceOption.Pairwise S := by
  induction h with
  | nil => exact .nil
  | @cons a o as os hao h ih =>
    obtain ⟨hfirst, hrest⟩ := List.pairwise_cons.mp hr
    cases o with
    | none => exact ih hrest
    | some b =>
      rw [List.reduceOption_cons_of_some]
      refine List.pairwise_cons.mpr ⟨?_, ih hrest⟩
      intro b' hb'
      obtain ⟨a', ha', hlinked⟩ := exists_source h hb'
      exact hlink a a' b b' hao hlinked (hfirst a' ha')

/-! ## Optional values -/

theorem rel_or {R : α → β → Prop} {o p : Option α} {o' p' : Option β} (ho : Option.Rel R o o')
    (hp : Option.Rel R p p') : Option.Rel R (o.or p) (o'.or p') := by
  cases ho with
  | none => exact hp
  | some h => exact .some h

theorem rel_symm {R : α → β → Prop} {S : β → α → Prop} (hRS : ∀ a b, R a b → S b a) {o : Option α}
    {p : Option β} (h : Option.Rel R o p) : Option.Rel S p o := by
  cases h with
  | none => exact .none
  | some h => exact .some (hRS _ _ h)

theorem exists_of_rel_some {R : α → β → Prop} {a : α} {p : Option β}
    (h : Option.Rel R (some a) p) : ∃ b, p = some b ∧ R a b := by
  cases h with
  | some h => exact ⟨_, rfl, h⟩

theorem isSome_eq_of_rel {R : α → β → Prop} {o : Option α} {p : Option β} (h : Option.Rel R o p) :
    o.isSome = p.isSome := by
  cases h <;> rfl

/-! ## Tables -/

theorem Table.get?_eq_of_perm {s t : Table α} (h : s.Perm t) (hs : s.names.Nodup)
    (name : String) : s.get? name = t.get? name := by
  have ht : t.names.Nodup := (h.map Prod.fst).nodup_iff.mp hs
  refine Option.ext fun v => ?_
  rw [get?_eq_some_iff hs, get?_eq_some_iff ht, h.mem_iff]

theorem Table.rel_get?_of_forall₂ {R : α → β → Prop} {s : Table α} {t : Table β}
    (h : List.Forall₂ (fun a b => a.1 = b.1 ∧ R a.2 b.2) s t) (name : String) :
    Option.Rel R (s.get? name) (t.get? name) := by
  induction h with
  | nil => exact .none
  | @cons a b s t hab _ ih =>
    obtain ⟨n, v⟩ := a
    obtain ⟨n', w⟩ := b
    obtain ⟨rfl, hvw⟩ := hab
    rw [get?, get?]
    split
    · exact .some hvw
    · exact ih

/-- Tables with distinct names that were set in any order give related values. -/
theorem Shuffled.rel_get? {R : α → β → Prop} {s : Table α} {t : Table β}
    (h : Shuffled (fun a b => a.1 = b.1 ∧ R a.2 b.2) s t) (hs : s.names.Nodup) (name : String) :
    Option.Rel R (s.get? name) (t.get? name) := by
  obtain ⟨ordered, hperm, hrel⟩ := h
  rw [Table.get?_eq_of_perm hperm hs]
  exact Table.rel_get?_of_forall₂ hrel name

theorem Table.has_eq_of_rel {R : α → β → Prop} {s : Table α} {t : Table β} {name : String}
    (h : Option.Rel R (s.get? name) (t.get? name)) : s.has name = t.has name :=
  isSome_eq_of_rel h

/-- Related tables stay related when rows of assignments to distinct names follow, in any order. -/
theorem Table.rel_get?_foldl_put {R : α → β → Prop} {s : Table α} {t : Table β} {as : Table α}
    {bs : Table β} (hst : ∀ name, Option.Rel R (s.get? name) (t.get? name))
    (h : Shuffled (fun a b => a.1 = b.1 ∧ R a.2 b.2) as bs) (has : as.names.Nodup)
    (hbs : bs.names.Nodup) (name : String) :
    Option.Rel R (get? name (as.foldl (fun t (n, v) => t.put n v) s))
      (get? name (bs.foldl (fun t (n, v) => t.put n v) t)) := by
  rw [get?_foldl_put has, get?_foldl_put hbs]
  exact rel_or (h.rel_get? has name) (hst name)

end CsdlRoutes
