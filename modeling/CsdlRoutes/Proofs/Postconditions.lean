import Mathlib.Data.List.Forall2
import CsdlRoutes.Proofs.Results

/-!
# Postconditions of steps

A judgement says of steps in a monad what holds of their results, if they have any. It is passed on
from two steps to both of them in a row, and so to steps for all items of a list. With a state it
also says that an invariant of the state is kept.

* `Judgement` is what the proofs about steps rely on.
* `Judgement.mapM` is the rule for lists.
* `Judgement.keeping` adds a state with an invariant.
* `FailsOnly` says of steps that may fail for which reasons they do.
-/

namespace CsdlRoutes

/-- What can be said of the results of steps, if it is passed on from step to step. -/
structure Judgement (m : Type → Type) [Monad m] where
  holds : {α : Type} → m α → (α → Prop) → Prop
  pure : ∀ {α : Type} {a : α} {P : α → Prop}, P a → holds (Pure.pure a) P
  bind : ∀ {α β : Type} {x : m α} {f : α → m β} {P : α → Prop} {Q : β → Prop}, holds x P →
    (∀ a, P a → holds (f a) Q) → holds (x >>= f) Q

namespace Judgement

variable {m : Type → Type} [Monad m] {α β σ : Type}

/-! ## Rules -/

theorem map [LawfulMonad m] (J : Judgement m) {f : α → β} {x : m α} {P : α → Prop} {Q : β → Prop}
    (hx : J.holds x P) (hf : ∀ a, P a → Q (f a)) : J.holds (f <$> x) Q := by
  rw [map_eq_pure_bind]
  exact J.bind hx fun a ha => J.pure (hf a ha)

/-- Steps for the items of a list yield a list that is related to it item by item. -/
theorem mapM [LawfulMonad m] (J : Judgement m) {R : α → β → Prop} {f : α → m β} {as : List α}
    (h : ∀ a ∈ as, J.holds (f a) (R a)) : J.holds (as.mapM f) (List.Forall₂ R as) := by
  induction as with
  | nil => exact J.pure .nil
  | cons a as ih =>
    obtain ⟨ha, has⟩ := List.forall_mem_cons.mp h
    rw [List.mapM_cons]
    exact J.bind ha fun b hb => J.bind (ih has) fun bs hbs => J.pure (.cons hb hbs)

theorem seq [LawfulMonad m] (J : Judgement m) {f : m (α → β)} {x : m α} {P : (α → β) → Prop}
    {Q : α → Prop} {R : β → Prop} (hf : J.holds f P) (hx : J.holds x Q)
    (h : ∀ g, P g → ∀ a, Q a → R (g a)) : J.holds (f <*> x) R := by
  rw [seq_eq_bind_map]
  exact J.bind hf fun g hg => J.map hx (h g hg)

theorem forM [LawfulMonad m] (J : Judgement m) {f : α → m PUnit} {as : List α}
    (h : ∀ a ∈ as, J.holds (f a) fun _ => True) : J.holds (as.forM f) fun _ => True := by
  induction as with
  | nil => exact J.pure trivial
  | cons a as ih =>
    obtain ⟨ha, has⟩ := List.forall_mem_cons.mp h
    exact J.bind ha fun _ _ => ih has

/-! ## Judgements -/

/-- Of steps that just yield their results. -/
def plain : Judgement Id where
  holds x P := P x.run
  pure ha := ha
  bind hx hf := hf _ hx

/-- Of steps that may yield nothing. -/
def option : Judgement Option where
  holds x P := ∀ a, x = some a → P a
  pure := by
    intro α a P ha b hb
    cases hb
    exact ha
  bind := by
    intro α β x f P Q hx hf b hb
    obtain ⟨a, ha, hb⟩ := Option.bind_eq_some_iff.mp hb
    exact hf a (hx a ha) b hb

/-- Of steps that may fail. -/
def except (ε : Type) : Judgement (Except ε) where
  holds x P := ∀ a, x = .ok a → P a
  pure := by
    intro α a P ha b hb
    cases hb
    exact ha
  bind := by
    intro α β x f P Q hx hf b hb
    obtain ⟨a, ha, hb⟩ := bind_eq_ok.mp hb
    exact hf a (hx a ha) b hb

/-- Of steps that fail for some reasons alone. -/
def failing (why : Failure → Prop) : Judgement (Except Failure) where
  holds x P := (∀ a, x = .ok a → P a) ∧ ∀ failure, x = .error failure → why failure
  pure := by
    intro α a P ha
    refine ⟨?_, fun failure h => nomatch h⟩
    intro b hb
    cases hb
    exact ha
  bind := by
    intro α β x f P Q hx hf
    cases x with
    | error failure =>
      refine ⟨fun b hb => (nomatch hb), ?_⟩
      intro failure' h
      cases h
      exact hx.2 failure rfl
    | ok a => exact hf a (hx.1 a rfl)

/-- Of steps with a state that keep an invariant. -/
def keeping (J : Judgement m) (I : σ → Prop) : Judgement (StateT σ m) where
  holds x P := ∀ s, I s → J.holds (x.run s) fun r => I r.2 ∧ P r.1
  pure ha _ hs := J.pure ⟨hs, ha⟩
  bind hx hf s hs := J.bind (hx s hs) fun r hr => hf r.1 hr.2 r.2 hr.1

variable {J : Judgement m} {I : σ → Prop}

theorem get : (J.keeping I).holds (get : StateT σ m σ) I := fun _ hs => J.pure ⟨hs, hs⟩

theorem set {s : σ} (hs : I s) : (J.keeping I).holds (set s : StateT σ m PUnit) fun _ => True :=
  fun _ _ => J.pure ⟨hs, trivial⟩

theorem modify {f : σ → σ} (hf : ∀ s, I s → I (f s)) :
    (J.keeping I).holds (modify f : StateT σ m PUnit) fun _ => True :=
  fun s hs => J.pure ⟨hf s hs, trivial⟩

theorem lift [LawfulMonad m] {x : m α} {P : α → Prop} (hx : J.holds x P) :
    (J.keeping I).holds (StateT.lift x : StateT σ m α) P := fun _ hs =>
  J.bind hx fun _ ha => J.pure ⟨hs, ha⟩

end Judgement

/-! ## Failures -/

/-- Steps fail for these reasons, if they do. -/
def FailsOnly (why : Failure → Prop) {α : Type} (x : Except Failure α) : Prop :=
  (Judgement.failing why).holds x fun _ => True

namespace FailsOnly

variable {α β : Type} {why : Failure → Prop}

theorem ok {x : Except Failure α} (h : ∃ a, x = .ok a) : FailsOnly why x := by
  obtain ⟨a, rfl⟩ := h
  exact (Judgement.failing why).pure trivial

theorem error {failure : Failure} (h : why failure) :
    FailsOnly why (.error failure : Except Failure α) := by
  refine ⟨fun _ _ => trivial, ?_⟩
  intro failure' hsame
  cases hsame
  exact h

theorem mono {more : Failure → Prop} {x : Except Failure α} (hx : FailsOnly why x)
    (hmore : ∀ failure, why failure → more failure) : FailsOnly more x :=
  ⟨hx.1, fun failure h => hmore failure (hx.2 failure h)⟩

theorem bind {x : Except Failure α} {f : α → Except Failure β} (hx : FailsOnly why x)
    (hf : ∀ a, x = .ok a → FailsOnly why (f a)) : FailsOnly why (x >>= f) :=
  (Judgement.failing why).bind (P := fun a => x = .ok a) ⟨fun _ ha => ha, hx.2⟩ hf

theorem forM {f : α → Except Failure PUnit} {as : List α} (h : ∀ a ∈ as, FailsOnly why (f a)) :
    FailsOnly why (as.forM f) :=
  (Judgement.failing why).forM h

end FailsOnly

end CsdlRoutes
