import CsdlRoutes.Proofs.Results
import CsdlRoutes.Proofs.TableEntries
import CsdlRoutes.Schema.SubtypeIndex

/-!
# What the index of subtypes changes

Nothing. Under a base type the index has its direct subtypes in the order of their declaration, so a
search by the index is a search by the types. Whether the index was built before, or is built now,
and by whom, the questions about a type have the same answers, and after them the index is not built
or is the right one.

* `under_subtypeIndex`: what the index has under a base type.
* `Computes` relates a computation with the index to its result without one.
* `computes_derivedTypes`, `computes_segments`: the questions about a type.
-/

namespace CsdlRoutes.Schema.Model

variable {m : Model}

/-! ## The index -/

theorem under_enter (index : SubtypeIndex) (t : SchemaType) (base : String) :
    (index.enter t).under base =
      index.under base ++ if t.base? = some base then [t.name] else [] := by
  unfold SubtypeIndex.enter
  cases hbase : t.base? with
  | none => simp
  | some own =>
    dsimp only
    by_cases hsame : own = base
    · subst hsame
      rw [SubtypeIndex.under, Table.get?_put_self]
      simp
    · have hother : some own ≠ some base := fun h => hsame (Option.some.inj h)
      rw [SubtypeIndex.under, Table.get?_put_of_ne (Ne.symm hsame), if_neg hother, List.append_nil]
      rfl

/-- Entering types one after another keeps the order of those with the same base type. -/
theorem under_foldl_enter (ts : List SchemaType) (index : SubtypeIndex) (base : String) :
    (ts.foldl SubtypeIndex.enter index).under base =
      index.under base ++ (ts.filter fun t => t.base? == some base).map (·.name) := by
  induction ts generalizing index with
  | nil => simp
  | cons t rest ih =>
    rw [List.foldl_cons, ih, under_enter, List.filter_cons]
    by_cases hbase : t.base? = some base
    · simp [hbase]
    · simp [hbase]

theorem under_subtypeIndex (m : Model) (base : String) :
    m.subtypeIndex.under base = m.directSubtypes base := under_foldl_enter _ _ base

theorem derivedBy_subtypeIndex (m : Model) (fuel : Nat) (met pending : List String) :
    m.derivedBy m.subtypeIndex fuel met pending = m.derivedFrom fuel met pending := by
  induction fuel generalizing met pending with
  | zero => rfl
  | succ fuel ih =>
    cases pending with
    | nil => rfl
    | cons name rest => rw [derivedBy, derivedFrom, ih, ih, under_subtypeIndex]

/-! ## Computations with the index -/

/-- If an index is kept, it is that of the model. -/
def Keeps (m : Model) (index? : Option SubtypeIndex) : Prop :=
  ∀ index, index? = some index → index = m.subtypeIndex

theorem keeps_none (m : Model) : m.Keeps none := fun _ h => nomatch h

theorem keeps_subtypeIndex (m : Model) : m.Keeps (some m.subtypeIndex) :=
  fun _ h => (Option.some.inj h).symm

/-- Whether the index is built or not, a computation has this result, and it leaves no other index
behind. -/
def Computes (m : Model) {α : Type} (x : Cached α) (r : Except Failure α) : Prop :=
  ∀ index?, m.Keeps index? → ∃ index?', x.run.run index? = (r, index?') ∧ m.Keeps index?'

namespace Computes

variable {α β : Type}

theorem pure (a : α) : m.Computes (Pure.pure a) (.ok a) := fun index? h => ⟨index?, rfl, h⟩

/-- What does not need the index leaves it as it is. -/
theorem lift (r : Except Failure α) : m.Computes (monadLift r : Cached α) r :=
  fun index? h => ⟨index?, rfl, h⟩

theorem bind {x : Cached α} {r : Except Failure α} {f : α → Cached β} {g : α → Except Failure β}
    (hx : m.Computes x r) (hf : ∀ a, m.Computes (f a) (g a)) : m.Computes (x >>= f) (r >>= g) := by
  intro index? hkeeps
  obtain ⟨index?', hrun, hkeeps'⟩ := hx index? hkeeps
  have hstep : (x >>= f).run.run index? = match x.run.run index? with
      | (.ok a, index?') => (f a).run.run index?'
      | (.error failure, index?') => (.error failure, index?') := by
    rw [ExceptT.run_bind, StateT.run_bind]
    split
    · rename_i h
      rw [h]
      rfl
    · rename_i h
      rw [h]
      rfl
  rw [hrun] at hstep
  cases r with
  | error failure => exact ⟨index?', hstep, hkeeps'⟩
  | ok a =>
    obtain ⟨index?'', hrest, hkeeps''⟩ := hf a index?' hkeeps'
    exact ⟨index?'', hstep.trans hrest, hkeeps''⟩

end Computes

/-- Fetching the index and going on with it is going on with that of the model. -/
theorem computes_fetchIndex (m : Model) : m.Computes m.fetchIndex (.ok m.subtypeIndex) := by
  intro index? hkeeps
  cases index? with
  | none => exact ⟨some m.subtypeIndex, rfl, m.keeps_subtypeIndex⟩
  | some index =>
    obtain rfl := hkeeps index rfl
    exact ⟨_, rfl, hkeeps⟩

/-! ## Questions about a type -/

theorem computes_derivedTypes (m : Model) (t : SchemaType) :
    m.Computes (m.cachedDerivedTypes t) (m.derivedTypes t) := by
  have hsearch : (.ok m.subtypeIndex >>= fun index =>
      m.derivedBy index m.types.length [t.name] (index.under t.name)) = m.derivedTypes t := by
    rw [ok_bind, derivedBy_subtypeIndex, under_subtypeIndex]
    rfl
  rw [← hsearch]
  exact (computes_fetchIndex m).bind fun _ => .lift _

theorem computes_contributors (m : Model) (t : SchemaType) :
    m.Computes (m.cachedContributors t) (m.contributors t) :=
  (Computes.lift _).bind fun _ => (computes_derivedTypes m t).bind fun _ => .pure _

theorem computes_segmentsAs (m : Model) (isRoot : Bool) (t : SchemaType) :
    m.Computes (m.cachedSegmentsAs isRoot t) (m.segmentsAs isRoot t) :=
  (computes_contributors m t).bind fun _ => .lift _

theorem computes_segments (m : Model) (t : SchemaType) :
    m.Computes (m.cachedSegments t) (m.segments t) := computes_segmentsAs m _ t

end CsdlRoutes.Schema.Model
