import Mathlib.Order.Bounds.Defs
import CsdlRoutes.Proofs.Schema.SubtypeOrder

/-!
# The sequence of base types

From a type a sequence of names leads upwards: its base type, the base type of that, and so on.
Where inheritance has a cycle the sequence never ends. The chain of base types is the part of it up
to the first name that occurred before, the name of the type itself included, or up to its end.

The walk that makes the chain is looked at round by round, without any bound on the rounds. A round
meets a name that was not met before. It is that of a declared type, or else of a primitive type,
which has no base type. So no walk goes on for ever, wherever it starts. Nothing is assumed about
cycles: a type may be its own base type, be on a cycle, or lead into one.

* `Ascent`, `Model.Rises`: the rounds of the walk.
* `wellFounded_rises`: no walk goes on for ever.
* `Traced`, `Traced.rise`, `Traced.run`: what a walk has put together so far.
* `baseTypes_of_run`: the chain of base types is what a whole walk puts together.
* `Grounded.baseTypes_cut_before_repetition`: where the chain is cut.
-/

namespace CsdlRoutes.Schema.Model

variable {m : Model} {t : SchemaType}

/-! ## The walk, round by round -/

/-- How far a walk has come: the type that it stands at, the names that it met, and the base types
that it found. -/
structure Ascent where
  top : SchemaType
  met : List String
  chain : List SchemaType

/-- A walk that has found nothing so far. -/
def Ascent.start (t : SchemaType) : Ascent := ⟨t, [t.name], []⟩

/-- One round of the walk goes on to a base type whose name was not met. -/
inductive Rises (m : Model) : Ascent → Ascent → Prop
  | up {a : Ascent} {base : String} {b : SchemaType} (hbase : a.top.base? = some base)
      (hnew : base ∉ a.met) (hb : m.getType base = .ok b) :
      m.Rises a ⟨b, b.name :: a.met, a.chain ++ [b]⟩

/-- The walk does not go on: there is no base type, or it was met before. -/
def Ascent.Ended (a : Ascent) : Prop := ∀ base, a.top.base? = some base → base ∈ a.met

/-- A walk that has not ended goes on. -/
theorem Grounded.ended_or_rises (hm : m.Grounded) {a : Ascent} (ha : m.Knows a.top) :
    a.Ended ∨ ∃ b, m.Rises a b ∧ m.Knows b.top := by
  by_cases hended : a.Ended
  · exact Or.inl hended
  · unfold Ascent.Ended at hended
    push Not at hended
    obtain ⟨base, hbase, hnew⟩ := hended
    obtain ⟨b, hb⟩ := hm.exists_base ha hbase
    exact Or.inr ⟨_, .up hbase hnew hb, ⟨base, hb⟩⟩

/-! ## The walk comes to an end -/

/-- A bound on the rounds that are left: the names that were not met, and a last round that may lead
to a primitive type. -/
def roundsLeft (m : Model) (a : Ascent) : Nat :=
  m.unmet a.met + if a.top.base?.isSome then 1 else 0

theorem roundsLeft_le (m : Model) (a : Ascent) : m.roundsLeft a ≤ m.unmet a.met + 1 := by
  unfold roundsLeft
  split <;> omega

theorem unmet_cons_le (m : Model) (name : String) (met : List String) :
    m.unmet (name :: met) ≤ m.unmet met := by
  refine List.countP_mono_left fun n _ hn => ?_
  rw [decide_eq_true_eq] at hn ⊢
  exact fun hmet => hn (List.mem_cons_of_mem _ hmet)

/-- Each round leaves fewer rounds, provided that each type stands under its own name. -/
theorem roundsLeft_lt (hnamed : ∀ entry ∈ m.types, entry.2.name = entry.1) {a b : Ascent}
    (h : m.Rises a b) : m.roundsLeft b < m.roundsLeft a := by
  obtain @⟨base, b, hbase, hnew, hb⟩ := h
  simp only [roundsLeft, hbase, Option.isSome_some, if_true]
  rcases getType_eq_ok hb with hdeclared | ⟨_, _, rfl⟩
  · have hname : b.name = base := hnamed _ (Table.mem_of_get? hdeclared)
    have hlt := unmet_cons_lt (Table.mem_names_iff.mpr ⟨b, hdeclared⟩) hnew
    rw [hname]
    split <;> omega
  · have hle := m.unmet_cons_le base a.met
    simp only [Option.isSome_none, Bool.false_eq_true, if_false]
    omega

/-- No walk goes on for ever. -/
theorem wellFounded_rises (hnamed : ∀ entry ∈ m.types, entry.2.name = entry.1) :
    WellFounded (Function.swap m.Rises) :=
  Subrelation.wf (fun h => roundsLeft_lt hnamed h) (measure m.roundsLeft).wf

theorem Grounded.exists_ended (hm : m.Grounded) {a : Ascent} (ha : m.Knows a.top) :
    ∃ last, Relation.ReflTransGen m.Rises a last ∧ last.Ended := by
  induction a using (wellFounded_rises hm.named).induction with
  | _ a ih =>
    rcases hm.ended_or_rises ha with hended | ⟨b, hrises, hb⟩
    · exact ⟨a, .refl, hended⟩
    · obtain ⟨last, hrun, hended⟩ := ih b hrises hb
      exact ⟨last, .head hrises hrun, hended⟩

/-- What a walk to its end finds is what is computed with as many steps as there are rounds and one
more, or with any number of steps beyond. -/
theorem basesFrom_of_run {a last : Ascent} (h : Relation.ReflTransGen m.Rises a last)
    (hended : last.Ended) :
    ∃ rest, last.chain = a.chain ++ rest ∧
      ∀ spare, m.basesFrom (spare + rest.length + 1) a.met a.top = .ok rest := by
  induction h using Relation.ReflTransGen.head_induction_on with
  | refl =>
    refine ⟨[], (List.append_nil _).symm, fun spare => ?_⟩
    rw [basesFrom]
    cases hbase : last.top.base? with
    | none => rfl
    | some base => exact if_pos (hended base hbase)
  | @head a b hrises _ ih =>
    obtain ⟨rest, hchain, hrest⟩ := ih
    obtain @⟨base, b, hbase, hnew, hb⟩ := hrises
    refine ⟨b :: rest, by rw [hchain, List.append_assoc, List.singleton_append], fun spare => ?_⟩
    rw [basesFrom, hbase]
    dsimp only
    rw [if_neg hnew, hb, ok_bind, List.length_cons, ← Nat.add_assoc, hrest spare, ok_bind]
    rfl

/-- The chain of base types is what a whole walk finds. -/
theorem baseTypes_of_run (hnamed : ∀ entry ∈ m.types, entry.2.name = entry.1) {last : Ascent}
    (h : Relation.ReflTransGen m.Rises (.start t) last) (hended : last.Ended) :
    m.baseTypes t = .ok last.chain := by
  obtain ⟨rest, hchain, hrest⟩ := basesFrom_of_run h hended
  have hsame : last.chain = rest := hchain
  rw [hsame, ← hrest (2 * m.types.length)]
  exact (basesFrom_eq_baseTypes hnamed (by omega)).symm

/-! ## What a walk has found -/

theorem ascend_succ (m : Model) (steps : Nat) (name : String) :
    m.ascend (steps + 1) name =
      (m.ascend steps name).bind fun top => (m.types.get? top).bind (·.base?) := by
  induction steps generalizing name with
  | zero =>
    cases h : m.types.get? name with
    | none => simp [ascend, h]
    | some u => cases hbase : u.base? <;> simp [ascend, h, hbase]
  | succ steps ih =>
    rw [ascend]
    conv_rhs => rw [ascend]
    cases m.types.get? name with
    | none => rfl
    | some u =>
      cases hbase : u.base? with
      | none => simp [hbase]
      | some base => simpa [hbase] using ih base

/-- A type with a base type is declared, so a step leads from its name to that of its base type. -/
theorem base_of_getType {u : SchemaType} (h : m.getType u.name = .ok u) :
    (m.types.get? u.name).bind (·.base?) = u.base? := by
  rcases getType_eq_ok h with hdeclared | ⟨hnone, _, hu⟩
  · rw [hdeclared, Option.bind_some]
  · rw [hnone, hu, Option.bind_none]

/-- What a walk from a type has found so far: the first names of the sequence that leads up from the
type, none of them twice, and each type under its name. -/
structure Traced (m : Model) (t : SchemaType) (a : Ascent) : Prop where
  met : ∀ name, name ∈ a.met ↔ name ∈ (t :: a.chain).map (·.name)
  top : (t :: a.chain)[a.chain.length]? = some a.top
  once : ((t :: a.chain).map (·.name)).Nodup
  names : ∀ i ≤ a.chain.length, m.ascend i t.name = ((t :: a.chain)[i]?).map (·.name)
  found : ∀ u ∈ t :: a.chain, m.getType u.name = .ok u
  rounds : a.chain.length + m.roundsLeft a ≤ m.types.length

theorem Grounded.traced_start (hm : m.Grounded) {name : String} (ht : m.types.get? name = some t) :
    m.Traced t (.start t) := by
  have hname := hm.name_of_get? ht
  refine ⟨fun _ => Iff.rfl, rfl, List.nodup_singleton _, ?_, ?_, ?_⟩
  · intro i hi
    obtain rfl := Nat.le_zero.mp hi
    rfl
  · intro u hu
    rw [List.mem_singleton.mp hu, hname]
    exact getType_of_get? ht
  · have hdeclared : t.name ∈ m.types.names := Table.mem_names_iff.mpr ⟨t, hname ▸ ht⟩
    have hlt := unmet_cons_lt hdeclared List.not_mem_nil
    have hle := m.unmet_le []
    have hrounds := m.roundsLeft_le (.start t)
    simp only [Ascent.start, List.length_nil] at hrounds ⊢
    omega

namespace Traced

variable {a b : Ascent}

/-- The next name of the sequence is that of the base type at the top. -/
theorem ascend_next (h : m.Traced t a) : m.ascend (a.chain.length + 1) t.name = a.top.base? := by
  rw [ascend_succ, h.names _ le_rfl, h.top, Option.map_some, Option.bind_some]
  exact base_of_getType (h.found _ (List.mem_of_getElem? h.top))

/-- A round keeps what the walk has found and adds the next name of the sequence. -/
theorem rise (hm : m.Grounded) (h : m.Traced t a) (hrises : m.Rises a b) : m.Traced t b := by
  have hless := roundsLeft_lt hm.named hrises
  have hnext := h.ascend_next
  obtain @⟨base, b, hbase, hnew, hb⟩ := hrises
  have hname := hm.name_of_getType hb
  have hlength : (a.chain ++ [b]).length = a.chain.length + 1 := by simp
  refine ⟨?_, ?_, ?_, ?_, ?_, ?_⟩
  · intro name
    rw [List.mem_cons, h.met, ← List.cons_append, List.map_append, List.mem_append, or_comm,
      List.map_singleton, List.mem_singleton]
  · rw [hlength, ← List.cons_append, List.getElem?_append_right (by simp)]
    simp
  · rw [h.met] at hnew
    rw [← List.cons_append, List.map_append, List.nodup_append']
    refine ⟨h.once, List.nodup_singleton _, ?_⟩
    rw [List.map_singleton, List.disjoint_singleton, hname]
    exact hnew
  · intro i hi
    rcases Nat.lt_or_eq_of_le (hlength ▸ hi) with hlt | rfl
    · rw [h.names i (Nat.le_of_lt_succ hlt), ← List.cons_append,
        List.getElem?_append_left (by simpa using hlt)]
    · rw [hnext, hbase, ← List.cons_append, List.getElem?_append_right (by simp)]
      simp [hname]
  · intro u hu
    rw [← List.cons_append, List.mem_append, List.mem_singleton] at hu
    rcases hu with hu | rfl
    · exact h.found u hu
    · rw [hname]
      exact hb
  · have hrounds := h.rounds
    rw [hlength]
    omega

theorem run (hm : m.Grounded) (h : m.Traced t a) (hrun : Relation.ReflTransGen m.Rises a b) :
    m.Traced t b := by
  induction hrun with
  | refl => exact h
  | tail _ hrises ih => exact ih.rise hm hrises

end Traced

/-! ## Where the chain is cut -/

/-- The sequence that leads up from a name is cut behind so many steps: it ends there, or the next
name is one of those so far. -/
def CutBehind (m : Model) (name : String) (steps : Nat) : Prop :=
  ∀ next, m.ascend (steps + 1) name = some next → ∃ i ≤ steps, m.ascend i name = some next

/-- A walk ends where the sequence is cut, and not before. -/
theorem Traced.isLeast_cut {last : Ascent} (h : m.Traced t last) (hended : last.Ended) :
    IsLeast {steps | m.CutBehind t.name steps} last.chain.length := by
  constructor
  · intro next hnext
    rw [h.ascend_next] at hnext
    obtain ⟨u, hu, rfl⟩ := List.mem_map.mp ((h.met next).mp (hended next hnext))
    obtain ⟨i, hi⟩ := List.mem_iff_getElem?.mp hu
    have hbound : i ≤ last.chain.length :=
      Nat.le_of_lt_succ (List.getElem?_eq_some_iff.mp hi).1
    exact ⟨i, hbound, by rw [h.names i hbound, hi, Option.map_some]⟩
  · intro steps hcut
    by_contra hless
    rw [Nat.not_le] at hless
    -- The next name would have two places among the names that were found.
    have hbound : steps + 1 < ((t :: last.chain).map (·.name)).length := by simpa using hless
    have hplace : ∀ i ≤ last.chain.length,
        m.ascend i t.name = ((t :: last.chain).map (·.name))[i]? := fun i hi => by
      rw [h.names i hi, List.getElem?_map]
    have hnext := (hplace (steps + 1) hless).trans (List.getElem?_eq_getElem hbound)
    obtain ⟨i, hi, hsame⟩ := hcut _ hnext
    rw [hplace i (by omega), ← List.getElem?_eq_getElem hbound] at hsame
    have hequal := (List.getElem?_inj (by omega) h.once).mp hsame
    omega

/-- **The chain of base types is cut before the first repetition.** From a declared type no walk
goes on for ever, whatever cycles there are. The walk comes to its end within as many rounds as there
are types, and has then found the chain of base types. The chain has the names of the sequence that
leads up from the type, each with the type that is looked up under it, as far as the first place where
the sequence ends or goes on with one of its names so far, that of the type itself included. No name
occurs in the chain twice, and that of the type itself does not occur in it. -/
theorem Grounded.baseTypes_cut_before_repetition (hm : m.Grounded) {name : String}
    (ht : m.types.get? name = some t) :
    Acc (Function.swap m.Rises) (.start t) ∧
      ∃ bases, m.baseTypes t = .ok bases ∧
        (∃ last, Relation.ReflTransGen m.Rises (.start t) last ∧ last.Ended ∧ last.chain = bases) ∧
        bases.length ≤ m.types.length ∧
        (∀ i ≤ bases.length, m.ascend i t.name = ((t :: bases)[i]?).map (·.name)) ∧
        (∀ b ∈ bases, m.getType b.name = .ok b) ∧
        IsLeast {steps | m.CutBehind t.name steps} bases.length ∧
        (bases.map (·.name)).Nodup ∧ t.name ∉ bases.map (·.name) := by
  refine ⟨(wellFounded_rises hm.named).apply _, ?_⟩
  obtain ⟨last, hrun, hended⟩ := hm.exists_ended (a := .start t) ⟨name, getType_of_get? ht⟩
  have htraced := (hm.traced_start ht).run hm hrun
  obtain ⟨hself, honce⟩ := List.nodup_cons.mp htraced.once
  refine ⟨last.chain, baseTypes_of_run hm.named hrun hended, ⟨last, hrun, hended, rfl⟩,
    (Nat.le_add_right _ _).trans htraced.rounds, htraced.names, ?_, htraced.isLeast_cut hended,
    honce, hself⟩
  exact fun b hb => htraced.found b (List.mem_cons_of_mem _ hb)

/-- A type that leads into a cycle of three types, and a type that is its own base type. -/
def noose : Model where
  version := "4.0"
  space := "t"
  types :=
    [("t.rope", ⟨"t.rope", .entity, some "t.knot", false, [], []⟩),
     ("t.loop", ⟨"t.loop", .entity, some "t.bend", false, [], []⟩),
     ("t.knot", ⟨"t.knot", .entity, some "t.loop", false, [], []⟩),
     ("t.bend", ⟨"t.bend", .entity, some "t.knot", false, [], []⟩),
     ("t.self", ⟨"t.self", .complex, some "t.self", false, [], []⟩)]
  entityContainer := "t.root"

/-- The walk from the type that leads into the cycle goes round once. From there the sequence would
go on with the first type of the cycle. -/
theorem noose_cut_before_repetition :
    noose.Grounded ∧ ∃ rope, noose.types.get? "t.rope" = some rope ∧
      Acc (Function.swap noose.Rises) (.start rope) ∧
      ∃ bases, noose.baseTypes rope = .ok bases ∧
        bases.map (·.name) = ["t.knot", "t.loop", "t.bend"] ∧
        (∃ last, Relation.ReflTransGen noose.Rises (.start rope) last ∧ last.Ended ∧
          last.chain = bases) ∧
        IsLeast {steps | noose.CutBehind "t.rope" steps} 3 ∧
        noose.ascend 4 "t.rope" = some "t.knot" ∧
        (noose.types.get? "t.self").map noose.baseTypes = some (.ok []) := by
  have hm : noose.Grounded := (by decide : noose.Closed).grounded
  obtain ⟨rope, hrope⟩ : ∃ rope, noose.types.get? "t.rope" = some rope := ⟨_, rfl⟩
  obtain ⟨hacc, bases, hbases, hwalk, _, _, _, hcut, _⟩ :=
    Grounded.baseTypes_cut_before_repetition hm hrope
  have hnames : bases.map (·.name) = ["t.knot", "t.loop", "t.bend"] := by
    cases hrope
    cases hbases
    rfl
  have hlength : bases.length = 3 := by simpa using congrArg List.length hnames
  rw [hlength, hm.name_of_get? hrope] at hcut
  exact ⟨hm, rope, hrope, hacc, bases, hbases, hnames, hwalk, hcut, rfl, rfl⟩

end CsdlRoutes.Schema.Model
