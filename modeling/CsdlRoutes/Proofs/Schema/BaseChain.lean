import Mathlib.Data.List.Chain
import Mathlib.Data.List.Pairwise
import CsdlRoutes.Proofs.Schema.InheritanceWalks

/-!
# Chains of base types

Each type in the chain of a type has the next one as its base type. Of two types in one chain, one
has the other in its own chain: the order in which a chain goes upwards is that of inheritance.

* `Model.HasBase` relates a type to the types in its chain, `Model.Descends` to all that are above it.
* `Grounded.base_unique`, `Grounded.descends_cases`: the types above a type are in a row.
* `Grounded.descends_of_hasBase`, `Grounded.hasBase_of_descends`: what a type descends from is in its
  chain, except itself.
* `Grounded.comparable_of_mem_chain`: two types of one chain.
-/

namespace CsdlRoutes.Schema.Model

/-- A type has another one in its chain of base types. -/
def HasBase (m : Model) (t b : SchemaType) : Prop := ∃ bases, m.baseTypes t = .ok bases ∧ b ∈ bases

theorem hasBase_iff {m : Model} {t b : SchemaType} :
    m.HasBase t b ↔ (m.baseTypes t).toOption.any (fun bases => decide (b ∈ bases)) = true := by
  unfold HasBase
  cases m.baseTypes t with
  | error failure => simp [Except.toOption]
  | ok bases => simp [Except.toOption]

instance (m : Model) (t b : SchemaType) : Decidable (m.HasBase t b) :=
  decidable_of_iff _ hasBase_iff.symm

variable {m : Model}

/-- A type descends from another one. -/
def Descends (m : Model) (t b : SchemaType) : Prop := Relation.TransGen m.Extends b.name t.name

instance : Trans m.Descends m.Descends m.Descends := ⟨fun hab hbc => Relation.TransGen.trans hbc hab⟩

/-- Two types are the same, or one of them is a base type of the other. -/
def Comparable (m : Model) (t u : SchemaType) : Prop := t = u ∨ m.HasBase t u ∨ m.HasBase u t

instance : Std.Symm m.Comparable := ⟨fun _ _ h => h.imp Eq.symm Or.symm⟩

/-! ## Base types and subtypes -/

/-- A type with a base type is declared, and so it is a direct subtype of it. -/
theorem extends_of_base {t : SchemaType} (ht : m.Knows t) {base : String}
    (hbase : t.base? = some base) : m.Extends base t.name := by
  obtain ⟨name, hname⟩ := ht
  rcases getType_eq_ok hname with hfound | ⟨_, _, rfl⟩
  · have hvalue := Table.mem_values.mpr ⟨name, Table.mem_of_get? hfound⟩
    exact List.mem_map.mpr ⟨t, List.mem_filter.mpr ⟨hvalue, by simp [hbase]⟩, rfl⟩
  · cases hbase

/-- A declared type can be looked up. -/
theorem knows_of_mem_values (hnames : m.types.names.Nodup) {t : SchemaType}
    (ht : t ∈ m.types.values) : m.Knows t := by
  obtain ⟨name, hentry⟩ := Table.mem_values.mp ht
  exact ⟨name, getType_of_get? ((Table.get?_eq_some_iff hnames).mpr hentry)⟩

namespace Grounded

theorem eq_of_name_eq (hm : m.Grounded) {t u : SchemaType} (ht : m.Knows t) (hu : m.Knows u)
    (h : t.name = u.name) : t = u := by
  have hsame := hm.getType_name ht
  rw [h, hm.getType_name hu] at hsame
  exact (Except.ok.inj hsame).symm

/-- A type has one base type. -/
theorem base_unique (hm : m.Grounded) (hnames : m.types.names.Nodup) {base base' name : String}
    (h : m.Extends base name) (h' : m.Extends base' name) : base = base' := by
  obtain ⟨t, ht, hbase⟩ := hm.base_of_extends hnames h
  obtain ⟨u, hu, hbase'⟩ := hm.base_of_extends hnames h'
  rw [ht] at hu
  cases hu
  rw [hbase] at hbase'
  exact Option.some.inj hbase'

/-- Of two types that a third one descends from, one descends from the other. -/
theorem descends_cases (hm : m.Grounded) (hnames : m.types.names.Nodup) {t u v : SchemaType}
    (hu : m.Descends t u) (hv : m.Descends t v) :
    u.name = v.name ∨ m.Descends u v ∨ m.Descends v u := by
  have hunique : Relator.RightUnique (Function.swap m.Extends) := fun _ _ _ h h' =>
    hm.base_unique hnames h h'
  have hup : ∀ {b}, m.Descends t b →
      Relation.ReflTransGen (Function.swap m.Extends) t.name b.name := fun h =>
    (Relation.transGen_swap.mpr h).to_reflTransGen
  rcases Relation.ReflTransGen.total_of_right_unique hunique (hup hu) (hup hv) with h | h
  · rcases Relation.reflTransGen_iff_eq_or_transGen.mp h with hsame | h
    · exact Or.inl hsame.symm
    · exact Or.inr (Or.inl (Relation.transGen_swap.mp h))
  · rcases Relation.reflTransGen_iff_eq_or_transGen.mp h with hsame | h
    · exact Or.inl hsame
    · exact Or.inr (Or.inr (Relation.transGen_swap.mp h))

/-! ## Chains -/

theorem isChain_basesFrom (hm : m.Grounded) {fuel : Nat} {met : List String} {t : SchemaType}
    (ht : m.Knows t) {bases : List SchemaType} (h : m.basesFrom fuel met t = .ok bases) :
    (t :: bases).IsChain fun a b => m.Extends b.name a.name := by
  induction fuel generalizing met t bases with
  | zero =>
    cases h
    exact List.isChain_singleton t
  | succ fuel ih =>
    rw [basesFrom] at h
    split at h
    · cases h
      exact List.isChain_singleton t
    · rename_i base hbase
      split at h
      · cases h
        exact List.isChain_singleton t
      · obtain ⟨b, hb, h⟩ := bind_eq_ok.mp h
        obtain ⟨more, hmore, h⟩ := bind_eq_ok.mp h
        cases h
        refine List.isChain_cons_cons.mpr ⟨?_, ih ⟨base, hb⟩ hmore⟩
        rw [hm.name_of_getType hb]
        exact extends_of_base ht hbase

theorem knows_of_mem_chain (hm : m.Grounded) {t : SchemaType} (ht : m.Knows t)
    {bases : List SchemaType} (h : m.baseTypes t = .ok bases) : ∀ u ∈ t :: bases, m.Knows u :=
  List.forall_mem_cons.mpr ⟨ht, hm.knows_of_mem_baseTypes ht h⟩

/-- Whatever a type descends from is one of its base types, except itself. -/
theorem hasBase_of_descends (hm : m.Grounded) (hnames : m.types.names.Nodup) {t b : SchemaType}
    (ht : m.Knows t) (hb : m.Knows b) (h : m.Descends t b) (hne : b ≠ t) : m.HasBase t b := by
  obtain ⟨bases, hbases, hknown⟩ := hm.exists_baseTypes ht
  have hnameNe : b.name ≠ t.name := fun hsame => hne (hm.eq_of_name_eq hb ht hsame)
  obtain ⟨c, hc, hname⟩ :=
    List.mem_map.mp (hm.mem_baseTypes_of_descends hnames ht hbases h hnameNe)
  exact ⟨bases, hbases, hm.eq_of_name_eq (hknown c hc) hb hname ▸ hc⟩

/-- Each type of a chain descends from all that follow it. -/
theorem pairwise_descends (hm : m.Grounded) {t : SchemaType} (ht : m.Knows t)
    {bases : List SchemaType} (h : m.baseTypes t = .ok bases) : (t :: bases).Pairwise m.Descends :=
  ((hm.isChain_basesFrom ht h).imp fun _ _ hstep => .single hstep).pairwise

theorem descends_of_hasBase (hm : m.Grounded) {t b : SchemaType} (ht : m.Knows t)
    (h : m.HasBase t b) : m.Descends t b := by
  obtain ⟨bases, hbases, hb⟩ := h
  exact (List.pairwise_cons.mp (hm.pairwise_descends ht hbases)).1 b hb

/-- The subtypes of a type are the types of the model that descend from it, except itself. -/
theorem mem_derivedTypes_iff_descends (hm : m.Grounded) {t d : SchemaType} (hd : m.Knows d)
    {derived : List SchemaType} (h : m.derivedTypes t = .ok derived) :
    d ∈ derived ↔ d.name ≠ t.name ∧ m.Descends d t := by
  rw [Descends, ← hm.mem_derivedTypes_iff h]
  constructor
  · exact List.mem_map_of_mem
  · intro hname
    obtain ⟨u, hu, huname⟩ := List.mem_map.mp hname
    have hknown : m.Knows u := ⟨_, hm.getType_of_mem_derivedTypes h hu⟩
    exact hm.eq_of_name_eq hknown hd huname ▸ hu

/-- Of two types in one chain, one is a base type of the other. -/
theorem comparable_of_mem_chain (hm : m.Grounded) (hnames : m.types.names.Nodup) {t : SchemaType}
    (ht : m.Knows t) {bases : List SchemaType} (h : m.baseTypes t = .ok bases) {u v : SchemaType}
    (hu : u ∈ t :: bases) (hv : v ∈ t :: bases) : m.Comparable u v := by
  have hknown := hm.knows_of_mem_chain ht h
  have hcomparable : (t :: bases).Pairwise m.Comparable := by
    refine (hm.pairwise_descends ht h).imp_of_mem fun {a b} ha hb hab => ?_
    by_cases hsame : b = a
    · exact Or.inl hsame.symm
    · exact Or.inr (Or.inl (hm.hasBase_of_descends hnames (hknown a ha) (hknown b hb) hab hsame))
  have hself : ∀ a ∈ t :: bases, m.Comparable a a := fun _ _ => Or.inl rfl
  exact List.Pairwise.forall_of_forall hself hcomparable hu hv

end Grounded

end CsdlRoutes.Schema.Model
