import Mathlib.Data.Nat.Find
import CsdlRoutes.Proofs.Schema.BaseChain

/-!
# The order of subtypes

The subtypes of a type are searched breadth first. Base types are unique, so no name enters the queue
twice, and the queue of the whole search is known beforehand: it holds the direct subtypes of the
type, then those of its first subtype, and so on. From that the order of the subtypes can be read.
They come in the order of their base types, and under one base type in the order of declaration. A
base type is one step nearer than its subtype, so by induction the nearer subtypes come first.

Inheritance may have cycles. Then a type can be reached from another by several numbers of steps, of
which the least counts. The search goes on where a walk upwards would stop and the other way round,
but both find the same types, since both stop only where they began or where nothing is left.

* `Model.StepsTo`: how many base steps lead from one type to another.
* `Grounded.names_derivedTypes`: the subtypes are the direct subtypes of the type and of its subtypes.
* `Model.Precedes`, `Grounded.pairwise_precedes`: their order.
* `Grounded.steps_le_of_idxOf_lt`: the nearer ones come first.
* `Grounded.derivedTypes_breadthFirst`: all that is said of the subtypes of a type.
-/

namespace CsdlRoutes

/-! ## Places in a list -/

theorem pairwise_idxOf_lt {α : Type} [DecidableEq α] {l : List α} (h : l.Nodup) :
    l.Pairwise fun a b => l.idxOf a < l.idxOf b := by
  rw [List.pairwise_iff_getElem]
  intro i j hi hj hij
  rw [h.idxOf_getElem i hi, h.idxOf_getElem j hj]
  exact hij

theorem rel_of_idxOf_lt {α : Type} [DecidableEq α] {l : List α} {R : α → α → Prop}
    (h : l.Pairwise R) {a b : α} (hb : b ∈ l) (hlt : l.idxOf a < l.idxOf b) : R a b := by
  have hbound := List.idxOf_lt_length_iff.mpr hb
  have hrel := List.pairwise_iff_getElem.mp h _ _ (hlt.trans hbound) hbound hlt
  rwa [List.getElem_idxOf, List.getElem_idxOf] at hrel

namespace Schema.Model

/-! ## Base steps -/

/-- The name that so many base steps lead to from a name, while there is a base type. -/
def ascend (m : Model) : Nat → String → Option String
  | 0, name => some name
  | steps + 1, name => (m.types.get? name).bind fun t => t.base?.bind (m.ascend steps)

/-- So many base steps lead from a name to another one, and no fewer. -/
def StepsTo (m : Model) (steps : Nat) (name top : String) : Prop :=
  m.ascend steps name = some top ∧ ∀ fewer < steps, m.ascend fewer name ≠ some top

variable {m : Model}

theorem StepsTo.unique {i j : Nat} {name top : String} (hi : m.StepsTo i name top)
    (hj : m.StepsTo j name top) : i = j := by
  rcases Nat.lt_trichotomy i j with h | h | h
  · exact absurd hi.1 (hj.2 i h)
  · exact h
  · exact absurd hj.1 (hi.2 j h)

theorem stepsTo_self (m : Model) (top : String) : m.StepsTo 0 top top :=
  ⟨rfl, fun _ h => absurd h (Nat.not_lt_zero _)⟩

namespace Grounded

theorem ascend_of_extends (hm : m.Grounded) (hnames : m.types.names.Nodup) {base name : String}
    (h : m.Extends base name) (steps : Nat) : m.ascend (steps + 1) name = m.ascend steps base := by
  obtain ⟨t, ht, hbase⟩ := hm.base_of_extends hnames h
  rw [ascend, ht, Option.bind_some, hbase, Option.bind_some]

/-- A base type is one step nearer. -/
theorem exists_stepsTo_base (hm : m.Grounded) (hnames : m.types.names.Nodup)
    {base name top : String} (h : m.Extends base name) (hne : name ≠ top) {steps : Nat}
    (hsteps : m.StepsTo steps name top) :
    ∃ fewer, steps = fewer + 1 ∧ m.StepsTo fewer base top := by
  cases steps with
  | zero => exact absurd (Option.some.inj hsteps.1) hne
  | succ fewer =>
    refine ⟨fewer, rfl, ?_, fun least hleast hreach => ?_⟩
    · rw [← hm.ascend_of_extends hnames h]
      exact hsteps.1
    · rw [← hm.ascend_of_extends hnames h] at hreach
      exact hsteps.2 _ (Nat.succ_lt_succ hleast) hreach

theorem exists_stepsTo (hm : m.Grounded) (hnames : m.types.names.Nodup) {name top : String}
    (h : Relation.TransGen m.Extends top name) : ∃ steps, m.StepsTo steps name top := by
  have hreach : ∃ steps, m.ascend steps name = some top := by
    induction h with
    | single hstep => exact ⟨1, hm.ascend_of_extends hnames hstep 0⟩
    | tail _ hstep ih =>
      obtain ⟨steps, hsteps⟩ := ih
      exact ⟨steps + 1, (hm.ascend_of_extends hnames hstep steps).trans hsteps⟩
  exact ⟨Nat.find hreach, Nat.find_spec hreach, fun _ => Nat.find_min hreach⟩

/-! ## The queue of the search -/

theorem sublist_directSubtypes (hm : m.Grounded) (base : String) :
    (m.directSubtypes base).Sublist m.types.names := by
  have hvalues : m.types.values.map (·.name) = m.types.names := by
    rw [Table.values, Table.names, List.map_map]
    exact List.map_congr_left hm.named
  rw [directSubtypes, ← hvalues]
  exact List.filter_sublist.map _

/-- No name is a direct subtype twice. -/
theorem nodup_flatMap_directSubtypes (hm : m.Grounded) (hnames : m.types.names.Nodup)
    {bases : List String} (h : bases.Nodup) : (bases.flatMap m.directSubtypes).Nodup := by
  rw [List.nodup_flatMap]
  refine ⟨fun base _ => hnames.sublist (hm.sublist_directSubtypes base), ?_⟩
  refine h.imp fun hne name hname hname' => ?_
  exact hne (hm.base_unique hnames hname hname')

/-- When no name enters the queue twice, the search finds the names of its queue, those that were
met before left out. -/
theorem names_of_searched (hm : m.Grounded) {met pending : List String} {found : List SchemaType}
    (h : m.Searched met pending found)
    (honce : (pending ++ (found.map (·.name)).flatMap m.directSubtypes).Nodup) :
    found.map (·.name) =
      (pending ++ (found.map (·.name)).flatMap m.directSubtypes).filter (· ∉ met) := by
  induction h with
  | done met => rfl
  | skip hmet _ ih =>
    rw [List.cons_append] at honce
    rw [List.cons_append, List.filter_cons_of_neg (by simpa using hmet)]
    exact ih (List.nodup_cons.mp honce).2
  | @meet met rest name t found hnew ht _ ih =>
    rw [List.map_cons, hm.name_of_getType ht, List.flatMap_cons, List.cons_append,
      ← List.append_assoc] at honce ⊢
    obtain ⟨hleft, honce⟩ := List.nodup_cons.mp honce
    rw [List.filter_cons_of_pos (by simpa using hnew)]
    congr 1
    refine (ih honce).trans (List.filter_congr fun n hn => ?_)
    -- The name itself does not enter the queue again.
    have hne : n ≠ name := fun hsame => hleft (hsame ▸ hn)
    simp [hne]

theorem nodup_names_derivedTypes (hm : m.Grounded) {t : SchemaType} {derived : List SchemaType}
    (h : m.derivedTypes t = .ok derived) : (t.name :: derived.map (·.name)).Nodup := by
  refine List.nodup_cons.mpr ⟨?_, (hm.found_of_searched (searched_derivedTypes h)).once⟩
  exact fun hself => ((hm.mem_derivedTypes_iff h).mp hself).1 rfl

/-- The subtypes of a type are its direct subtypes, then those of its first subtype and so on, the
type itself left out. -/
theorem names_derivedTypes (hm : m.Grounded) (hnames : m.types.names.Nodup) {t : SchemaType}
    {derived : List SchemaType} (h : m.derivedTypes t = .ok derived) :
    derived.map (·.name) =
      ((t.name :: derived.map (·.name)).flatMap m.directSubtypes).filter (· ≠ t.name) := by
  have honce := hm.nodup_flatMap_directSubtypes hnames (hm.nodup_names_derivedTypes h)
  rw [List.flatMap_cons] at honce ⊢
  have hfound := hm.names_of_searched (searched_derivedTypes h) honce
  simpa only [List.mem_singleton] using hfound

end Grounded

/-! ## The order of the subtypes -/

/-- A name comes before another one when its base type has an earlier place in a row, or when the
base type is the same and it is declared earlier. -/
def Precedes (m : Model) (row : List String) (a b : String) : Prop :=
  ∃ p ∈ row, ∃ q ∈ row, m.Extends p a ∧ m.Extends q b ∧
    (row.idxOf p < row.idxOf q ∨ p = q ∧ m.types.names.idxOf a < m.types.names.idxOf b)

namespace Grounded

theorem pairwise_flatMap_precedes (hm : m.Grounded) (hnames : m.types.names.Nodup)
    {row : List String} (hrow : row.Nodup) :
    (row.flatMap m.directSubtypes).Pairwise (m.Precedes row) := by
  rw [List.pairwise_flatMap]
  constructor
  · intro p hp
    have hdeclared := (pairwise_idxOf_lt hnames).sublist (hm.sublist_directSubtypes p)
    refine hdeclared.imp_of_mem fun ha hb hlt => ?_
    exact ⟨p, hp, p, hp, ha, hb, Or.inr ⟨rfl, hlt⟩⟩
  · refine (pairwise_idxOf_lt hrow).imp_of_mem fun {p q} hp hq hlt a ha b hb => ?_
    exact ⟨p, hp, q, hq, ha, hb, Or.inl hlt⟩

/-- Subtypes are listed in the order of their base types, and under one base type in the order of
their declaration. -/
theorem pairwise_precedes (hm : m.Grounded) (hnames : m.types.names.Nodup) {t : SchemaType}
    {derived : List SchemaType} (h : m.derivedTypes t = .ok derived) :
    (derived.map (·.name)).Pairwise (m.Precedes (t.name :: derived.map (·.name))) := by
  have hordered := (hm.pairwise_flatMap_precedes hnames (hm.nodup_names_derivedTypes h)).filter
    fun name => decide (name ≠ t.name)
  rwa [← hm.names_derivedTypes hnames h] at hordered

/-- Of the type and its subtypes, the nearer ones come first. -/
theorem steps_le_of_idxOf_lt (hm : m.Grounded) (hnames : m.types.names.Nodup) {t : SchemaType}
    {derived : List SchemaType} (h : m.derivedTypes t = .ok derived) {i j : Nat} {a b : String}
    (ha : a ∈ t.name :: derived.map (·.name)) (hb : b ∈ t.name :: derived.map (·.name))
    (hlt : (t.name :: derived.map (·.name)).idxOf a < (t.name :: derived.map (·.name)).idxOf b)
    (hi : m.StepsTo i a t.name) (hj : m.StepsTo j b t.name) : i ≤ j := by
  have hrow := hm.nodup_names_derivedTypes h
  have hne : ∀ {n}, n ∈ derived.map (·.name) → n ≠ t.name := fun hn hself =>
    (List.nodup_cons.mp hrow).1 (hself ▸ hn)
  -- By induction on the steps from the later name, since both base types are a step nearer.
  induction j generalizing i a b with
  | zero =>
    obtain rfl : b = t.name := Option.some.inj hj.1
    rw [List.idxOf_cons_self] at hlt
    exact absurd hlt (Nat.not_lt_zero _)
  | succ j ih =>
    have hbmem : b ∈ derived.map (·.name) := by
      rcases List.mem_cons.mp hb with rfl | hbmem
      · rw [List.idxOf_cons_self] at hlt
        exact absurd hlt (Nat.not_lt_zero _)
      · exact hbmem
    rcases List.mem_cons.mp ha with rfl | hamem
    · rw [hi.unique (m.stepsTo_self t.name)]
      exact Nat.zero_le _
    · rw [List.idxOf_cons_ne _ (hne hamem).symm, List.idxOf_cons_ne _ (hne hbmem).symm] at hlt
      obtain ⟨p, hp, q, hq, hpa, hqb, horder⟩ :=
        rel_of_idxOf_lt (hm.pairwise_precedes hnames h) hbmem (Nat.lt_of_succ_lt_succ hlt)
      obtain ⟨i', rfl, hi'⟩ := hm.exists_stepsTo_base hnames hpa (hne hamem) hi
      obtain ⟨j', hjsucc, hj'⟩ := hm.exists_stepsTo_base hnames hqb (hne hbmem) hj
      obtain rfl := Nat.succ.inj hjsucc
      rcases horder with hpq | ⟨rfl, _⟩
      · exact Nat.succ_le_succ (ih hp hq hpq hi' hj')
      · exact Nat.succ_le_succ (hi'.unique hj').le

/-! ## Subtypes and base types -/

/-- A type is among the subtypes of a declared type when the latter is among its base types. -/
theorem mem_derivedTypes_iff_mem_baseTypes (hm : m.Grounded) (hnames : m.types.names.Nodup)
    {t d : SchemaType} (ht : m.Knows t) (hd : m.Knows d) (hne : d ≠ t)
    {derived bases : List SchemaType} (hderived : m.derivedTypes t = .ok derived)
    (hbases : m.baseTypes d = .ok bases) : d ∈ derived ↔ t ∈ bases := by
  rw [hm.mem_derivedTypes_iff_descends hd hderived]
  constructor
  · rintro ⟨_, hdescends⟩
    obtain ⟨bases', hbases', hmem⟩ := hm.hasBase_of_descends hnames hd ht hdescends hne.symm
    rw [hbases] at hbases'
    cases hbases'
    exact hmem
  · intro hmem
    exact ⟨fun hname => hne (hm.eq_of_name_eq hd ht hname),
      hm.descends_of_hasBase hd ⟨bases, hbases, hmem⟩⟩

theorem value_of_mem_derivedTypes (hm : m.Grounded) (hnames : m.types.names.Nodup)
    {t d : SchemaType} {derived : List SchemaType} (h : m.derivedTypes t = .ok derived)
    (hd : d ∈ derived) : d ∈ m.types.values := by
  have hknown : m.Knows d := ⟨_, hm.getType_of_mem_derivedTypes h hd⟩
  have hdescends := ((hm.mem_derivedTypes_iff_descends hknown h).mp hd).2
  obtain ⟨base, _, hstep⟩ := Relation.TransGen.tail'_iff.mp hdescends
  obtain ⟨u, hu, hname, _⟩ := exists_value_of_extends hstep
  exact hm.eq_of_name_eq (knows_of_mem_values hnames hu) hknown hname ▸ hu

/-- **Subtypes are found breadth first.** A declared type has subtypes, all of them declared: the
other types that have it among their base types, each once and never the type itself. Each is some
number of base steps away from the type. None is farther away than a later one, and they follow the
order of their base types and under one base type that of declaration. -/
theorem derivedTypes_breadthFirst (hm : m.Grounded) (hnames : m.types.names.Nodup) {t : SchemaType}
    (ht : t ∈ m.types.values) :
    ∃ derived, m.derivedTypes t = .ok derived ∧ (∀ d ∈ derived, d ∈ m.types.values) ∧
      (∀ d ∈ m.types.values, d ≠ t →
        ∃ bases, m.baseTypes d = .ok bases ∧ (d ∈ derived ↔ t ∈ bases)) ∧
      t ∉ derived ∧ (derived.map (·.name)).Nodup ∧
      (∀ d ∈ derived, ∃ steps, m.StepsTo steps d.name t.name) ∧
      (derived.map (·.name)).Pairwise fun a b =>
        (∀ i j, m.StepsTo i a t.name → m.StepsTo j b t.name → i ≤ j) ∧
          m.Precedes (t.name :: derived.map (·.name)) a b := by
  have hknown := knows_of_mem_values hnames ht
  obtain ⟨derived, hderived, hfound⟩ := hm.exists_derivedTypes t
  have hrow := hm.nodup_names_derivedTypes hderived
  obtain ⟨hself, honce⟩ := List.nodup_cons.mp hrow
  refine ⟨derived, hderived, fun d hd => hm.value_of_mem_derivedTypes hnames hderived hd, ?_,
    fun hmem => hself (List.mem_map_of_mem hmem), honce, ?_, ?_⟩
  · intro d hd hne
    have hdknown := knows_of_mem_values hnames hd
    obtain ⟨bases, hbases, _⟩ := hm.exists_baseTypes hdknown
    exact ⟨bases, hbases,
      hm.mem_derivedTypes_iff_mem_baseTypes hnames hknown hdknown hne hderived hbases⟩
  · intro d hd
    exact hm.exists_stepsTo hnames
      ((hm.mem_derivedTypes_iff_descends (hfound d hd) hderived).mp hd).2
  · have hplaces := (List.pairwise_cons.mp (pairwise_idxOf_lt hrow)).2
    refine List.Pairwise.and (hplaces.imp_of_mem fun ha hb hlt i j hi hj => ?_)
      (hm.pairwise_precedes hnames hderived)
    exact hm.steps_le_of_idxOf_lt hnames hderived (List.mem_cons_of_mem _ ha)
      (List.mem_cons_of_mem _ hb) hlt hi hj

end Grounded

/-- Three types that derive from each other in a circle, with types below two of them. The types are
declared in another order than the search finds them. -/
def circle : Model where
  version := "4.0"
  space := "t"
  types :=
    [("t.twig", ⟨"t.twig", .entity, some "t.branch", false, [], []⟩),
     ("t.last", ⟨"t.last", .entity, some "t.next", false, [], []⟩),
     ("t.first", ⟨"t.first", .entity, some "t.last", false, [], []⟩),
     ("t.leaf", ⟨"t.leaf", .entity, some "t.first", false, [], []⟩),
     ("t.branch", ⟨"t.branch", .entity, some "t.next", false, [], []⟩),
     ("t.next", ⟨"t.next", .entity, some "t.first", false, [], []⟩)]
  entityContainer := "t.root"

theorem circle_breadthFirst :
    circle.Grounded ∧ circle.types.names.Nodup ∧
      ∃ first derived, circle.types.get? "t.first" = some first ∧ first ∈ circle.types.values ∧
        circle.derivedTypes first = .ok derived ∧
        derived.map (·.name) = ["t.leaf", "t.next", "t.last", "t.branch", "t.twig"] ∧
        first ∉ derived ∧ (∀ d ∈ derived, ∃ steps, circle.StepsTo steps d.name "t.first") ∧
        (∀ d ∈ circle.types.values, d ≠ first →
          ∃ bases, circle.baseTypes d = .ok bases ∧ (d ∈ derived ↔ first ∈ bases)) ∧
        (derived.map (·.name)).Pairwise fun a b =>
          (∀ i j, circle.StepsTo i a "t.first" → circle.StepsTo j b "t.first" → i ≤ j) ∧
            circle.Precedes ("t.first" :: derived.map (·.name)) a b := by
  have hm : circle.Grounded := (by decide : circle.Closed).grounded
  have hnames : circle.types.names.Nodup := by decide
  obtain ⟨first, hfirst⟩ : ∃ first, circle.types.get? "t.first" = some first := ⟨_, rfl⟩
  have hvalue : first ∈ circle.types.values := Table.mem_values.mpr ⟨_, Table.mem_of_get? hfirst⟩
  have hname : first.name = "t.first" := hm.name_of_get? hfirst
  obtain ⟨derived, hderived, _, hbases, hself, _, hsteps, horder⟩ :=
    Grounded.derivedTypes_breadthFirst hm hnames hvalue
  rw [hname] at hsteps horder
  refine ⟨hm, hnames, first, derived, hfirst, hvalue, hderived, ?_, hself, hsteps, hbases, horder⟩
  cases hfirst
  cases hderived
  rfl

end Schema.Model

end CsdlRoutes
