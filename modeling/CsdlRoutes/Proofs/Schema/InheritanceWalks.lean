import Mathlib.Data.List.Count
import Mathlib.Logic.Relation
import CsdlRoutes.Proofs.Schema.Closed

/-!
# Walks through inheritance

Both walks through inheritance end by themselves, whatever cycles there are, so the bounds on their
numbers of steps cut nothing off. The chain of base types meets a new name at each step. The search
for subtypes takes a name off its queue at each step, and every type enters the queue once.

* `basesFrom_of_unmet_lt`, `derivedFrom_of_waiting_le`: more steps find nothing more.
* `Grounded.mem_derivedTypes_iff`: the search finds all types that descend from a type, except
  itself.
* `Grounded.mem_baseTypes_of_descends`: the chain holds all that a type descends from, except
  itself.
* `searched_derivedTypes`: the search step by step, without a bound.
-/

namespace CsdlRoutes.Schema.Model

variable {m : Model}

/-! ## The chain of base types -/

/-- How many names of types were not met so far. -/
def unmet (m : Model) (met : List String) : Nat := m.types.names.countP (· ∉ met)

theorem unmet_cons_lt {met : List String} {name : String} (hname : name ∈ m.types.names)
    (hnew : name ∉ met) : m.unmet (name :: met) < m.unmet met := by
  have hsplit := List.countP_eq_countP_filter_add m.types.names (· ∉ met) (· == name)
  have hrest : m.unmet (name :: met) =
      (m.types.names.filter fun n => !(n == name)).countP (· ∉ met) := by
    rw [unmet, List.countP_filter]
    apply List.countP_congr
    intro n _
    simp [and_comm]
  have hfound : 0 < (m.types.names.filter (· == name)).countP (· ∉ met) := by
    rw [List.countP_pos_iff]
    exact ⟨name, List.mem_filter.mpr ⟨hname, by simp⟩, by simpa using hnew⟩
  have hall : m.unmet met = _ := hsplit
  rw [hall, ← hrest]
  omega

theorem unmet_le (m : Model) (met : List String) : m.unmet met ≤ m.types.length := by
  have h := List.countP_le_length (p := (· ∉ met)) (l := m.types.names)
  rwa [Table.names, List.length_map] at h

theorem basesFrom_of_no_base {fuel : Nat} {met : List String} {t : SchemaType}
    (h : t.base? = none) : m.basesFrom fuel met t = .ok [] := by
  cases fuel with
  | zero => rfl
  | succ fuel => rw [basesFrom, h]

/-- With more steps than there are names left the chain of base types comes to its end, provided that
each type stands under its own name. -/
theorem basesFrom_of_unmet_lt (hnamed : ∀ entry ∈ m.types, entry.2.name = entry.1)
    {fuel more : Nat} {met : List String} {t : SchemaType} (hfuel : m.unmet met < fuel) :
    m.basesFrom (fuel + more) met t = m.basesFrom fuel met t := by
  induction fuel generalizing met t with
  | zero => cases hfuel
  | succ fuel ih =>
    rw [Nat.add_right_comm, basesFrom, basesFrom]
    cases hbase : t.base? with
    | none => rfl
    | some base =>
      dsimp only
      split
      · rfl
      · rename_i hnew
        cases hb : m.getType base with
        | error failure => rfl
        | ok b =>
          have hsame : m.basesFrom (fuel + more) (b.name :: met) b =
              m.basesFrom fuel (b.name :: met) b := by
            rcases getType_eq_ok hb with hdeclared | ⟨_, _, rfl⟩
            · have hname : b.name = base := hnamed _ (Table.mem_of_get? hdeclared)
              have hlt := unmet_cons_lt (Table.mem_names_iff.mpr ⟨b, hdeclared⟩) hnew
              rw [hname]
              exact ih (by omega)
            · rw [basesFrom_of_no_base rfl, basesFrom_of_no_base rfl]
          rw [ok_bind, ok_bind, hsame]

theorem basesFrom_eq_baseTypes (hnamed : ∀ entry ∈ m.types, entry.2.name = entry.1)
    {t : SchemaType} {fuel : Nat} (hfuel : 2 * m.types.length < fuel) :
    m.basesFrom fuel [t.name] t = m.baseTypes t := by
  obtain ⟨more, rfl⟩ := Nat.exists_eq_add_of_le (show 2 * m.types.length + 1 ≤ fuel from hfuel)
  have hle := m.unmet_le [t.name]
  exact basesFrom_of_unmet_lt hnamed (by omega)

/-- The chain of base types is closed under base types: each one that is named is in the chain or was
met before. -/
theorem Grounded.mem_basesFrom (hm : m.Grounded) {fuel : Nat} {met : List String} {t : SchemaType}
    (ht : m.Knows t) {bases : List SchemaType} (h : m.basesFrom fuel met t = .ok bases)
    (hfuel : m.unmet met < fuel) :
    ∀ c ∈ t :: bases, ∀ base, c.base? = some base → base ∈ met ∨ base ∈ bases.map (·.name) := by
  induction fuel generalizing met t bases with
  | zero => cases hfuel
  | succ fuel ih =>
    rw [basesFrom] at h
    cases hbase : t.base? with
    | none =>
      rw [hbase] at h
      cases h
      intro c hc base hc'
      rw [List.mem_singleton.mp hc, hbase] at hc'
      cases hc'
    | some first =>
      rw [hbase] at h
      dsimp only at h
      split at h
      · rename_i hmet
        cases h
        intro c hc base hc'
        rw [List.mem_singleton.mp hc, hbase] at hc'
        cases hc'
        exact Or.inl hmet
      · rename_i hnew
        obtain ⟨b, hb, h⟩ := bind_eq_ok.mp h
        obtain ⟨more, hmore, h⟩ := bind_eq_ok.mp h
        cases h
        have hname := hm.name_of_getType hb
        have hrest : ∀ c ∈ b :: more, ∀ base, c.base? = some base →
            base ∈ b.name :: met ∨ base ∈ more.map (·.name) := by
          rcases getType_eq_ok hb with hdeclared | ⟨_, _, rfl⟩
          · refine ih ⟨first, hb⟩ hmore ?_
            have hlt := unmet_cons_lt (Table.mem_names_iff.mpr ⟨b, hdeclared⟩) hnew
            rw [hname]
            omega
          · rw [basesFrom_of_no_base rfl] at hmore
            cases hmore
            intro c hc base hc'
            rw [List.mem_singleton.mp hc] at hc'
            cases hc'
        intro c hc base hc'
        rw [List.map_cons, List.mem_cons]
        rcases List.mem_cons.mp hc with rfl | hc
        · rw [hbase] at hc'
          cases hc'
          exact Or.inr (Or.inl hname.symm)
        · rcases hrest c hc base hc' with hmet | hmem
          · rcases List.mem_cons.mp hmet with hself | hmet
            · exact Or.inr (Or.inl hself)
            · exact Or.inl hmet
          · exact Or.inr (Or.inr hmem)

/-! ## The search for subtypes -/

/-- How often the queue of a search is still taken from: the names in it, and the types whose base
was not met so far. -/
def waiting (m : Model) (met pending : List String) : Nat :=
  pending.length + m.types.values.countP fun t => t.base?.any (· ∉ met)

theorem length_directSubtypes (m : Model) (base : String) :
    (m.directSubtypes base).length = m.types.values.countP fun t => t.base? == some base := by
  rw [directSubtypes, List.length_map, List.countP_eq_length_filter]

/-- A name that is met takes the types that have it as their base with it. -/
theorem countP_unmet_base (m : Model) {met : List String} {name : String} (hnew : name ∉ met) :
    (m.types.values.countP fun t => t.base?.any (· ∉ met)) =
      (m.directSubtypes name).length +
        m.types.values.countP fun t => t.base?.any (· ∉ name :: met) := by
  rw [length_directSubtypes,
    List.countP_eq_countP_filter_add m.types.values _ fun t => t.base? == some name,
    List.countP_filter, List.countP_filter]
  congr 1
  · apply List.countP_congr
    intro t _
    cases t.base? with
    | none => simp
    | some base =>
      simp only [Option.any_some, Bool.and_eq_true, decide_eq_true_eq, beq_iff_eq,
        Option.some.injEq]
      exact ⟨fun h => h.2, fun h => ⟨h ▸ hnew, h⟩⟩
  · apply List.countP_congr
    intro t _
    cases t.base? with
    | none => simp
    | some base => simp [and_comm]

theorem waiting_directSubtypes_le (m : Model) (name : String) :
    m.waiting [name] (m.directSubtypes name) ≤ m.types.length := by
  have hsplit := m.countP_unmet_base (List.not_mem_nil : name ∉ [])
  have hle := List.countP_le_length (l := m.types.values)
    (p := fun t : SchemaType => t.base?.any (· ∉ ([] : List String)))
  rw [Table.values, List.length_map, ← Table.values, hsplit] at hle
  exact hle

theorem waiting_expand (m : Model) {met : List String} {name : String} (hnew : name ∉ met)
    (rest : List String) :
    m.waiting (name :: met) (rest ++ m.directSubtypes name) + 1 = m.waiting met (name :: rest) := by
  rw [waiting, waiting, m.countP_unmet_base hnew, List.length_append, List.length_cons]
  omega

/-- With enough steps the search comes to the end of its queue. -/
theorem derivedFrom_of_waiting_le {fuel more : Nat} {met pending : List String}
    (hfuel : m.waiting met pending ≤ fuel) :
    m.derivedFrom (fuel + more) met pending = m.derivedFrom fuel met pending := by
  induction fuel generalizing met pending with
  | zero =>
    have hempty : pending = [] := by
      cases pending with
      | nil => rfl
      | cons name rest =>
        rw [waiting, List.length_cons] at hfuel
        omega
    subst hempty
    cases more <;> rfl
  | succ fuel ih =>
    rw [Nat.add_right_comm]
    cases pending with
    | nil => rfl
    | cons name rest =>
      rw [derivedFrom, derivedFrom]
      split
      · refine ih ?_
        rw [waiting, List.length_cons] at hfuel
        rw [waiting]
        omega
      · rename_i hnew
        have hstep := m.waiting_expand hnew rest
        have hrest : m.waiting (name :: met) (rest ++ m.directSubtypes name) ≤ fuel := by omega
        rw [ih hrest]

theorem derivedFrom_eq_derivedTypes {t : SchemaType} {fuel : Nat} (hfuel : m.types.length ≤ fuel) :
    m.derivedFrom fuel [t.name] (m.directSubtypes t.name) = m.derivedTypes t := by
  obtain ⟨more, rfl⟩ := Nat.exists_eq_add_of_le hfuel
  exact derivedFrom_of_waiting_le (m.waiting_directSubtypes_le t.name)

/-! ## Steps of the search -/

/-- What the search for subtypes finds, step by step, from the names that were met and the queue. -/
inductive Searched (m : Model) : List String → List String → List SchemaType → Prop
  | done (met : List String) : m.Searched met [] []
  | skip {met rest : List String} {name : String} {found : List SchemaType} (hmet : name ∈ met)
      (h : m.Searched met rest found) : m.Searched met (name :: rest) found
  | meet {met rest : List String} {name : String} {t : SchemaType} {found : List SchemaType}
      (hnew : name ∉ met) (ht : m.getType name = .ok t)
      (h : m.Searched (name :: met) (rest ++ m.directSubtypes name) found) :
      m.Searched met (name :: rest) (t :: found)

theorem searched_of_derivedFrom {fuel : Nat} {met pending : List String} {found : List SchemaType}
    (h : m.derivedFrom fuel met pending = .ok found) (hfuel : m.waiting met pending ≤ fuel) :
    m.Searched met pending found := by
  induction fuel generalizing met pending found with
  | zero =>
    have hempty : pending = [] := by
      cases pending with
      | nil => rfl
      | cons name rest =>
        rw [waiting, List.length_cons] at hfuel
        omega
    subst hempty
    cases h
    exact .done met
  | succ fuel ih =>
    cases pending with
    | nil =>
      cases h
      exact .done met
    | cons name rest =>
      rw [derivedFrom] at h
      split at h
      · rename_i hmet
        exact .skip hmet (ih h (by rw [waiting, List.length_cons] at hfuel; rw [waiting]; omega))
      · rename_i hnew
        obtain ⟨t, ht, h⟩ := bind_eq_ok.mp h
        obtain ⟨more, hmore, h⟩ := bind_eq_ok.mp h
        cases h
        have hstep := m.waiting_expand hnew rest
        exact .meet hnew ht (ih hmore (by omega))

theorem Searched.unique {met pending : List String} {found found' : List SchemaType}
    (h : m.Searched met pending found) (h' : m.Searched met pending found') : found = found' := by
  induction h generalizing found' with
  | done met =>
    cases h'
    rfl
  | skip hmet _ ih =>
    cases h' with
    | skip _ h' => exact ih h'
    | meet hnew _ _ => exact absurd hmet hnew
  | meet hnew ht _ ih =>
    cases h' with
    | skip hmet _ => exact absurd hmet hnew
    | meet _ ht' h' =>
      rw [ht] at ht'
      cases ht'
      rw [ih h']

theorem searched_derivedTypes {t : SchemaType} {derived : List SchemaType}
    (h : m.derivedTypes t = .ok derived) :
    m.Searched [t.name] (m.directSubtypes t.name) derived :=
  searched_of_derivedFrom h (m.waiting_directSubtypes_le t.name)

/-! ## What the search finds -/

/-- A name is that of a direct subtype of a type. -/
def Extends (m : Model) (base name : String) : Prop := name ∈ m.directSubtypes base

theorem exists_value_of_extends {base name : String} (h : m.Extends base name) :
    ∃ t ∈ m.types.values, t.name = name ∧ t.base? = some base := by
  obtain ⟨t, ht, rfl⟩ := List.mem_map.mp h
  obtain ⟨hvalue, hbase⟩ := List.mem_filter.mp ht
  exact ⟨t, hvalue, rfl, by simpa using hbase⟩

theorem Grounded.base_of_extends (hm : m.Grounded) (hnames : m.types.names.Nodup) {base name : String}
    (h : m.Extends base name) : ∃ t, m.types.get? name = some t ∧ t.base? = some base := by
  obtain ⟨t, ht, rfl, hbase⟩ := exists_value_of_extends h
  obtain ⟨key, hentry⟩ := Table.mem_values.mp ht
  have hkey : t.name = key := hm.named _ hentry
  exact ⟨t, (Table.get?_eq_some_iff hnames).mpr (hkey ▸ hentry), hbase⟩

/-- What a search yields: all of the queue that was not met, closed under direct subtypes, and
nothing that does not descend from the queue. -/
structure Found (m : Model) (met pending names : List String) : Prop where
  queued : ∀ name ∈ pending, name ∈ met ∨ name ∈ names
  closed : ∀ name ∈ names, ∀ sub, m.Extends name sub → sub ∈ met ∨ sub ∈ names
  descends : ∀ name ∈ names, name ∉ met ∧ ∃ q ∈ pending, Relation.ReflTransGen m.Extends q name
  once : names.Nodup

/-- A name that was met is taken off the queue without anything being found. -/
theorem Found.skip {met rest names : List String} {name : String} (hmet : name ∈ met)
    (h : m.Found met rest names) : m.Found met (name :: rest) names := by
  refine ⟨?_, h.closed, ?_, h.once⟩
  · intro n hn
    rcases List.mem_cons.mp hn with rfl | hn
    · exact Or.inl hmet
    · exact h.queued n hn
  · intro n hn
    obtain ⟨hnew, q, hq, hreach⟩ := h.descends n hn
    exact ⟨hnew, q, List.mem_cons_of_mem _ hq, hreach⟩

/-- A name that is met for the first time is found, and its direct subtypes enter the queue. -/
theorem Found.expand {met rest names : List String} {name : String} (hnew : name ∉ met)
    (h : m.Found (name :: met) (rest ++ m.directSubtypes name) names) :
    m.Found met (name :: rest) (name :: names) := by
  refine ⟨?_, ?_, ?_, ?_⟩
  · intro n hn
    rcases List.mem_cons.mp hn with rfl | hn
    · exact Or.inr List.mem_cons_self
    · have := h.queued n (List.mem_append_left _ hn)
      simp only [List.mem_cons] at this ⊢
      tauto
  · intro n hn sub hsub
    have hafter : sub ∈ name :: met ∨ sub ∈ names := by
      rcases List.mem_cons.mp hn with rfl | hn
      · exact h.queued sub (List.mem_append_right _ hsub)
      · exact h.closed n hn sub hsub
    simp only [List.mem_cons] at hafter ⊢
    tauto
  · intro n hn
    rcases List.mem_cons.mp hn with rfl | hn
    · exact ⟨hnew, n, List.mem_cons_self, .refl⟩
    · obtain ⟨hn', q, hq, hreach⟩ := h.descends n hn
      refine ⟨fun hmet => hn' (List.mem_cons_of_mem _ hmet), ?_⟩
      rcases List.mem_append.mp hq with hq | hq
      · exact ⟨q, List.mem_cons_of_mem _ hq, hreach⟩
      · exact ⟨name, List.mem_cons_self, .head hq hreach⟩
  · refine List.nodup_cons.mpr ⟨?_, h.once⟩
    intro hmem
    exact (h.descends name hmem).1 List.mem_cons_self

theorem Grounded.found_of_searched (hm : m.Grounded) {met pending : List String}
    {derived : List SchemaType} (h : m.Searched met pending derived) :
    m.Found met pending (derived.map (·.name)) := by
  induction h with
  | done met => exact ⟨by simp, by simp, by simp, List.nodup_nil⟩
  | skip hmet _ ih => exact ih.skip hmet
  | meet hnew ht _ ih =>
    rw [List.map_cons, hm.name_of_getType ht]
    exact ih.expand hnew

/-- The subtypes of a type are the types that descend from it, except itself. -/
theorem Grounded.mem_derivedTypes_iff (hm : m.Grounded) {t : SchemaType}
    {derived : List SchemaType} (h : m.derivedTypes t = .ok derived) {name : String} :
    name ∈ derived.map (·.name) ↔ name ≠ t.name ∧ Relation.TransGen m.Extends t.name name := by
  have hfound := hm.found_of_searched (searched_derivedTypes h)
  constructor
  · intro hname
    obtain ⟨hnew, q, hq, hreach⟩ := hfound.descends name hname
    exact ⟨by simpa using hnew, .head' hq hreach⟩
  · rintro ⟨hne, hdescends⟩
    have hall : ∀ n, Relation.TransGen m.Extends t.name n →
        n ∈ [t.name] ∨ n ∈ derived.map (·.name) := by
      intro n hn
      induction hn with
      | single hstep => exact hfound.queued _ hstep
      | tail _ hstep ih =>
        rcases ih with hself | hmem
        · rw [List.mem_singleton.mp hself] at hstep
          exact hfound.queued _ hstep
        · exact hfound.closed _ hmem _ hstep
    rcases hall name hdescends with hself | hmem
    · exact absurd (List.mem_singleton.mp hself) hne
    · exact hmem

/-- Whatever a type descends from is in its chain of base types, except itself. -/
theorem Grounded.mem_baseTypes_of_descends (hm : m.Grounded) (hnames : m.types.names.Nodup)
    {t : SchemaType} (ht : m.Knows t) {bases : List SchemaType} (h : m.baseTypes t = .ok bases)
    {base : String} (hdescends : Relation.TransGen m.Extends base t.name) (hne : base ≠ t.name) :
    base ∈ bases.map (·.name) := by
  have hfuel : m.unmet [t.name] < 2 * m.types.length + 1 := by
    have := m.unmet_le [t.name]
    omega
  have hclosed := hm.mem_basesFrom ht h hfuel
  -- Upwards from the type: the base type of a type in the chain is in the chain.
  have hchain : ∀ name, Relation.TransGen m.Extends name t.name →
      name ∈ [t.name] ∨ name ∈ bases.map (·.name) := by
    have hup : ∀ c ∈ t :: bases, ∀ name, m.Extends name c.name →
        name ∈ [t.name] ∨ name ∈ bases.map (·.name) := by
      intro c hc name hstep
      obtain ⟨u, hu, hbase⟩ := hm.base_of_extends hnames hstep
      have hfound : m.getType c.name = .ok u := getType_of_get? hu
      have hcknown : m.Knows c := by
        rcases List.mem_cons.mp hc with rfl | hc
        · exact ht
        · exact hm.knows_of_mem_baseTypes ht h c hc
      rw [hm.getType_name hcknown] at hfound
      cases hfound
      exact hclosed c hc name hbase
    intro name hname
    induction hname using Relation.TransGen.head_induction_on with
    | single hstep => exact hup t List.mem_cons_self _ hstep
    | head hstep _ ih =>
      rcases ih with hself | hmem
      · rw [List.mem_singleton.mp hself] at hstep
        exact hup t List.mem_cons_self _ hstep
      · obtain ⟨c, hc, hcname⟩ := List.mem_map.mp hmem
        exact hup c (List.mem_cons_of_mem _ hc) _ (hcname ▸ hstep)
  rcases hchain base hdescends with hself | hmem
  · exact absurd (List.mem_singleton.mp hself) hne
  · exact hmem

/-- A subtype is found as the type that stands under its name. -/
theorem Grounded.getType_of_mem_derivedTypes (hm : m.Grounded) {t d : SchemaType}
    {derived : List SchemaType} (h : m.derivedTypes t = .ok derived) (hd : d ∈ derived) :
    m.getType d.name = .ok d := by
  exact hm.getType_name (hm.knows_of_mem_derivedTypes h d hd)

end CsdlRoutes.Schema.Model
