import CsdlRoutes.Proofs.Results
import CsdlRoutes.Proofs.TableEntries
import CsdlRoutes.Schema.Segments

/-!
# Closed models

A model is closed when each type stands under its own name and nothing in it refers to a type that
cannot be looked up. The graph of a closed model can be walked in every direction: no question about
a type of it fails. Walks through inheritance ask for less, since they do not look at properties: it
is enough that base types can be looked up. Nothing is assumed about the shape of the graph.
Inheritance may have cycles, the entity container may be a base type, and a target may be of any
kind.

* `Model.Grounded`, `Model.Closed` state the conditions, without targets of properties and with them.
* `Grounded.exists_baseTypes`, `Grounded.exists_derivedTypes`, `Closed.exists_contributors`: the
  questions about a type have answers.
* `Grounded.knows_of_mem_baseTypes`, `Grounded.knows_of_mem_derivedTypes`: the answers are types of
  the model.
-/

namespace CsdlRoutes.Schema.Model

/-- A type of a model is one that can be looked up, whether it is declared or primitive. -/
def Knows (m : Model) (t : SchemaType) : Prop := ∃ name, m.getType name = .ok t

/-- A property that some type of a model declares. -/
def Declared (m : Model) (p : Property) : Prop := ∃ t ∈ m.types.values, p ∈ t.properties

/-- Each type stands under its own name, and every base type can be looked up. -/
structure Grounded (m : Model) : Prop where
  named : ∀ entry ∈ m.types, entry.2.name = entry.1
  bases : ∀ t ∈ m.types.values, ∀ base, t.base? = some base → ∃ b, m.getType base = .ok b

/-- Each type stands under its own name, and every base type and every target can be looked up. -/
structure Closed (m : Model) : Prop where
  named : ∀ entry ∈ m.types, entry.2.name = entry.1
  bases : ∀ t ∈ m.types.values, ∀ base, t.base? = some base → ∃ b, m.getType base = .ok b
  targets : ∀ t ∈ m.types.values, ∀ p ∈ t.properties, ∃ target, m.targetType p = .ok target

variable {m : Model}

theorem Closed.grounded (hm : m.Closed) : m.Grounded := ⟨hm.named, hm.bases⟩

/-! ## Looking types up -/

/-- A type that is looked up is declared, or else it is primitive and has nothing of its own. -/
theorem getType_eq_ok {name : String} {t : SchemaType} (h : m.getType name = .ok t) :
    m.types.get? name = some t ∨
      m.types.get? name = none ∧ isPrimitive name = true ∧
        t = ⟨name, .primitive, none, false, [], []⟩ := by
  unfold getType at h
  split at h
  · rename_i u hu
    cases h
    exact Or.inl hu
  · rename_i hnone
    split at h
    · rename_i hp
      cases h
      exact Or.inr ⟨hnone, hp, rfl⟩
    · cases h

theorem getType_of_get? {name : String} {t : SchemaType} (h : m.types.get? name = some t) :
    m.getType name = .ok t := by
  simp [getType, h]

/-- A name can be looked up when it is declared or primitive. -/
theorem exists_getType_iff {name : String} :
    (∃ t, m.getType name = .ok t) ↔ (m.types.has name || isPrimitive name) = true := by
  constructor
  · rintro ⟨t, ht⟩
    rcases getType_eq_ok ht with h | ⟨_, hp, _⟩
    · rw [Table.has_iff.mpr ⟨t, h⟩, Bool.true_or]
    · rw [hp, Bool.or_true]
  · intro h
    cases hg : m.types.get? name with
    | some t => exact ⟨t, getType_of_get? hg⟩
    | none =>
      have hp : isPrimitive name = true := by simpa [Table.has, hg] using h
      refine ⟨⟨name, .primitive, none, false, [], []⟩, ?_⟩
      simp [getType, hg, hp]

theorem rootContainer_eq_ok {c : SchemaType} (h : m.rootContainer = .ok c) :
    m.types.get? m.entityContainer = some c ∧ c.kind = .container := by
  unfold rootContainer at h
  split at h
  · rename_i t ht
    split at h
    · rename_i hk
      cases h
      exact ⟨ht, hk⟩
    · cases h
  · cases h

theorem knows_rootContainer {c : SchemaType} (h : m.rootContainer = .ok c) : m.Knows c :=
  ⟨_, getType_of_get? (rootContainer_eq_ok h).1⟩

theorem knows_targetType {p : Property} {t : SchemaType} (h : m.targetType p = .ok t) :
    m.Knows t := ⟨_, h⟩

/-- Only declared types have properties. -/
theorem value_of_mem_properties {t : SchemaType} (ht : m.Knows t) {p : Property}
    (hp : p ∈ t.properties) : t ∈ m.types.values := by
  obtain ⟨name, hname⟩ := ht
  rcases getType_eq_ok hname with hfound | ⟨_, _, rfl⟩
  · exact Table.mem_values.mpr ⟨name, Table.mem_of_get? hfound⟩
  · cases hp

theorem declared_of_knows {t : SchemaType} (ht : m.Knows t) {p : Property} (hp : p ∈ t.properties) :
    m.Declared p := ⟨t, value_of_mem_properties ht hp, hp⟩

/-! ## Deciding whether a model is closed -/

/-- Whether a type stands under its own name and refers to nothing that cannot be looked up. -/
def entryCloses (m : Model) (entry : String × SchemaType) : Bool :=
  entry.2.name == entry.1 &&
    entry.2.base?.all (fun base => m.types.has base || isPrimitive base) &&
    entry.2.properties.all fun p => m.types.has p.typeName || isPrimitive p.typeName

theorem closed_iff : m.Closed ↔ m.types.all m.entryCloses = true := by
  simp only [List.all_eq_true, entryCloses, Bool.and_eq_true, beq_iff_eq, Option.all_eq_true,
    ← exists_getType_iff]
  constructor
  · intro h entry hentry
    have hvalue := Table.mem_values.mpr ⟨entry.1, hentry⟩
    exact ⟨⟨h.named entry hentry, h.bases _ hvalue⟩, h.targets _ hvalue⟩
  · intro h
    refine ⟨fun entry hentry => (h entry hentry).1.1, ?_, ?_⟩
    · intro t ht
      obtain ⟨name, hentry⟩ := Table.mem_values.mp ht
      exact (h _ hentry).1.2
    · intro t ht
      obtain ⟨name, hentry⟩ := Table.mem_values.mp ht
      exact (h _ hentry).2

instance : Decidable m.Closed := decidable_of_iff _ closed_iff.symm

/-- A small directory: users and groups are things, a user has a manager, who is a user again, and a
group has members that are things and owners that are kept elsewhere. -/
def directory : Model where
  version := "4.0"
  space := "t"
  types :=
    [("t.thing", ⟨"t.thing", .entity, none, true, ["id"], []⟩),
     ("t.user", ⟨"t.user", .entity, some "t.thing", false, [],
       [⟨"name", "t.user", "Edm.String", false, false, false⟩,
        ⟨"manager", "t.user", "t.user", false, true, true⟩]⟩),
     ("t.group", ⟨"t.group", .entity, some "t.thing", false, [],
       [⟨"members", "t.group", "t.thing", true, true, true⟩,
        ⟨"owners", "t.group", "t.user", true, true, false⟩]⟩),
     ("t.root", ⟨"t.root", .container, none, false, [],
       [⟨"users", "t.root", "t.user", true, true, true⟩,
        ⟨"things", "t.root", "t.thing", true, true, true⟩]⟩)]
  entityContainer := "t.root"

namespace Grounded

theorem name_of_get? (hm : m.Grounded) {name : String} {t : SchemaType}
    (h : m.types.get? name = some t) : t.name = name := hm.named _ (Table.mem_of_get? h)

theorem name_of_getType (hm : m.Grounded) {name : String} {t : SchemaType}
    (h : m.getType name = .ok t) : t.name = name := by
  rcases getType_eq_ok h with h | ⟨_, _, rfl⟩
  · exact hm.name_of_get? h
  · rfl

theorem getType_name (hm : m.Grounded) {t : SchemaType} (ht : m.Knows t) :
    m.getType t.name = .ok t := by
  obtain ⟨name, h⟩ := ht
  rw [hm.name_of_getType h]
  exact h

theorem exists_base (hm : m.Grounded) {t : SchemaType} (ht : m.Knows t) {base : String}
    (hb : t.base? = some base) : ∃ b, m.getType base = .ok b := by
  obtain ⟨name, h⟩ := ht
  rcases getType_eq_ok h with h | ⟨_, _, rfl⟩
  · exact hm.bases t (Table.mem_values.mpr ⟨name, Table.mem_of_get? h⟩) base hb
  · cases hb

theorem exists_directSubtype (hm : m.Grounded) {base name : String}
    (h : name ∈ m.directSubtypes base) : ∃ t, m.getType name = .ok t := by
  obtain ⟨t, ht, rfl⟩ := List.mem_map.mp h
  obtain ⟨key, hmem⟩ := Table.mem_values.mp (List.mem_filter.mp ht).1
  obtain ⟨u, hu⟩ := Table.exists_get?_of_mem hmem
  rw [hm.named _ hmem]
  exact ⟨u, getType_of_get? hu⟩

/-! ## Walking the graph -/

theorem exists_basesFrom (hm : m.Grounded) (fuel : Nat) (met : List String) {t : SchemaType}
    (ht : m.Knows t) :
    ∃ bases, m.basesFrom fuel met t = .ok bases ∧ ∀ b ∈ bases, m.Knows b := by
  induction fuel generalizing met t with
  | zero => exact ⟨[], rfl, by simp⟩
  | succ fuel ih =>
    rw [basesFrom]
    split
    · exact ⟨[], rfl, by simp⟩
    · rename_i base hbase
      split
      · exact ⟨[], rfl, by simp⟩
      · obtain ⟨b, hb⟩ := hm.exists_base ht hbase
        obtain ⟨more, hmore, hknown⟩ := ih (b.name :: met) ⟨base, hb⟩
        refine ⟨b :: more, ?_, ?_⟩
        · rw [hb, ok_bind, hmore, ok_bind]
          rfl
        · intro c hc
          rcases List.mem_cons.mp hc with rfl | hc
          · exact ⟨base, hb⟩
          · exact hknown c hc

theorem exists_baseTypes (hm : m.Grounded) {t : SchemaType} (ht : m.Knows t) :
    ∃ bases, m.baseTypes t = .ok bases ∧ ∀ b ∈ bases, m.Knows b :=
  hm.exists_basesFrom _ _ ht

theorem knows_of_mem_baseTypes (hm : m.Grounded) {t : SchemaType} (ht : m.Knows t)
    {bases : List SchemaType} (h : m.baseTypes t = .ok bases) : ∀ b ∈ bases, m.Knows b := by
  obtain ⟨found, hfound, hknown⟩ := hm.exists_baseTypes ht
  obtain rfl := Except.ok.inj (hfound.symm.trans h)
  exact hknown

theorem exists_derivedFrom (hm : m.Grounded) (fuel : Nat) (met pending : List String)
    (hpending : ∀ name ∈ pending, ∃ t, m.getType name = .ok t) :
    ∃ derived, m.derivedFrom fuel met pending = .ok derived ∧ ∀ d ∈ derived, m.Knows d := by
  induction fuel generalizing met pending with
  | zero => exact ⟨[], rfl, by simp⟩
  | succ fuel ih =>
    cases pending with
    | nil => exact ⟨[], rfl, by simp⟩
    | cons name rest =>
      have hrest : ∀ n ∈ rest, ∃ t, m.getType n = .ok t := fun n hn =>
        hpending n (List.mem_cons_of_mem _ hn)
      rw [derivedFrom]
      split
      · exact ih met rest hrest
      · obtain ⟨t, ht⟩ := hpending name List.mem_cons_self
        obtain ⟨more, hmore, hknown⟩ := ih (name :: met) (rest ++ m.directSubtypes name) (by
          intro n hn
          rcases List.mem_append.mp hn with hn | hn
          · exact hrest n hn
          · exact hm.exists_directSubtype hn)
        refine ⟨t :: more, ?_, ?_⟩
        · rw [ht, ok_bind, hmore, ok_bind]
          rfl
        · intro d hd
          rcases List.mem_cons.mp hd with rfl | hd
          · exact ⟨name, ht⟩
          · exact hknown d hd

theorem exists_derivedTypes (hm : m.Grounded) (t : SchemaType) :
    ∃ derived, m.derivedTypes t = .ok derived ∧ ∀ d ∈ derived, m.Knows d :=
  hm.exists_derivedFrom _ _ _ fun _ hn => hm.exists_directSubtype hn

theorem knows_of_mem_derivedTypes (hm : m.Grounded) {t : SchemaType} {derived : List SchemaType}
    (h : m.derivedTypes t = .ok derived) : ∀ d ∈ derived, m.Knows d := by
  obtain ⟨found, hfound, hknown⟩ := hm.exists_derivedTypes t
  obtain rfl := Except.ok.inj (hfound.symm.trans h)
  exact hknown

end Grounded

namespace Closed

theorem name_of_get? (hm : m.Closed) {name : String} {t : SchemaType}
    (h : m.types.get? name = some t) : t.name = name := hm.grounded.name_of_get? h

theorem exists_target (hm : m.Closed) {t : SchemaType} (ht : m.Knows t) {p : Property}
    (hp : p ∈ t.properties) : ∃ target, m.targetType p = .ok target := by
  obtain ⟨name, h⟩ := ht
  rcases getType_eq_ok h with h | ⟨_, _, rfl⟩
  · exact hm.targets t (Table.mem_values.mpr ⟨name, Table.mem_of_get? h⟩) p hp
  · cases hp

theorem exists_baseTypes (hm : m.Closed) {t : SchemaType} (ht : m.Knows t) :
    ∃ bases, m.baseTypes t = .ok bases ∧ ∀ b ∈ bases, m.Knows b := hm.grounded.exists_baseTypes ht

theorem exists_derivedTypes (hm : m.Closed) (t : SchemaType) :
    ∃ derived, m.derivedTypes t = .ok derived ∧ ∀ d ∈ derived, m.Knows d :=
  hm.grounded.exists_derivedTypes t

theorem exists_contributors (hm : m.Closed) {t : SchemaType} (ht : m.Knows t) :
    ∃ types, m.contributors t = .ok types ∧ ∀ u ∈ types, m.Knows u := by
  obtain ⟨bases, hbases, hb⟩ := hm.exists_baseTypes ht
  obtain ⟨derived, hderived, hd⟩ := hm.exists_derivedTypes t
  refine ⟨t :: (bases ++ derived), ?_, ?_⟩
  · rw [contributors, hbases, ok_bind, hderived, ok_bind]
    rfl
  · intro u hu
    rcases List.mem_cons.mp hu with rfl | hu
    · exact ht
    · rcases List.mem_append.mp hu with hu | hu
      · exact hb u hu
      · exact hd u hu

theorem knows_of_mem_contributors (hm : m.Closed) {t : SchemaType} (ht : m.Knows t)
    {types : List SchemaType} (h : m.contributors t = .ok types) : ∀ u ∈ types, m.Knows u := by
  obtain ⟨found, hfound, hknown⟩ := hm.exists_contributors ht
  obtain rfl := Except.ok.inj (hfound.symm.trans h)
  exact hknown

end Closed

end CsdlRoutes.Schema.Model
