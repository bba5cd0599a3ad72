import CsdlRoutes.Proofs.Schema.SegmentList
import CsdlRoutes.Proofs.Schema.UnknownTypes

/-!
# Which properties become segments

A type is offered its own properties, those of its base types and those of its subtypes, in this
order. Of the properties that qualify, the first one of each canonical name becomes a segment. A
property that does not qualify takes its name away from nobody, and a property whose name is taken
is not looked at any more, so that nothing depends on where it leads. Nothing is assumed about the
model: properties may lead to types that it does not have, types may stand under other names, and
several properties may have one canonical name.

* `Model.Qualifies`, `firstOfEach`, `offered`: the three parts of the description.
* `distinctSegments_eq`: what is selected from a row of properties.
* `exists_stuck_of_error`, `error_of_stuck`: when the selection fails.
* `segmentsAs_selects`: the segments of a type.
-/

namespace CsdlRoutes.Schema

/-- Of each canonical name the first property. -/
def firstOfEach (ps : List Property) : List Property :=
  ps.eraseDupsBy fun p q => p.canonicalName == q.canonicalName

/-- What a type is offered as segments: its own properties, then those of its base types, then those
of its subtypes. -/
def offered (t : SchemaType) (bases derived : List SchemaType) : List Property :=
  t.properties ++ bases.flatMap (·.properties) ++ derived.flatMap (·.properties)

theorem firstOfEach_cons (p : Property) (rest : List Property) :
    firstOfEach (p :: rest) =
      p :: firstOfEach (rest.filter fun q => q.canonicalName ≠ p.canonicalName) := by
  rw [firstOfEach, List.eraseDupsBy_cons, firstOfEach]
  simp only [beq_eq_false_iff_ne]

namespace Model

/-- A property may become a segment. Of the entity container every property may, elsewhere those
that lead to an entity type. -/
def Qualifies (m : Model) (isRoot : Bool) (p : Property) : Prop :=
  isRoot = true ∨ ∃ target, m.targetType p = .ok target ∧ target.kind = .entity

variable {m : Model} {isRoot : Bool}

theorem isSegment_eq_true_iff {p : Property} :
    m.isSegment isRoot p = .ok true ↔ m.Qualifies isRoot p := by
  unfold isSegment Qualifies
  cases isRoot with
  | true => simp
  | false => simp [bind_eq_ok, pure, Except.pure]

instance (m : Model) (isRoot : Bool) : DecidablePred (m.Qualifies isRoot) := fun p =>
  decidable_of_iff ((m.isSegment isRoot p).toOption = some true) <| by
    rw [← isSegment_eq_true_iff]
    cases m.isSegment isRoot p <;> simp [Except.toOption]

theorem not_qualifies_of_false {p : Property} (h : m.isSegment isRoot p = .ok false) :
    ¬ m.Qualifies isRoot p := by
  rw [← isSegment_eq_true_iff, h]
  simp

/-- Whether a property qualifies remains open only where a target is looked up in vain. -/
theorem isSegment_fails_iff {p : Property} : (∃ failure, m.isSegment isRoot p = .error failure) ↔
    isRoot = false ∧ ∀ target, m.targetType p ≠ .ok target := by
  unfold isSegment
  cases isRoot with
  | true => simp
  | false =>
    cases m.targetType p with
    | error failure => simp [bind, Except.bind]
    | ok target => simp [ok_bind, pure, Except.pure]

/-! ## Selecting from a row of properties -/

/-- Selected is, of the properties that qualify under names that were not taken before, the first one
of each name. -/
theorem distinctSegments_eq {taken : List String} {ps segs : List Property}
    (h : m.distinctSegments isRoot taken ps = .ok segs) :
    segs = firstOfEach
      (ps.filter fun p => m.Qualifies isRoot p ∧ p.canonicalName ∉ taken) := by
  induction ps generalizing taken segs with
  | nil =>
    cases h
    rfl
  | cons p rest ih =>
    rcases distinctSegments_cons_eq_ok h with
      ⟨htaken, h⟩ | ⟨_, hno, h⟩ | ⟨hnew, hyes, more, rfl, hmore⟩
    · rw [List.filter_cons_of_neg (by simp [htaken]), ← ih h]
    · rw [List.filter_cons_of_neg (by simp [not_qualifies_of_false hno]), ← ih h]
    · have hqualifies := isSegment_eq_true_iff.mp hyes
      rw [List.filter_cons_of_pos (by simp [hqualifies, hnew]), firstOfEach_cons, ih hmore,
        List.filter_filter]
      congr 2
      apply List.filter_congr
      intro q _
      simp only [List.mem_cons, not_or, Bool.decide_and, ne_eq, decide_not]
      exact Bool.and_left_comm _ _ _

/-- The selection is stuck at a property. It is not made for the entity container, the canonical name
of the property is free, since none before it has qualified under that name, and the target is
unknown. -/
structure StuckAt (m : Model) (isRoot : Bool) (before : List Property) (p : Property) : Prop where
  inside : isRoot = false
  free : ∀ q ∈ before, m.Qualifies isRoot q → q.canonicalName ≠ p.canonicalName
  unknown : ∀ target, m.targetType p ≠ .ok target

theorem exists_stuck_of_error {taken : List String} {ps : List Property} {failure : Failure}
    (h : m.distinctSegments isRoot taken ps = .error failure) :
    ∃ before p after, ps = before ++ p :: after ∧ p.canonicalName ∉ taken ∧
      m.StuckAt isRoot before p := by
  induction ps generalizing taken with
  | nil => cases h
  | cons p rest ih =>
    -- What the rest is stuck at the whole row is stuck at, if the first property leaves its name free.
    have hlater : ∀ {taken'}, m.distinctSegments isRoot taken' rest = .error failure →
        (∀ q : Property, q.canonicalName ∉ taken' → q.canonicalName ∉ taken ∧
          (m.Qualifies isRoot p → p.canonicalName ≠ q.canonicalName)) →
        ∃ before q after, p :: rest = before ++ q :: after ∧ q.canonicalName ∉ taken ∧
          m.StuckAt isRoot before q := by
      intro taken' h hfree
      obtain ⟨before, q, after, rfl, hnew, hstuck⟩ := ih h
      obtain ⟨hnew, hp⟩ := hfree q hnew
      exact ⟨p :: before, q, after, rfl, hnew, hstuck.inside,
        List.forall_mem_cons.mpr ⟨hp, hstuck.free⟩, hstuck.unknown⟩
    rw [distinctSegments] at h
    split at h
    · rename_i htaken
      exact hlater h fun q hnew => ⟨hnew, fun _ hsame => hnew (hsame ▸ htaken)⟩
    · rename_i hnew
      cases hsegment : m.isSegment isRoot p with
      | error failure' =>
        obtain ⟨hinside, hunknown⟩ := isSegment_fails_iff.mp ⟨failure', hsegment⟩
        exact ⟨[], p, rest, rfl, hnew, hinside, List.forall_mem_nil _, hunknown⟩
      | ok qualifies =>
        rw [hsegment, ok_bind] at h
        cases qualifies with
        | false =>
          exact hlater h fun q hq => ⟨hq, fun hp => absurd hp (not_qualifies_of_false hsegment)⟩
        | true =>
          cases hmore : m.distinctSegments isRoot (p.canonicalName :: taken) rest with
          | ok more =>
            rw [if_pos rfl, hmore, ok_bind] at h
            cases h
          | error failure' =>
            rw [if_pos rfl, hmore] at h
            cases h
            refine hlater hmore fun q hq => ?_
            rw [List.mem_cons, not_or] at hq
            exact ⟨hq.2, fun _ hsame => hq.1 hsame.symm⟩

theorem error_of_stuck {taken : List String} {before after : List Property} {p : Property}
    (hstuck : m.StuckAt isRoot before p) (hnew : p.canonicalName ∉ taken) :
    ∃ failure, m.distinctSegments isRoot taken (before ++ p :: after) = .error failure := by
  induction before generalizing taken with
  | nil =>
    obtain ⟨failure, h⟩ := isSegment_fails_iff.mpr ⟨hstuck.inside, hstuck.unknown⟩
    exact ⟨failure, by rw [List.nil_append, distinctSegments, if_neg hnew, h]; rfl⟩
  | cons q before ih =>
    obtain ⟨hq, hbefore⟩ := List.forall_mem_cons.mp hstuck.free
    have hrest : m.StuckAt isRoot before p := ⟨hstuck.inside, hbefore, hstuck.unknown⟩
    rw [List.cons_append, distinctSegments]
    split
    · exact ih hrest hnew
    · cases hsegment : m.isSegment isRoot q with
      | error failure => exact ⟨failure, rfl⟩
      | ok qualifies =>
        rw [ok_bind]
        cases qualifies with
        | false => exact ih hrest hnew
        | true =>
          have hfree : p.canonicalName ∉ q.canonicalName :: taken := by
            rw [List.mem_cons, not_or]
            exact ⟨(hq (isSegment_eq_true_iff.mp hsegment)).symm, hnew⟩
          obtain ⟨failure, h⟩ := ih hrest hfree
          exact ⟨failure, by rw [if_pos rfl, h]; rfl⟩

/-! ## The segments of a type -/

theorem flatMap_contributors (t : SchemaType) (bases derived : List SchemaType) :
    (t :: (bases ++ derived)).flatMap (·.properties) = offered t bases derived := by
  rw [List.flatMap_cons, List.flatMap_append, offered, List.append_assoc]

theorem segmentsAs_eq_distinctSegments {t : SchemaType} {bases derived : List SchemaType}
    (hbases : m.baseTypes t = .ok bases) (hderived : m.derivedTypes t = .ok derived) :
    m.segmentsAs isRoot t = m.distinctSegments isRoot [] (offered t bases derived) := by
  rw [segmentsAs, contributors, hbases, ok_bind, hderived, ok_bind, ← flatMap_contributors]
  rfl

/-- **The segments of a type are the first qualifying properties.** Where the base types and the
subtypes of a type are known, its segments are, of the properties that it is offered and that
qualify, the first one of each canonical name, and no two of them have the same canonical name. They
fail to exist just where the type is not taken for the entity container and some property that it is
offered leads to an unknown type under a canonical name that is still free. The failure then tells
such a name. -/
theorem segmentsAs_selects (m : Model) (isRoot : Bool) {t : SchemaType}
    {bases derived : List SchemaType} (hbases : m.baseTypes t = .ok bases)
    (hderived : m.derivedTypes t = .ok derived) :
    (∀ segs, m.segmentsAs isRoot t = .ok segs →
      segs = firstOfEach ((offered t bases derived).filter fun p => m.Qualifies isRoot p) ∧
        (segs.map Property.canonicalName).Nodup) ∧
      ((∃ failure, m.segmentsAs isRoot t = .error failure) ↔
        ∃ before p after, offered t bases derived = before ++ p :: after ∧
          m.StuckAt isRoot before p) ∧
      ∀ failure, m.segmentsAs isRoot t = .error failure → m.Unknown failure := by
  rw [segmentsAs_eq_distinctSegments hbases hderived]
  refine ⟨?_, ⟨?_, ?_⟩, ?_⟩
  · intro segs h
    refine ⟨?_, nodup_distinctSegments h⟩
    rw [distinctSegments_eq h]
    simp only [List.not_mem_nil, not_false_eq_true, and_true]
  · rintro ⟨failure, h⟩
    obtain ⟨before, p, after, hoffered, _, hstuck⟩ := exists_stuck_of_error h
    exact ⟨before, p, after, hoffered, hstuck⟩
  · rintro ⟨before, p, after, hoffered, hstuck⟩
    rw [hoffered]
    exact error_of_stuck hstuck List.not_mem_nil
  · exact fun failure h => (unknown_distinctSegments m isRoot [] _).2 failure h

/-- Things and tools are base types of each other. A thing has a label that is no segment and a part.
A tool has properties of the same canonical names: its label is a segment, and its part leads to a
type that is missing. -/
def patchwork : Model where
  version := "4.0"
  space := "t"
  types :=
    [("t.thing", ⟨"t.thing", .entity, some "t.tool", false, [],
       [⟨"label", "t.thing", "Edm.String", false, false, false⟩,
        ⟨"part", "t.thing", "t.thing", false, true, true⟩]⟩),
     ("t.tool", ⟨"t.tool", .entity, some "t.thing", false, [],
       [⟨"label", "t.thing", "t.tool", false, true, true⟩,
        ⟨"part", "t.thing", "t.gone", false, true, true⟩]⟩)]
  entityContainer := "t.root"

theorem patchwork_selects : ∃ thing tool segs,
    patchwork.getType "t.thing" = .ok thing ∧ patchwork.getType "t.tool" = .ok tool ∧
      patchwork.baseTypes thing = .ok [tool] ∧ patchwork.derivedTypes thing = .ok [tool] ∧
      patchwork.segmentsAs false thing = .ok segs ∧
      segs.map (fun p => (p.name, p.typeName)) = [("part", "t.thing"), ("label", "t.tool")] ∧
      segs = firstOfEach
        ((offered thing [tool] [tool]).filter fun p => patchwork.Qualifies false p) ∧
      patchwork.baseTypes tool = .ok [thing] ∧ patchwork.derivedTypes tool = .ok [thing] ∧
      ∃ before p after, offered tool [thing] [thing] = before ++ p :: after ∧
        patchwork.StuckAt false before p := by
  refine ⟨_, _, _, rfl, rfl, rfl, rfl, rfl, rfl, ?_, rfl, rfl, ?_⟩
  · exact ((segmentsAs_selects patchwork false rfl rfl).1 _ rfl).1
  · exact (segmentsAs_selects patchwork false rfl rfl).2.1.mp ⟨_, rfl⟩

end Model

end CsdlRoutes.Schema
