import CsdlRoutes.Proofs.Schema.Closed

/-!
# The list of segments

The segments of a type are taken from the properties of the types that contribute to it. Each one
qualifies, no two of them have the same canonical name, and of each canonical name that qualifies
there is one. In a closed model the list exists, and each segment leads on.

* `distinctSegments_cons_eq_ok`: what becomes of one property.
* `nodup_segmentsAs`, `mem_of_mem_segmentsAs`, `exists_mem_segmentsAs`: the list of a type.
* `Closed.exists_segmentsAs`: its existence.
-/

namespace CsdlRoutes.Schema.Model

variable {m : Model} {isRoot : Bool}

/-- What becomes of a property: its canonical name was taken before, or it does not qualify, or it
is listed and its canonical name counts as taken from there on. -/
theorem distinctSegments_cons_eq_ok {taken : List String} {p : Property} {rest segs : List Property}
    (h : m.distinctSegments isRoot taken (p :: rest) = .ok segs) :
    p.canonicalName ∈ taken ∧ m.distinctSegments isRoot taken rest = .ok segs ∨
    p.canonicalName ∉ taken ∧ m.isSegment isRoot p = .ok false ∧
      m.distinctSegments isRoot taken rest = .ok segs ∨
    p.canonicalName ∉ taken ∧ m.isSegment isRoot p = .ok true ∧
      ∃ more, segs = p :: more ∧
        m.distinctSegments isRoot (p.canonicalName :: taken) rest = .ok more := by
  rw [distinctSegments] at h
  split at h
  · rename_i htaken
    exact Or.inl ⟨htaken, h⟩
  · rename_i hnew
    obtain ⟨qualifies, hq, h⟩ := bind_eq_ok.mp h
    cases qualifies with
    | false => exact Or.inr (Or.inl ⟨hnew, hq, h⟩)
    | true =>
      obtain ⟨more, hmore, h⟩ := bind_eq_ok.mp h
      cases h
      exact Or.inr (Or.inr ⟨hnew, hq, more, rfl, hmore⟩)

theorem mem_of_mem_distinctSegments {taken : List String} {ps segs : List Property}
    (h : m.distinctSegments isRoot taken ps = .ok segs) {p : Property} (hp : p ∈ segs) :
    p ∈ ps ∧ p.canonicalName ∉ taken ∧ m.isSegment isRoot p = .ok true := by
  induction ps generalizing taken segs with
  | nil =>
    cases h
    cases hp
  | cons q rest ih =>
    rcases distinctSegments_cons_eq_ok h with ⟨_, h⟩ | ⟨_, _, h⟩ | ⟨hnew, hq, more, rfl, hmore⟩
    · obtain ⟨hm, hs⟩ := ih h hp
      exact ⟨List.mem_cons_of_mem _ hm, hs⟩
    · obtain ⟨hm, hs⟩ := ih h hp
      exact ⟨List.mem_cons_of_mem _ hm, hs⟩
    · rcases List.mem_cons.mp hp with rfl | hp
      · exact ⟨List.mem_cons_self, hnew, hq⟩
      · obtain ⟨hm, hs, hqual⟩ := ih hmore hp
        exact ⟨List.mem_cons_of_mem _ hm, fun ht => hs (List.mem_cons_of_mem _ ht), hqual⟩

theorem nodup_distinctSegments {taken : List String} {ps segs : List Property}
    (h : m.distinctSegments isRoot taken ps = .ok segs) :
    (segs.map Property.canonicalName).Nodup := by
  induction ps generalizing taken segs with
  | nil =>
    cases h
    exact List.nodup_nil
  | cons q rest ih =>
    rcases distinctSegments_cons_eq_ok h with ⟨_, h⟩ | ⟨_, _, h⟩ | ⟨_, _, more, rfl, hmore⟩
    · exact ih h
    · exact ih h
    · refine List.nodup_cons.mpr ⟨?_, ih hmore⟩
      intro hm
      obtain ⟨p, hp, hname⟩ := List.mem_map.mp hm
      have hnew := (mem_of_mem_distinctSegments hmore hp).2.1
      exact hnew (hname ▸ List.mem_cons_self)

theorem exists_mem_distinctSegments {taken : List String} {ps segs : List Property}
    (h : m.distinctSegments isRoot taken ps = .ok segs) {p : Property} (hp : p ∈ ps)
    (hnew : p.canonicalName ∉ taken) (hq : m.isSegment isRoot p = .ok true) :
    ∃ q ∈ segs, q.canonicalName = p.canonicalName := by
  induction ps generalizing taken segs with
  | nil => cases hp
  | cons first rest ih =>
    rcases distinctSegments_cons_eq_ok h with ⟨htaken, h⟩ | ⟨_, hf, h⟩ |
      ⟨_, _, more, rfl, hmore⟩
    · rcases List.mem_cons.mp hp with rfl | hp
      · exact absurd htaken hnew
      · exact ih h hp hnew
    · rcases List.mem_cons.mp hp with rfl | hp
      · rw [hf] at hq
        cases hq
      · exact ih h hp hnew
    · rcases List.mem_cons.mp hp with rfl | hp
      · exact ⟨p, List.mem_cons_self, rfl⟩
      · by_cases he : p.canonicalName = first.canonicalName
        · exact ⟨first, List.mem_cons_self, he.symm⟩
        · obtain ⟨q, hqm, hqn⟩ := ih hmore hp (by simp [he, hnew])
          exact ⟨q, List.mem_cons_of_mem _ hqm, hqn⟩

theorem exists_isSegment (isRoot : Bool) {p : Property} {target : SchemaType}
    (h : m.targetType p = .ok target) : ∃ qualifies, m.isSegment isRoot p = .ok qualifies := by
  unfold isSegment
  split
  · exact ⟨true, rfl⟩
  · exact ⟨_, by rw [h, ok_bind]; rfl⟩

theorem exists_distinctSegments (isRoot : Bool) {ps : List Property}
    (h : ∀ p ∈ ps, ∃ target, m.targetType p = .ok target) (taken : List String) :
    ∃ segs, m.distinctSegments isRoot taken ps = .ok segs := by
  induction ps generalizing taken with
  | nil => exact ⟨[], rfl⟩
  | cons p rest ih =>
    have hrest := ih fun q hq => h q (List.mem_cons_of_mem _ hq)
    obtain ⟨target, htarget⟩ := h p List.mem_cons_self
    obtain ⟨qualifies, hq⟩ := exists_isSegment isRoot htarget
    rw [distinctSegments]
    split
    · exact hrest taken
    · rw [hq, ok_bind]
      cases qualifies with
      | false => exact hrest taken
      | true =>
        obtain ⟨more, hmore⟩ := hrest (p.canonicalName :: taken)
        exact ⟨p :: more, by rw [if_pos rfl, hmore, ok_bind]; rfl⟩

/-! ## The segments of a type -/

theorem contributors_eq_ok {t : SchemaType} {types : List SchemaType}
    (h : m.contributors t = .ok types) :
    ∃ bases derived, m.baseTypes t = .ok bases ∧ m.derivedTypes t = .ok derived ∧
      types = t :: (bases ++ derived) := by
  obtain ⟨bases, hbases, h⟩ := bind_eq_ok.mp h
  obtain ⟨derived, hderived, h⟩ := bind_eq_ok.mp h
  cases h
  exact ⟨bases, derived, hbases, hderived, rfl⟩

theorem segmentsAs_eq_ok {t : SchemaType} {segs : List Property}
    (h : m.segmentsAs isRoot t = .ok segs) :
    ∃ types, m.contributors t = .ok types ∧
      m.distinctSegments isRoot [] (types.flatMap (·.properties)) = .ok segs := bind_eq_ok.mp h

/-- No two segments of a type have the same canonical name. -/
theorem nodup_segmentsAs {t : SchemaType} {segs : List Property}
    (h : m.segmentsAs isRoot t = .ok segs) : (segs.map Property.canonicalName).Nodup := by
  obtain ⟨_, _, hd⟩ := segmentsAs_eq_ok h
  exact nodup_distinctSegments hd

theorem mem_of_mem_segmentsAs {t : SchemaType} {segs : List Property}
    (h : m.segmentsAs isRoot t = .ok segs) {p : Property} (hp : p ∈ segs) :
    ∃ types, m.contributors t = .ok types ∧ (∃ u ∈ types, p ∈ u.properties) ∧
      m.isSegment isRoot p = .ok true := by
  obtain ⟨types, htypes, hd⟩ := segmentsAs_eq_ok h
  obtain ⟨hm, _, hq⟩ := mem_of_mem_distinctSegments hd hp
  exact ⟨types, htypes, List.mem_flatMap.mp hm, hq⟩

/-- Of each canonical name that qualifies one segment is listed. -/
theorem exists_mem_segmentsAs {t u : SchemaType} {types : List SchemaType} {segs : List Property}
    (h : m.segmentsAs isRoot t = .ok segs) (htypes : m.contributors t = .ok types) (hu : u ∈ types)
    {p : Property} (hp : p ∈ u.properties) (hq : m.isSegment isRoot p = .ok true) :
    ∃ q ∈ segs, q.canonicalName = p.canonicalName := by
  obtain ⟨types', htypes', hd⟩ := segmentsAs_eq_ok h
  rw [htypes] at htypes'
  cases htypes'
  exact exists_mem_distinctSegments hd (List.mem_flatMap.mpr ⟨u, hu, hp⟩) List.not_mem_nil hq

namespace Closed

theorem exists_segmentsAs (hm : m.Closed) (isRoot : Bool) {t : SchemaType} (ht : m.Knows t) :
    ∃ segs, m.segmentsAs isRoot t = .ok segs := by
  obtain ⟨types, htypes, hknown⟩ := hm.exists_contributors ht
  have htargets : ∀ p ∈ types.flatMap (·.properties), ∃ target, m.targetType p = .ok target := by
    intro p hp
    obtain ⟨u, hu, hpu⟩ := List.mem_flatMap.mp hp
    exact hm.exists_target (hknown u hu) hpu
  obtain ⟨segs, hsegs⟩ := exists_distinctSegments isRoot htargets []
  exact ⟨segs, by rw [segmentsAs, htypes, ok_bind, hsegs]⟩

/-- A segment of a type of a closed model leads to a type of the model. -/
theorem exists_target_of_segment (hm : m.Closed) {t : SchemaType} (ht : m.Knows t)
    {segs : List Property} (h : m.segmentsAs isRoot t = .ok segs) {p : Property} (hp : p ∈ segs) :
    ∃ target, m.targetType p = .ok target := by
  obtain ⟨types, htypes, ⟨u, hu, hpu⟩, _⟩ := mem_of_mem_segmentsAs h hp
  exact hm.exists_target (hm.knows_of_mem_contributors ht htypes u hu) hpu

end Closed

end CsdlRoutes.Schema.Model
