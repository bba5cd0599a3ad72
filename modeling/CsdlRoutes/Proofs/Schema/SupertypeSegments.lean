import CsdlRoutes.Proofs.Route.Totality
import CsdlRoutes.Proofs.Schema.RegularModel
import CsdlRoutes.Proofs.Schema.SegmentList

/-!
# Segments through a supertype

A resource may be addressed through any type above its own, and nothing is lost by that: whatever a
type contributes to the segments of a subtype, it contributes to those of the supertype as well. The
types above a type are in a row, so what is above the subtype is above the supertype, or the same, or
between the two and hence below the supertype. What is below the subtype is below the supertype. That
the supertype may be the entity container, where every property is a segment, only adds segments.
That the subtype may be it is excluded, since a container has no base type.

* `Grounded.mem_contributors_iff`: a type contributes when it is above or below.
* `Grounded.contributors_subset`: the contributors of a subtype are among those of the supertype.
* `Closed.canonicalNames_subset`: the same of canonical names, given the container is no subtype.
* `supertype_offers_segments`: in the model of a document nothing is lost.
-/

namespace CsdlRoutes.Schema

namespace Model

variable {m : Model}

/-- A property that is a segment elsewhere is one at the entity container. -/
theorem isSegment_of_elsewhere {isRoot : Bool} {p : Property} (h : m.isSegment false p = .ok true) :
    m.isSegment isRoot p = .ok true := by
  cases isRoot with
  | false => exact h
  | true => rfl

namespace Grounded

/-- The types that contribute to the segments of a type are the type itself, the types that it
descends from and those that descend from it. -/
theorem mem_contributors_iff (hm : m.Grounded) (hnames : m.types.names.Nodup) {t v : SchemaType}
    (ht : m.Knows t) (hv : m.Knows v) {types : List SchemaType} (h : m.contributors t = .ok types) :
    v ∈ types ↔ v = t ∨ m.Descends t v ∨ m.Descends v t := by
  obtain ⟨bases, derived, hbases, hderived, rfl⟩ := contributors_eq_ok h
  rw [List.mem_cons, List.mem_append, hm.mem_derivedTypes_iff_descends hv hderived]
  constructor
  · rintro (rfl | hbase | ⟨_, hbelow⟩)
    · exact Or.inl rfl
    · exact Or.inr (Or.inl (hm.descends_of_hasBase ht ⟨bases, hbases, hbase⟩))
    · exact Or.inr (Or.inr hbelow)
  · intro hrelated
    by_cases hsame : v = t
    · exact Or.inl hsame
    · rcases hrelated with rfl | habove | hbelow
      · exact absurd rfl hsame
      · obtain ⟨bases', hbases', hmem⟩ := hm.hasBase_of_descends hnames ht hv habove hsame
        rw [hbases] at hbases'
        cases hbases'
        exact Or.inr (Or.inl hmem)
      · exact Or.inr (Or.inr ⟨fun hname => hsame (hm.eq_of_name_eq hv ht hname), hbelow⟩)

/-- Whatever contributes to the segments of a subtype contributes to those of the supertype. -/
theorem contributors_subset (hm : m.Grounded) (hnames : m.types.names.Nodup) {t d : SchemaType}
    (ht : m.Knows t) (hd : m.Knows d) (hdescends : m.Descends d t) {below types : List SchemaType}
    (hbelow : m.contributors d = .ok below) (htypes : m.contributors t = .ok types)
    {v : SchemaType} (hv : m.Knows v) (h : v ∈ below) : v ∈ types := by
  rw [hm.mem_contributors_iff hnames ht hv htypes]
  rcases (hm.mem_contributors_iff hnames hd hv hbelow).mp h with rfl | habove | hunder
  · exact Or.inr (Or.inr hdescends)
  · -- Two types above the subtype: the supertype and the contributor.
    rcases hm.descends_cases hnames hdescends habove with hname | hup | hbetween
    · exact Or.inl (hm.eq_of_name_eq hv ht hname.symm)
    · exact Or.inr (Or.inl hup)
    · exact Or.inr (Or.inr hbetween)
  · exact Or.inr (Or.inr (Trans.trans hunder hdescends))

end Grounded

/-- A type that is not the entity container has each of its segments under any type above it. -/
theorem Closed.canonicalNames_subset (hm : m.Closed) (hnames : m.types.names.Nodup)
    {t d : SchemaType} (ht : m.Knows t) (hd : m.Knows d) (hdescends : m.Descends d t)
    (hplain : m.isRootContainer d = false) {below segs : List Property}
    (hbelow : m.segments d = .ok below) (hsegs : m.segments t = .ok segs) :
    below.map Property.canonicalName ⊆ segs.map Property.canonicalName := by
  intro name hname
  obtain ⟨p, hp, rfl⟩ := List.mem_map.mp hname
  rw [segments, hplain] at hbelow
  obtain ⟨fromBelow, hfromBelow, ⟨v, hv, hpv⟩, hqualifies⟩ := mem_of_mem_segmentsAs hbelow hp
  have hknown : m.Knows v := hm.knows_of_mem_contributors hd hfromBelow v hv
  obtain ⟨types, htypes, _⟩ := segmentsAs_eq_ok hsegs
  have hcontributes : v ∈ types :=
    hm.grounded.contributors_subset hnames ht hd hdescends hfromBelow htypes hknown hv
  obtain ⟨q, hq, hsame⟩ :=
    exists_mem_segmentsAs hsegs htypes hcontributes hpv (isSegment_of_elsewhere hqualifies)
  exact List.mem_map.mpr ⟨q, hq, hsame⟩

end Model

/-! ## Models of documents -/

variable {version : String} {document : Document} {m : Model}

theorem isRootContainer_of_descends (h : extract version document = .ok m) {t d : SchemaType}
    (hdescends : m.Descends d t) : m.isRootContainer d = false := by
  have hm := (closed_of_extract h).grounded
  obtain ⟨c, hc⟩ := exists_rootContainer_of_extract h
  rw [Model.isRootContainer, beq_eq_false_iff_ne]
  intro hname
  have hsame : c.name = d.name :=
    (hm.name_of_get? (Model.rootContainer_eq_ok hc).1).trans hname.symm
  have hcontainer : m.Descends c t := by
    rw [Model.Descends, hsame]
    exact hdescends
  exact hm.not_descends_container (nodup_names_of_extract h) (baseless_of_extract h) hc hcontainer

theorem canonicalNames_subset_of_descends (h : extract version document = .ok m)
    {t d : SchemaType} (ht : m.Knows t) (hd : m.Knows d) (hdescends : m.Descends d t)
    {below segs : List Property} (hbelow : m.segments d = .ok below)
    (hsegs : m.segments t = .ok segs) :
    below.map Property.canonicalName ⊆ segs.map Property.canonicalName :=
  (closed_of_extract h).canonicalNames_subset (nodup_names_of_extract h) ht hd hdescends
    (isRootContainer_of_descends h hdescends) hbelow hsegs

/-- **Addressing through a supertype never loses a segment.** In the model of a document every type
has segments and subtypes, and each canonical name among the segments of a subtype is among those of
the supertype. Types that descend from each other have the same canonical names. -/
theorem supertype_offers_segments (h : extract version document = .ok m) :
    (∀ t, m.Knows t → ∃ derived segs, m.derivedTypes t = .ok derived ∧ m.segments t = .ok segs ∧
      ∀ d ∈ derived, ∃ below, m.segments d = .ok below ∧
        below.map Property.canonicalName ⊆ segs.map Property.canonicalName) ∧
    ∀ t u, m.Knows t → m.Knows u → m.Descends t u → m.Descends u t →
      ∃ segs segs', m.segments t = .ok segs ∧ m.segments u = .ok segs' ∧
        ∀ name, name ∈ segs.map Property.canonicalName ↔
          name ∈ segs'.map Property.canonicalName := by
  have hm := closed_of_extract h
  refine ⟨?_, ?_⟩
  · intro t ht
    obtain ⟨derived, hderived, hknown⟩ := hm.exists_derivedTypes t
    obtain ⟨segs, hsegs⟩ := hm.exists_segmentsAs (m.isRootContainer t) ht
    refine ⟨derived, segs, hderived, hsegs, ?_⟩
    intro d hd
    obtain ⟨below, hbelow⟩ := hm.exists_segmentsAs (m.isRootContainer d) (hknown d hd)
    have hdescends :=
      ((hm.grounded.mem_derivedTypes_iff_descends (hknown d hd) hderived).mp hd).2
    exact ⟨below, hbelow,
      canonicalNames_subset_of_descends h ht (hknown d hd) hdescends hbelow hsegs⟩
  · intro t u ht hu htu hut
    obtain ⟨segs, hsegs⟩ := hm.exists_segmentsAs (m.isRootContainer t) ht
    obtain ⟨segs', hsegs'⟩ := hm.exists_segmentsAs (m.isRootContainer u) hu
    refine ⟨segs, segs', hsegs, hsegs', fun name => ⟨?_, ?_⟩⟩
    · exact fun hname => canonicalNames_subset_of_descends h hu ht htu hsegs hsegs' hname
    · exact fun hname => canonicalNames_subset_of_descends h ht hu hut hsegs' hsegs hname

/-- The odd document has types that derive from each other and one that derives from its entity
container. -/
theorem crookedDocument_supertypes_offer :
    ∃ m, extract "4.0" Route.crookedDocument = .ok m ∧
    (∀ t, m.Knows t → ∃ derived segs, m.derivedTypes t = .ok derived ∧ m.segments t = .ok segs ∧
      ∀ d ∈ derived, ∃ below, m.segments d = .ok below ∧
        below.map Property.canonicalName ⊆ segs.map Property.canonicalName) ∧
    ∀ t u, m.Knows t → m.Knows u → m.Descends t u → m.Descends u t →
      ∃ segs segs', m.segments t = .ok segs ∧ m.segments u = .ok segs' ∧
        ∀ name, name ∈ segs.map Property.canonicalName ↔
          name ∈ segs'.map Property.canonicalName := by
  obtain ⟨m, h⟩ : ∃ m, extract "4.0" Route.crookedDocument = .ok m := ⟨_, rfl⟩
  exact ⟨m, h, supertype_offers_segments h⟩

end CsdlRoutes.Schema
