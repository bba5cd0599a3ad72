import CsdlRoutes.Proofs.Route.Address
import CsdlRoutes.Proofs.Route.Admissible
import CsdlRoutes.Proofs.Schema.ReorderedGraph

/-!
# Routes and the order of declarations

The order of types and properties decides in which order a walk hands out the routes, and nothing
else. The same routes are admissible in a reordered model, and each of them looks the same from
outside.

* `Admissible.reordered`: admissible routes do not depend on the order.
* `forest_perm`, `namesakes_reordered`: walks hand out the same routes, and the routes look the same.
* `byPath_eq_of_perm`: rows with distinct paths have one order by path.
-/

namespace CsdlRoutes.Route

open Schema (Model Property SchemaType)

variable {m m' : Model} {cap : Nat}

/-! ## Admissible routes -/

theorem Starts.reordered (h : m.Reordered m') (hm : m.Tidy) (hm' : m'.Tidy) {p : Property}
    (hp : Starts m p) : Starts m' p := by
  obtain ⟨c, segs, hc, hsegs, hmem⟩ := hp
  obtain ⟨c', hc', hcc'⟩ := h.rootContainer hc
  obtain ⟨segs', hsegs', hall⟩ :=
    h.mem_segmentsAs hm hm' hcc' (Model.knows_rootContainer hc') hsegs
  exact ⟨c', segs', hc', hsegs', hall p hmem⟩

theorem Continues.reordered (h : m.Reordered m') (hm : m.Tidy) (hm' : m'.Tidy) {p q : Property}
    (hpq : Continues m p q) : Continues m' p q := by
  obtain ⟨t, segs, ht, hsegs, hmem⟩ := hpq
  obtain ⟨u, hu, htu⟩ := h.targetType ht
  rw [Model.segments, h.isRootContainer_eq htu] at hsegs
  obtain ⟨segs', hsegs', hall⟩ := h.mem_segmentsAs hm hm' htu (Model.knows_targetType hu) hsegs
  exact ⟨u, segs', hu, hsegs', hall q hmem⟩

theorem Admissible.reordered (h : m.Reordered m') (hm : m.Tidy) (hm' : m'.Tidy)
    {route : List Property} (hroute : Admissible m cap route) : Admissible m' cap route where
  starts := by
    obtain ⟨p, hp, hstarts⟩ := hroute.starts
    exact ⟨p, hp, hstarts.reordered h hm hm'⟩
  continues := hroute.continues.imp fun _ _ hpq => hpq.reordered h hm hm'
  distinct := hroute.distinct
  resources := fun p hp => h.isReference_eq p ▸ hroute.resources p hp
  short := hroute.short

/-- Walks through models that differ in their order alone hand out the same nodes. -/
theorem forest_perm (h : m.Reordered m') (hm : m.Tidy) (hm' : m'.Tidy) {rs rs' : List Node}
    (hrs : roots m = .ok rs) (hrs' : roots m' = .ok rs') :
    (forest m cap rs.reverse).Perm (forest m' cap rs'.reverse) := by
  refine (List.perm_ext_iff_of_nodup (nodup_forest_roots hm.closed hrs)
    (nodup_forest_roots hm'.closed hrs')).mpr fun n => ?_
  rw [mem_forest_iff_admissible hm.closed hrs, mem_forest_iff_admissible hm'.closed hrs']
  exact ⟨fun hn => hn.reordered h hm hm', fun hn => hn.reordered h.symm hm' hm⟩

/-! ## What routes look like -/

theorem namesakes_reordered (h : m.Reordered m') (hm : m.Tidy) (hm' : m'.Tidy) :
    Namesakes m m' where
  entityContainer := h.entityContainer
  getType := by
    intro name t ht
    obtain ⟨u, hu, hreordered⟩ := h.getType ht
    refine ⟨u, hu, hreordered.name, fun bases hbases => ?_⟩
    obtain ⟨bases', hbases', hrel⟩ := h.baseTypes hm hm' hreordered hbases
    refine ⟨bases', hbases', ?_⟩
    rw [← List.forall₂_eq_eq_eq, List.forall₂_map_left_iff, List.forall₂_map_right_iff]
    exact hrel.imp fun _ _ hsame => hsame.name

/-! ## Listings -/

/-- The rows of a listing have the paths of the routes. -/
theorem paths_eq_of_outlines {nodes : List Node} {os : List Outline} {listed : List Row}
    (hos : nodes.mapM (Node.outline m) = .ok os) (hlisted : nodes.mapM (Node.row m) = .ok listed) :
    listed.map Row.path = os.map Outline.path := by
  have hrows := mapM_eq_ok.mp hlisted
  have houtlines := mapM_eq_ok.mp hos
  clear hos hlisted
  induction hrows generalizing os with
  | nil =>
    cases houtlines
    rfl
  | @cons n row nodes listed hrow _ ih =>
    cases houtlines with
    | @cons _ o _ os ho hrest =>
      obtain ⟨path, hpath, hrow⟩ := bind_eq_ok.mp hrow
      obtain ⟨path', _, hpath', _, rfl⟩ := outline_eq_ok_iff.mp ho
      rw [hpath] at hpath'
      cases hpath'
      cases hrow
      rw [List.map_cons, List.map_cons, ih hrest]

/-- What the routes look like that a walk through a model hands out, in this order. -/
def Hands (m : Model) (cap : Nat) (os : List Outline) : Prop :=
  ∃ w nodes, Walk.start m cap = .ok w ∧ w.Lists nodes ∧ nodes.mapM (Node.outline m) = .ok os

/-- In models that differ in their order alone, walks hand out routes that look the same, and the
listings have the same rows. -/
theorem hands_reordered (h : m.Reordered m') (hm : m.Tidy) (hm' : m'.Tidy)
    (hroot : ∃ c, m.rootContainer = .ok c) (cap : Nat) :
    ∃ os os' listed listed', Hands m cap os ∧ Hands m' cap os' ∧ os.Perm os' ∧
      rows m cap = .ok listed ∧ rows m' cap = .ok listed' ∧ listed.Perm listed' ∧
      listed.map Row.path = os.map Outline.path := by
  obtain ⟨c, hc⟩ := hroot
  obtain ⟨c', hc', _⟩ := h.rootContainer hc
  obtain ⟨w, hw⟩ := (exists_walk_iff hm.closed cap).mpr ⟨c, hc⟩
  obtain ⟨w', hw'⟩ := (exists_walk_iff hm'.closed cap).mpr ⟨c', hc'⟩
  obtain ⟨rs, hrs, hlists, hlisting⟩ := lists_forest hm.closed hw
  obtain ⟨rs', hrs', hlists', hlisting'⟩ := lists_forest hm'.closed hw'
  have hperm : (forest m cap rs.reverse).Perm (forest m' cap rs'.reverse) :=
    forest_perm h hm hm' hrs hrs'
  have hsame := namesakes_reordered h hm hm'
  obtain ⟨os, hos⟩ := exists_mapM_ok
    fun n (hn : n ∈ forest m cap rs.reverse) => exists_outline hm.closed hrs hn
  obtain ⟨os', hos', hosperm⟩ := mapM_perm (fun _ _ ho => outline_namesakes hsame ho) hperm hos
  obtain ⟨listed, hlisted⟩ := exists_mapM_ok
    fun n (hn : n ∈ forest m cap rs.reverse) => exists_row hm.closed hrs hn
  obtain ⟨listed', hlisted', hlistedperm⟩ :=
    mapM_perm (fun _ _ hrow => row_namesakes hsame hrow) hperm hlisted
  refine ⟨os, os', listed, listed', ⟨w, _, hw, hlists, hos⟩, ⟨w', _, hw', hlists', hos'⟩, hosperm,
    ?_, ?_, hlistedperm, paths_eq_of_outlines hos hlisted⟩
  · rw [rows_eq_mapM hlisting, hlisted]
  · rw [rows_eq_mapM hlisting', hlisted']

theorem withoutReferences_perm {listed listed' : List Row} (h : listed.Perm listed') :
    (withoutReferences listed).Perm (withoutReferences listed') := h.filter _

theorem pairwise_byPath (listed : List Row) :
    (byPath listed).Pairwise fun a b => a.path ≤ b.path := by
  have hsorted : (byPath listed).Pairwise fun a b => decide (a.path ≤ b.path) = true :=
    List.pairwise_mergeSort
      (fun a b c hab hbc => by
        simpa using String.le_trans (of_decide_eq_true hab) (of_decide_eq_true hbc))
      (fun a b => by simpa using String.le_total a.path b.path) listed
  simpa only [decide_eq_true_eq] using hsorted

/-- Rows with distinct paths have one order by path alone. -/
theorem byPath_eq_of_perm {listed listed' : List Row} (h : listed.Perm listed')
    (hdistinct : (listed.map Row.path).Nodup) : byPath listed = byPath listed' := by
  have hperm : (byPath listed).Perm (byPath listed') :=
    (List.mergeSort_perm _ _).trans (h.trans (List.mergeSort_perm _ _).symm)
  refine List.Perm.eq_of_pairwise ?_ (pairwise_byPath listed) (pairwise_byPath listed') hperm
  intro a b ha hb hab hba
  refine List.inj_on_of_nodup_map hdistinct ((List.mergeSort_perm _ _).mem_iff.mp ha) ?_
    (String.le_antisymm hab hba)
  exact h.mem_iff.mpr ((List.mergeSort_perm _ _).mem_iff.mp hb)

end CsdlRoutes.Route
