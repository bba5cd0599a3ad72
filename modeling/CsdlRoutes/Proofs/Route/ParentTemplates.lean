import CsdlRoutes.Proofs.Route.Placeholders

/-!
# Templates of routes that go on

The template of a route is the beginning of the template of every route that goes on from it. What is
written for the segments that are there stays: the placeholders of a row of segments are named with
regard to those before them alone, and so are the casts. Only the last segment, which had no
placeholder so far, gets one if it is a collection. A route that ends in a mere reference is not gone
on from, for the part that marks the reference stands at the end of its template.

This needs no more of a model than that the targets of the route can be looked up. A walk goes on
from nodes for which they were, so it holds of each node that a walk hands out and the node above it,
even if the walk fails later on.

* `keyParametersFrom_append`, `casts_concat`, `templateParts_append`: what becomes of longer routes.
* `template_concat`: the template of a route with one more segment.
* `reach_of_mem_listingFrom`: whatever is listed is reached from above, in any model.
* `template_extends_parent`: routes with one more segment, and the nodes of a walk.
-/

namespace CsdlRoutes.Route

open Schema (Model Property SchemaType)

variable {m : Model} {route : List Property} {last p : Property} {keys : List KeyParameter}

/-! ## Placeholders -/

/-- The placeholders of a longer route are those of its beginning and further ones, named with regard
to the stems of the beginning. -/
theorem keyParametersFrom_append {used : List String} {position : Nat}
    (h : keyParametersFrom m used position route = .ok keys) :
    ∃ later, ∀ more, keyParametersFrom m used position (route ++ more) =
      (keys ++ ·) <$> keyParametersFrom m (used ++ later) (position + route.length) more := by
  -- The stems in use grow along the route, so `later` collects those that it adds.
  induction route generalizing used position keys with
  | nil =>
    cases h
    exact ⟨[], fun more => by rw [List.append_nil]; exact (id_map _).symm⟩
  | cons p rest ih =>
    have hposition : position + (p :: rest).length = position + 1 + rest.length := by
      rw [List.length_cons]
      omega
    rw [hposition]
    rcases keyParametersFrom_cons_eq_ok h with
      ⟨hsingle, hrest⟩ | ⟨hcollection, target, stem, rest', htarget, rfl, hrest, rfl⟩
    · obtain ⟨later, hlater⟩ := ih hrest
      refine ⟨later, fun more => ?_⟩
      rw [List.cons_append, keyParametersFrom, if_neg (by simp [hsingle]), hlater]
    · obtain ⟨later, hlater⟩ := ih hrest
      refine ⟨(lowerFirst target.shortName ++ "Id") :: later, fun more => ?_⟩
      rw [List.cons_append, keyParametersFrom, if_pos hcollection, htarget, ok_bind]
      dsimp only
      rw [hlater, List.append_assoc, List.singleton_append]
      cases keyParametersFrom m _ _ more <;> rfl

theorem exists_key_of_segment (h : ∃ target, m.targetType last = .ok target) (used : List String)
    (position : Nat) : ∃ new : Option KeyParameter,
      keyParametersFrom m used position [last] = .ok new.toList ∧
      new.map (fun k => (k.segment, k.position)) =
        if last.isCollection then some (last, position) else none := by
  rw [keyParametersFrom]
  split
  · obtain ⟨target, htarget⟩ := h
    rw [htarget]
    exact ⟨some _, rfl, rfl⟩
  · exact ⟨none, rfl, rfl⟩

/-- A route with one more segment has the placeholders that it had, and one for the segment that was
the last if that is a collection. -/
theorem exists_keyParameters_concat
    (h : ∀ q ∈ route ++ [last], ∃ target, m.targetType q = .ok target) (p : Property) :
    ∃ keys, ∃ new : Option KeyParameter, keyParameters m (route ++ [last]) = .ok keys ∧
      keyParameters m (route ++ [last] ++ [p]) = .ok (keys ++ new.toList) ∧
      new.map (fun k => (k.segment, k.position)) =
        if last.isCollection then some (last, route.length) else none := by
  obtain ⟨hroute, hlast⟩ := List.forall_mem_append.mp h
  obtain ⟨keys, hkeys⟩ := exists_keyParametersFrom hroute [] 0
  obtain ⟨later, hlater⟩ := keyParametersFrom_append hkeys
  obtain ⟨new, hnew, hwhere⟩ :=
    exists_key_of_segment (hlast last List.mem_cons_self) ([] ++ later) (0 + route.length)
  refine ⟨keys, new, ?_, ?_, by rw [hwhere, Nat.zero_add]⟩
  · rw [keyParameters, List.dropLast_concat, hkeys]
  · rw [keyParameters, List.dropLast_concat, hlater, hnew]
    rfl

/-! ## Casts -/

theorem castsFrom_append (previous? : Option Property) (route more : List Property) :
    castsFrom m previous? (route ++ more) = do
      let cs ← castsFrom m previous? route
      let cs' ← castsFrom m (route.getLast?.or previous?) more
      return cs ++ cs' := by
  induction route generalizing previous? with
  | nil => exact (bind_pure _).symm
  | cons p rest ih =>
    have hlast : (p :: rest).getLast?.or previous? = rest.getLast?.or (some p) := by
      rw [List.getLast?_cons]
      cases rest.getLast? <;> rfl
    rw [List.cons_append, castsFrom, castsFrom, hlast, ih]
    simp only [bind_assoc, pure_bind, List.cons_append]

theorem casts_concat (m : Model) (route : List Property) (last p : Property) :
    casts m (route ++ [last] ++ [p]) = do
      let cs ← casts m (route ++ [last])
      let cast ← castBetween m last p
      return cs ++ [cast] := by
  rw [casts, casts, castsFrom_append, List.getLast?_concat, Option.some_or]
  simp only [castsFrom, castBefore, bind_assoc]
  rfl

/-! ## Parts -/

theorem templateParts_append (keys : List KeyParameter) (position : Nat)
    (segments more : List (Property × Option String)) :
    templateParts keys position (segments ++ more) =
      templateParts keys position segments ++
        templateParts keys (position + segments.length) more := by
  induction segments generalizing position with
  | nil => rfl
  | cons s rest ih =>
    obtain ⟨p, cast⟩ := s
    have hposition : position + ((p, cast) :: rest).length = position + 1 + rest.length := by
      rw [List.length_cons]
      omega
    rw [List.cons_append, templateParts, templateParts, ih, hposition]
    simp only [List.append_assoc, List.cons_append]

/-- The parts of some segments depend on the placeholders at their positions alone. -/
theorem templateParts_congr {keys keys' : List KeyParameter} {position : Nat}
    {segments : List (Property × Option String)}
    (h : ∀ i, position ≤ i → i < position + segments.length →
      keys.find? (·.position == i) = keys'.find? (·.position == i)) :
    templateParts keys position segments = templateParts keys' position segments := by
  induction segments generalizing position with
  | nil => rfl
  | cons s rest ih =>
    obtain ⟨p, cast⟩ := s
    rw [List.length_cons] at h
    have hrest : templateParts keys (position + 1) rest = templateParts keys' (position + 1) rest :=
      ih fun i hle hlt => h i (by omega) (by omega)
    rw [templateParts, templateParts, h position (Nat.le_refl _) (by omega), hrest]

section Slots

variable {new : Option KeyParameter} {count : Nat} (hkeys : ∀ k ∈ keys, k.position < count)
  (hnew : ∀ k ∈ new, k.position = count)

include hkeys

theorem find?_of_le {i : Nat} (hi : count ≤ i) : keys.find? (·.position == i) = none := by
  refine List.find?_eq_none.mpr fun k hk => ?_
  have hk := hkeys k hk
  rw [beq_iff_eq]
  omega

include hnew

/-- A further placeholder is found at its own position, and the others where they were. -/
theorem find?_concat (i : Nat) : (keys ++ new.toList).find? (·.position == i) =
    if i = count then new else keys.find? (·.position == i) := by
  rw [List.find?_append]
  split
  · rename_i hi
    rw [find?_of_le hkeys (Nat.le_of_eq hi.symm), Option.none_or, hi]
    cases new with
    | none => rfl
    | some k => exact List.find?_cons_of_pos (beq_iff_eq.mpr (hnew k rfl))
  · rename_i hi
    have hother : new.toList.find? (·.position == i) = none := by
      refine List.find?_eq_none.mpr fun k hk => ?_
      rw [beq_iff_eq, hnew k (Option.mem_toList.mp hk)]
      exact Ne.symm hi
    rw [hother, Option.or_none]

/-- The parts of a row of segments stay when another segment follows. The segment that was the last
gets its placeholder behind its name. -/
theorem templateParts_concat {segments : List (Property × Option String)}
    (hcount : segments.length = count) (last p : Property) (final cast : Option String) :
    templateParts (keys ++ new.toList) 0 (segments ++ [(last, final)] ++ [(p, cast)]) =
      templateParts keys 0 (segments ++ [(last, final)]) ++
        ((new.map fun k => "\x7b" ++ k.name ++ "\x7d").toList ++ cast.toList ++ [p.name]) := by
  have hfound := find?_concat hkeys hnew
  have hearlier : templateParts (keys ++ new.toList) 0 segments = templateParts keys 0 segments := by
    refine templateParts_congr fun i _ hi => ?_
    rw [hfound, if_neg (by omega)]
  have hlast : (keys ++ new.toList).find? (·.position == count) = new := by rw [hfound, if_pos rfl]
  have hbehind : (keys ++ new.toList).find? (·.position == count + 1) = none := by
    rw [hfound, if_neg (Nat.succ_ne_self count), find?_of_le hkeys (Nat.le_succ count)]
  have hold : templateParts keys 0 (segments ++ [(last, final)]) =
      templateParts keys 0 segments ++ (final.toList ++ [last.name]) := by
    rw [templateParts_append, hcount, Nat.zero_add, templateParts,
      find?_of_le hkeys (Nat.le_refl count)]
    rfl
  have hpair : templateParts (keys ++ new.toList) count [(last, final), (p, cast)] =
      (final.toList ++ [last.name]) ++
        ((new.map fun k => "\x7b" ++ k.name ++ "\x7d").toList ++ cast.toList ++ [p.name]) := by
    simp [templateParts, hlast, hbehind]
  rw [hold, List.append_assoc segments, templateParts_append, hearlier, hcount, Nat.zero_add,
    List.singleton_append, hpair]
  simp only [List.append_assoc]

end Slots

/-! ## Templates -/

/-- What is written for a segment behind a route: the placeholder of the segment before it, its cast,
its name, and a last part if it is a mere reference. -/
def continuation (m : Model) (key? : Option KeyParameter) (cast : Option String) (p : Property) :
    List String :=
  (key?.map fun k => "\x7b" ++ k.name ++ "\x7d").toList ++ cast.toList ++ [p.name] ++
    if m.isReference p then [referenceSegment] else []

theorem isReference_concat (m : Model) (route : List Property) (p : Property) :
    isReference m (route ++ [p]) = m.isReference p := by
  rw [isReference, List.getLast?_concat]
  rfl

/-- A template goes on behind its last part, if that does not mark a reference. -/
theorem assemble_concat {new : Option KeyParameter} (hkeys : ∀ k ∈ keys, k.position < route.length)
    (hnew : ∀ k ∈ new, k.position = route.length) {cs : List (Option String)}
    (hcs : cs.length = (route ++ [last]).length) (hplain : m.isReference last = false)
    (cast : Option String) (p : Property) :
    assemble m (route ++ [last] ++ [p]) (keys ++ new.toList) (cs ++ [cast]) =
      assemble m (route ++ [last]) keys cs ++
        ("/" ++ "/".intercalate (continuation m new cast p)) := by
  rcases cs.eq_nil_or_concat with rfl | ⟨before, final, rfl⟩
  · simp at hcs
  rw [List.concat_eq_append] at hcs ⊢
  have hlength : route.length = before.length := by simpa using hcs.symm
  have hzip : (route ++ [last]).zip (before ++ [final]) = route.zip before ++ [(last, final)] :=
    List.zip_append hlength
  have hzip' : (route ++ [last] ++ [p]).zip (before ++ [final] ++ [cast]) =
      route.zip before ++ [(last, final)] ++ [(p, cast)] := by
    rw [List.zip_append hcs.symm, hzip]
    rfl
  have hcount : (route.zip before).length = route.length := by
    rw [List.length_zip, ← hlength, Nat.min_self]
  have hparts := templateParts_concat hkeys hnew hcount last p final cast
  have hne : templateParts keys 0 (route.zip before ++ [(last, final)]) ≠ [] := by
    simp [templateParts_append, templateParts]
  have hcontinues : continuation m new cast p ≠ [] := by simp [continuation]
  unfold assemble
  dsimp only
  rw [isReference_concat, isReference_concat, hplain, hzip, hzip', hparts, if_neg Bool.false_ne_true,
    List.append_nil, List.append_assoc, ← continuation, String.intercalate_append_of_ne_nil hne
      hcontinues]
  simp only [String.append_assoc]

/-- The template of a route with one more segment goes on from that of the route, or fails as that
does, or because the cast cannot be told. -/
theorem template_concat {new : Option KeyParameter}
    (hkeys : keyParameters m (route ++ [last]) = .ok keys)
    (hkeys' : keyParameters m (route ++ [last] ++ [p]) = .ok (keys ++ new.toList))
    (hnew : ∀ k ∈ new, k.position = route.length) (hplain : m.isReference last = false) :
    template m (route ++ [last] ++ [p]) = do
      let path ← template m (route ++ [last])
      let cast ← castBetween m last p
      return path ++ ("/" ++ "/".intercalate (continuation m new cast p)) := by
  have hearlier : ∀ k ∈ keys, k.position < route.length := by
    intro k hk
    have hrange := (positions_keyParameters hkeys).subset (List.mem_map_of_mem hk)
    rw [List.dropLast_concat] at hrange
    have hlt := List.mem_range'_1.mp hrange
    omega
  rw [template, template, hkeys, hkeys', ok_bind, ok_bind, casts_concat]
  cases hcs : casts m (route ++ [last]) with
  | error failure => rfl
  | ok cs =>
    cases castBetween m last p with
    | error failure => rfl
    | ok cast =>
      have hlength := length_castsFrom hcs
      exact congrArg Except.ok (assemble_concat hearlier hnew hlength hplain cast p)

theorem exists_template_concat {new : Option KeyParameter}
    (hkeys : keyParameters m (route ++ [last]) = .ok keys)
    (hkeys' : keyParameters m (route ++ [last] ++ [p]) = .ok (keys ++ new.toList))
    (hnew : ∀ k ∈ new, k.position = route.length) (hplain : m.isReference last = false)
    {path : String} (hpath : template m (route ++ [last]) = .ok path)
    (hsettled : CastSettled m last p) : ∃ cast, castBetween m last p = .ok cast ∧
      template m (route ++ [last] ++ [p]) =
        .ok (path ++ ("/" ++ "/".intercalate (continuation m new cast p))) := by
  obtain ⟨cast, hcast⟩ := exists_castBetween_iff.mpr hsettled
  refine ⟨cast, hcast, ?_⟩
  rw [template_concat hkeys hkeys' hnew hplain, hpath, hcast]
  rfl

theorem position_of_where {new : Option KeyParameter}
    (h : new.map (fun k => (k.segment, k.position)) =
      if last.isCollection then some (last, route.length) else none) :
    ∀ k ∈ new, k.position = route.length := by
  rintro k rfl
  split at h
  · exact congrArg Prod.snd (Option.some.inj h)
  · cases h

/-! ## Nodes of a walk -/

variable {cap : Nat} {n d : Node}

theorem mem_nodes_concat {es : List Emission} (h : d ∈ (Emission.concat es).nodes) :
    ∃ e ∈ es, d ∈ e.nodes := by
  induction es with
  | nil => cases h
  | cons e es ih =>
    rw [Emission.concat, Emission.append] at h
    split at h
    · exact ⟨e, List.mem_cons_self, h⟩
    · rcases List.mem_append.mp h with h | h
      · exact ⟨e, List.mem_cons_self, h⟩
      · obtain ⟨f, hf, hd⟩ := ih h
        exact ⟨f, List.mem_cons_of_mem _ hf, hd⟩

/-- Whatever is listed from a node on can be reached downwards, even if the listing fails later on.
The induction is on the number of levels that are left. -/
theorem reach_of_mem_listingFrom (h : d ∈ (listingFrom m cap n).nodes) :
    Relation.ReflTransGen (Below m cap) n d := by
  induction hlevels : cap - n.depth using Nat.strongRecOn generalizing n with
  | ind levels ih =>
    rw [listingFrom_eq] at h
    cases hnodes : offspring m cap n with
    | error failure =>
      rw [hnodes] at h
      rw [List.mem_singleton.mp h]
    | ok nodes =>
      rw [hnodes] at h
      rcases List.mem_cons.mp h with rfl | h
      · exact .refl
      · obtain ⟨e, he, hd⟩ := mem_nodes_concat h
        obtain ⟨c, hc, rfl⟩ := List.mem_map.mp he
        have hbelow : Below m cap n c := ⟨nodes, hnodes, List.mem_reverse.mp hc⟩
        have hdepth := depth_of_below hbelow
        have hroom := (children_of_below hbelow).1
        exact .head hbelow (ih (cap - c.depth) (by omega) hd rfl)

theorem reach_of_mem_take {w : Walk} (hw : Walk.start m cap = .ok w) {count : Nat}
    (hd : d ∈ (w.take count).1.nodes) :
    ∃ rs, roots m = .ok rs ∧ ∃ r ∈ rs, Relation.ReflTransGen (Below m cap) r d := by
  obtain ⟨rs, hrs, rfl⟩ := walk_start_eq_ok hw
  have hdue : d ∈ (Emission.concat (rs.reverse.map (listingFrom m cap))).nodes := by
    rw [Walk.take_eq, Emission.taken] at hd
    split at hd
    · exact List.mem_of_mem_take hd
    · exact hd
  obtain ⟨e, he, hd⟩ := mem_nodes_concat hdue
  obtain ⟨r, hr, rfl⟩ := List.mem_map.mp he
  exact ⟨rs, hrs, r, List.mem_reverse.mp hr, reach_of_mem_listingFrom hd⟩

/-- Where a segment goes on from another one, the cast between them can be told, for the base types
of the target were needed to find its segments. -/
theorem castSettled_of_continues (h : Continues m last p) : CastSettled m last p := by
  obtain ⟨target, segs, htarget, hsegs, _⟩ := h
  obtain ⟨_, hcontributors, _⟩ := Model.segmentsAs_eq_ok hsegs
  obtain ⟨bases, _, hbases, _⟩ := Model.contributors_eq_ok hcontributors
  exact Or.inr ⟨target, htarget, Or.inr ⟨bases, hbases⟩⟩

/-- What a walk has looked up on its way to a node is enough to write the template of the node. -/
structure Node.Written (m : Model) (n : Node) : Prop where
  leads : ∀ q ∈ n.above, ∃ target, m.targetType q = .ok target
  template : ∃ path, template m n.route = .ok path

/-- One node below another one is written by going on from that. -/
theorem goes_on_of_below (hn : n.Written m) (h : Below m cap n d) :
    d.Written m ∧ ∃ keys keys' path path', keyParameters m n.route = .ok keys ∧
      keyParameters m d.route = .ok keys' ∧ keys <+: keys' ∧ template m n.route = .ok path ∧
      template m d.route = .ok path' ∧ ∃ rest, path' = path ++ "/" ++ rest := by
  obtain ⟨p, rfl⟩ : ∃ p, d = n.child p := ⟨d.property, Node.way_injective (way_of_below h)⟩
  obtain ⟨_, hplain, hcontinues, _⟩ := below_child_iff.mp h
  obtain ⟨target, _, htarget, _⟩ := hcontinues
  have hleads : ∀ q ∈ n.above.reverse ++ [n.property], ∃ target, m.targetType q = .ok target :=
    List.forall_mem_append.mpr ⟨fun q hq => hn.leads q (List.mem_reverse.mp hq),
      List.forall_mem_singleton.mpr ⟨target, htarget⟩⟩
  obtain ⟨keys, new, hkeys, hkeys', hwhere⟩ := exists_keyParameters_concat hleads p
  obtain ⟨path, hpath⟩ := hn.template
  rw [route_eq_concat] at hpath
  obtain ⟨cast, _, hpath'⟩ := exists_template_concat hkeys hkeys' (position_of_where hwhere) hplain
    hpath (castSettled_of_continues (below_child_iff.mp h).2.2.1)
  rw [← route_eq_concat] at hkeys hpath
  rw [← route_eq_concat, ← route_child] at hkeys' hpath'
  refine ⟨⟨List.forall_mem_cons.mpr ⟨⟨target, htarget⟩, hn.leads⟩, ⟨_, hpath'⟩⟩, keys, _, path, _,
    hkeys, hkeys', List.prefix_append _ _, hpath, hpath', _, (String.append_assoc ..).symm⟩

theorem written_of_reach {rs : List Node} (hrs : roots m = .ok rs) {r : Node} (hr : r ∈ rs)
    (h : Relation.ReflTransGen (Below m cap) r n) : n.Written m := by
  induction h with
  | refl =>
    obtain ⟨_, _, _, _, rfl⟩ := roots_eq_ok hrs
    obtain ⟨p, _, rfl⟩ := List.mem_map.mp hr
    exact ⟨List.forall_mem_nil _, ⟨_, rfl⟩⟩
  | tail _ hbelow ih => exact (goes_on_of_below ih hbelow).1

/-- **Templates extend that of the parent.** A route whose targets can be looked up and that does not
end in a reference keeps its placeholders when a segment follows, with at most one more, which is for
the segment that was the last. Its template goes on with that placeholder, the cast if there is one,
the name of the new segment, and the mark of a reference if it is one. There is a longer template
when there is the shorter one and the cast can be told, as is the case for all nodes of a walk. -/
theorem template_extends_parent (m : Model) :
    (∀ route last, (∀ q ∈ route ++ [last], ∃ target, m.targetType q = .ok target) →
      m.isReference last = false → ∀ p, ∃ keys, ∃ new : Option KeyParameter,
        keyParameters m (route ++ [last]) = .ok keys ∧
        keyParameters m (route ++ [last] ++ [p]) = .ok (keys ++ new.toList) ∧
        new.map (fun k => (k.segment, k.position)) =
          (if last.isCollection then some (last, route.length) else none) ∧
        template m (route ++ [last] ++ [p]) = (do
          let path ← template m (route ++ [last])
          let cast ← castBetween m last p
          return path ++ ("/" ++ "/".intercalate (continuation m new cast p))) ∧
        ((∃ path, template m (route ++ [last] ++ [p]) = .ok path) ↔
          (∃ path, template m (route ++ [last]) = .ok path) ∧ CastSettled m last p)) ∧
    ∀ cap w, Walk.start m cap = .ok w → ∀ count, ∀ n ∈ (w.take count).1.nodes, ∀ parent,
      n.parent? = some parent → ∃ keys keys' path path',
        keyParameters m parent.route = .ok keys ∧ keyParameters m n.route = .ok keys' ∧
        keys <+: keys' ∧ template m parent.route = .ok path ∧ template m n.route = .ok path' ∧
        ∃ rest, path' = path ++ "/" ++ rest := by
  constructor
  · intro route last hleads hplain p
    obtain ⟨keys, new, hkeys, hkeys', hwhere⟩ := exists_keyParameters_concat hleads p
    have hposition := position_of_where hwhere
    have hconcat := template_concat hkeys hkeys' hposition hplain
    refine ⟨keys, new, hkeys, hkeys', hwhere, hconcat, ?_⟩
    constructor
    · rintro ⟨path', hpath'⟩
      rw [hconcat] at hpath'
      obtain ⟨path, hpath, hpath'⟩ := bind_eq_ok.mp hpath'
      obtain ⟨cast, hcast, _⟩ := bind_eq_ok.mp hpath'
      exact ⟨⟨path, hpath⟩, exists_castBetween_iff.mp ⟨cast, hcast⟩⟩
    · rintro ⟨⟨path, hpath⟩, hsettled⟩
      obtain ⟨cast, _, hpath'⟩ := exists_template_concat hkeys hkeys' hposition hplain hpath hsettled
      exact ⟨_, hpath'⟩
  · intro cap w hw count n hn parent hparent
    obtain ⟨rs, hrs, r, hr, hreach⟩ := reach_of_mem_take hw hn
    rw [Node.parent?_eq_some_iff] at hparent
    rcases Relation.ReflTransGen.cases_tail hreach with rfl | ⟨b, hreach, hbelow⟩
    -- A node at the root has no parent.
    · have hdepth := depth_of_mem_roots hrs hr
      rw [Node.depth, hparent, Node.length_way, Node.depth] at hdepth
      omega
    · obtain rfl : b = parent := by
        have hway := way_of_below hbelow
        exact Node.way_injective ((List.cons.inj hway).2.symm.trans hparent)
      exact (goes_on_of_below (written_of_reach hrs hr hreach) hbelow).2

/-- Vehicles, some of which are trucks with a driver, who belongs elsewhere. -/
def fleet : Model where
  version := "4.0"
  space := "t"
  types :=
    [("t.vehicle", ⟨"t.vehicle", .entity, none, false, [],
       [⟨"parts", "t.vehicle", "t.part", true, true, true⟩]⟩),
     ("t.truck", ⟨"t.truck", .entity, some "t.vehicle", false, [],
       [⟨"driver", "t.truck", "t.person", false, true, false⟩]⟩),
     ("t.part", ⟨"t.part", .entity, none, false, [], []⟩),
     ("t.person", ⟨"t.person", .entity, none, false, [], []⟩),
     ("t.root", ⟨"t.root", .container, none, false, [],
       [⟨"vehicles", "t.root", "t.vehicle", true, true, true⟩]⟩)]
  entityContainer := "t.root"

theorem fleet_templates_extend :
    (let vehicles : Property := ⟨"vehicles", "t.root", "t.vehicle", true, true, true⟩
     let driver : Property := ⟨"driver", "t.truck", "t.person", false, true, false⟩
     template fleet [vehicles, driver] = .ok "/vehicles/\x7bvehicleId\x7d/t.truck/driver/$ref" ∧
       fleet.isReference vehicles = false ∧
       (∃ keys, ∃ new : Option KeyParameter, keyParameters fleet [vehicles] = .ok keys ∧
         keyParameters fleet [vehicles, driver] = .ok (keys ++ new.toList) ∧
         new.map (fun k => (k.segment, k.position)) = some (vehicles, 0))) ∧
    ∃ w, Walk.start fleet 3 = .ok w ∧ (∃ n ∈ (w.take 9).1.nodes, n.parent? ≠ none) ∧
      ∀ n ∈ (w.take 9).1.nodes, ∀ parent, n.parent? = some parent →
        ∃ path path', template fleet parent.route = .ok path ∧ template fleet n.route = .ok path' ∧
          ∃ rest, path' = path ++ "/" ++ rest := by
  constructor
  · intro vehicles driver
    have hplain : fleet.isReference vehicles = false := by decide
    obtain ⟨keys, new, hkeys, hkeys', hwhere, _⟩ := (template_extends_parent fleet).1 [] vehicles
      (List.forall_mem_singleton.mpr ⟨_, rfl⟩) hplain driver
    exact ⟨by rfl, hplain, keys, new, hkeys, hkeys', hwhere⟩
  · refine ⟨_, rfl, ?_, fun n hn parent hparent => ?_⟩
    · decide
    · obtain ⟨_, _, path, path', _, _, _, hpath, hpath', hrest⟩ :=
        (template_extends_parent fleet).2 3 _ rfl 9 n hn parent hparent
      exact ⟨path, path', hpath, hpath', hrest⟩

end CsdlRoutes.Route
