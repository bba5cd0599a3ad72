import CsdlRoutes.Proofs.Postconditions
import CsdlRoutes.Proofs.ProperValues
import CsdlRoutes.Yaml.Document

/-!
# Values of YAML texts

The pairs of a mapping are set one after the other, so the shape of an object has each key once.
Shapes are put together to values without touching their keys, whether a document has loops or not.

* `Shape.Proper`: a shape without a repeated key.
* `proper_of_shapesOf`: the shapes of a document.
* `proper_of_read`: the values of YAML texts.
-/

namespace CsdlRoutes.Yaml

/-- If a shape is that of an object, it has no key twice. -/
def Shape.Proper (shape : Shape) : Prop :=
  ∀ members, shape = .object members → Keyed.Distinct members

/-! ## Shapes -/

/-- The shapes that are known so far are proper. -/
def Shaping.Proper (s : Shaping) : Prop := ∀ shape, some shape ∈ s.shapes → shape.Proper

theorem Shaping.Proper.set {s : Shaping} (hs : s.Proper) {shape : Shape} (hshape : shape.Proper)
    (id : NodeId) : Shaping.Proper { s with shapes := s.shapes.setIfInBounds id (some shape) } := by
  intro other hother
  rcases Array.mem_or_eq_of_mem_setIfInBounds hother with hmem | he
  · exact hs other hmem
  · cases he
    exact hshape

/-- What holds of the results of steps that work out shapes, and keep the known ones proper. -/
def shaping : Judgement ShapingM := (Judgement.except Fault).keeping Shaping.Proper

theorem shaping_throw {α : Type} (fault : Fault) (P : α → Prop) :
    shaping.holds (throw fault : ShapingM α) P := by
  intro s _ r h
  cases h

theorem proper_leaf (s : Scalar) : (Shape.leaf s).Proper := fun _ h => nomatch h

theorem proper_list (items : List NodeId) : (Shape.list items).Proper := fun _ h => nomatch h

theorem meet_keeps (id : NodeId) : shaping.holds (meet id) fun _ => True := by
  unfold meet
  refine shaping.bind Judgement.get fun s hs => ?_
  split
  · exact shaping.pure trivial
  · split
    · refine shaping.bind (Judgement.set ?_) fun _ _ => shaping.pure trivial
      exact hs.set (proper_list []) id
    · refine shaping.bind (P := fun _ => True) ?_ fun leaf _ => ?_
      · exact Judgement.lift fun _ _ => trivial
      · refine shaping.bind (Judgement.set ?_) fun _ _ => shaping.pure trivial
        exact hs.set (proper_leaf leaf) id

theorem meetKey_keeps (id : NodeId) : shaping.holds (meetKey id) fun _ => True := by
  unfold meetKey
  refine shaping.bind (meet_keeps id) fun shape _ => ?_
  split
  · exact shaping.pure trivial
  · exact shaping_throw _ _

theorem readMembers_distinct {members : Keyed NodeId} (h : members.Distinct)
    (pairs : List (NodeId × NodeId)) :
    shaping.holds (readMembers members pairs) Keyed.Distinct := by
  induction pairs generalizing members with
  | nil => exact shaping.pure h
  | cons pair rest ih =>
    refine shaping.bind (meetKey_keeps pair.1) fun key _ => ?_
    exact shaping.bind (meet_keeps pair.2) fun _ _ => ih (Keyed.distinct_put h)

theorem readObject_distinct (id : NodeId) : shaping.holds (readObject id) Keyed.Distinct := by
  unfold readObject
  refine shaping.bind Judgement.get fun s hs => ?_
  refine shaping.bind (P := fun _ => True) (Judgement.lift fun _ _ => trivial) fun r _ => ?_
  exact shaping.bind (Judgement.set hs) fun _ _ => readMembers_distinct
    (show Keyed.Distinct ([] : Keyed NodeId) from List.nodup_nil) _

theorem readEntry_keeps (tag : Tag) (item : NodeId) :
    shaping.holds (readEntry tag item) fun _ => True := by
  unfold readEntry
  refine shaping.bind Judgement.get fun s hs => ?_
  split
  · refine shaping.bind (meet_keeps _) fun _ _ => ?_
    exact shaping.bind (meet_keeps _) fun _ _ => shaping.pure trivial
  · exact shaping_throw _ _

theorem readCollection_proper (id : NodeId) : shaping.holds (readCollection id) Shape.Proper := by
  unfold readCollection
  refine shaping.bind Judgement.get fun s hs => ?_
  dsimp only
  split
  · refine shaping.bind (shaping.forM fun item _ => ?_) fun _ _ => shaping.pure (proper_list _)
    exact shaping.map (meet_keeps item) fun _ _ => trivial
  · refine shaping.bind (readObject_distinct id) fun members hmembers => shaping.pure ?_
    rintro _ ⟨⟩
    exact hmembers
  · exact shaping.bind (readObject_distinct id) fun members _ => shaping.pure fun _ h => nomatch h
  · refine shaping.bind (shaping.mapM fun item _ => readEntry_keeps _ item) fun entries _ => ?_
    exact shaping.pure fun _ h => nomatch h
  · refine shaping.bind (shaping.mapM fun item _ => readEntry_keeps _ item) fun entries _ => ?_
    exact shaping.pure fun _ h => nomatch h
  · exact shaping_throw _ _

theorem readCollections_keeps (fuel position : Nat) :
    shaping.holds (readCollections fuel position) fun _ => True := by
  induction fuel generalizing position with
  | zero => exact shaping.pure trivial
  | succ fuel ih =>
    unfold readCollections
    refine shaping.bind Judgement.get fun s hs => ?_
    split
    · refine shaping.bind (readCollection_proper _) fun shape hshape => ?_
      refine shaping.bind (Judgement.modify fun s hs => hs.set hshape _) fun _ _ => ih _
    · exact shaping.pure trivial

/-- The shapes of a document are proper. -/
theorem proper_of_shapesOf {g : Graph} {root : NodeId} {shapes : Array Shape}
    (h : shapesOf g root = .ok shapes) : ∀ shape ∈ shapes, shape.Proper := by
  obtain ⟨⟨_, s⟩, hrun, h⟩ := bind_eq_ok.mp h
  cases h
  have hread : shaping.holds (do
      let _ ← meet root
      readCollections (g.size + 1) 0) fun _ => True :=
    shaping.bind (meet_keeps root) fun _ _ => readCollections_keeps _ _
  have hstart : Shaping.Proper ⟨g, g.mergeCount, Array.replicate g.size none, #[]⟩ := by
    intro shape hshape
    cases (Array.mem_replicate.mp hshape).2
  have hend := (hread _ hstart _ hrun).1
  intro shape hshape
  obtain ⟨shape?, hmem, rfl⟩ := Array.mem_map.mp hshape
  cases shape? with
  | none => exact fun _ h => nomatch h
  | some shape => exact hend shape hmem

/-! ## Values -/

theorem forall_of_forall₂ {α β : Type} {P : β → Prop} {as : List α} {bs : List β}
    (h : List.Forall₂ (fun _ b => P b) as bs) : ∀ b ∈ bs, P b := by
  induction h with
  | nil => simp
  | cons hb _ ih => exact List.forall_mem_cons.mpr ⟨hb, ih⟩

theorem shapeValue_proper {m : Type → Type} [Monad m] [LawfulMonad m] (J : Judgement m)
    {part : NodeId → m Value} (hpart : ∀ id, J.holds (part id) Value.Proper) {shape : Shape}
    (h : shape.Proper) : J.holds (shape.value part) Value.Proper := by
  cases shape with
  | leaf s => exact J.pure (.scalar s)
  | set keys => exact J.pure (.set keys)
  | list items =>
    refine J.map (J.mapM (R := fun _ v => v.Proper) fun id _ => hpart id) fun vs hvs => ?_
    exact .list (forall_of_forall₂ hvs)
  | object members =>
    refine J.map (J.mapM (R := fun m r => r.1 = m.1 ∧ r.2.Proper) fun m _ => ?_) fun ms hms => ?_
    · exact J.map (hpart m.2) fun v hv => ⟨rfl, hv⟩
    · have hkeys : List.Forall₂ Eq (ms.map Prod.fst) (members.map Prod.fst) := by
        rw [List.forall₂_map_left_iff, List.forall₂_map_right_iff]
        exact hms.flip.imp fun _ _ h => h.1
      rw [List.forall₂_eq_eq_eq] at hkeys
      refine .object ?_ (forall_of_forall₂ (hms.imp fun _ _ h => h.2))
      rw [Keyed.Distinct, hkeys]
      exact h members rfl
  | pairs entries =>
    refine J.map (J.mapM (R := fun _ v => v.Proper) fun entry _ => ?_) fun vs hvs => ?_
    · refine J.seq (P := fun f => ∀ v : Value, v.Proper → (f v).Proper) (J.map (hpart entry.1) ?_)
        (hpart entry.2) ?_
      · exact fun v hv w hw => .pair hv hw
      · exact fun f hf v hv => hf v hv
    · exact .list (forall_of_forall₂ hvs)

theorem forall_getD {α : Type} {P : α → Prop} {as : Array α} {a : α} (h : ∀ b ∈ as, P b)
    (ha : P a) (i : Nat) : P (as.getD i a) := by
  unfold Array.getD
  split
  · exact h _ (Array.getElem_mem _)
  · exact ha

/-- The values that were put together so far are proper. -/
def ProperValues (values : Array (Option Value)) : Prop := ∀ v, some v ∈ values → v.Proper

/-- What holds of the results of steps that put values together, and keep the known ones proper. -/
def assembling : Judgement Assembly := Judgement.option.keeping ProperValues

theorem assemble_proper {shapes : Array Shape} (hshapes : ∀ shape ∈ shapes, shape.Proper)
    (fuel : Nat) (id : NodeId) : assembling.holds (assemble shapes fuel id) Value.Proper := by
  induction fuel generalizing id with
  | zero =>
    intro s _ r h
    cases h
  | succ fuel ih =>
    unfold assemble
    refine assembling.bind Judgement.get fun values hvalues => ?_
    have hknown : ∀ v, values.getD id none = some v → v.Proper :=
      forall_getD (P := fun o => ∀ v, o = some v → v.Proper)
        (fun o ho v he => hvalues v (he ▸ ho)) (fun _ h => by cases h) id
    have hshape : (shapes.getD id default).Proper := forall_getD hshapes (proper_leaf _) id
    split
    · rename_i v hv
      exact assembling.pure (hknown v hv)
    · refine assembling.bind (shapeValue_proper assembling ih hshape) fun v hv => ?_
      refine assembling.bind (Judgement.modify fun values hvalues => ?_) fun _ _ =>
        assembling.pure hv
      intro w hw
      rcases Array.mem_or_eq_of_mem_setIfInBounds hw with hmem | he
      · exact hvalues w hmem
      · cases he
        exact hv

theorem labelledValue_proper {part : NodeId → Value} (hpart : ∀ id, (part id).Proper) (id : NodeId)
    {shape : Shape} (h : shape.Proper) : (shape.labelledValue part id).Proper := by
  have hparts : ∀ id, Judgement.plain.holds (pure (part id)) Value.Proper := hpart
  have hvalue : (Id.run (shape.value fun id => pure (part id))).Proper :=
    shapeValue_proper Judgement.plain hparts h
  unfold Shape.labelledValue
  dsimp only
  split
  · exact .labelled hvalue
  · exact hvalue

theorem unfolded_proper {shapes : Array Shape} (hshapes : ∀ shape ∈ shapes, shape.Proper)
    (levels : Nat) : ∀ v ∈ unfolded shapes levels, v.Proper := by
  induction levels with
  | zero =>
    intro v hv
    obtain ⟨shape, _, rfl⟩ := Array.mem_map.mp hv
    split
    · exact .scalar _
    · exact .list (by simp)
  | succ levels ih =>
    intro v hv
    obtain ⟨id, hid, rfl⟩ := Array.mem_mapIdx.mp hv
    exact labelledValue_proper (fun id => forall_getD ih (.scalar _) id) id
      (hshapes _ (Array.getElem_mem hid))

/-- No object in the value of a YAML text has a key twice. -/
theorem proper_of_read {text : String} {v : Value} (h : read text = .ok v) : v.Proper := by
  obtain ⟨found?, _, h⟩ := bind_eq_ok.mp h
  cases found? with
  | none =>
    cases h
    exact .scalar _
  | some found =>
    obtain ⟨g, root⟩ := found
    obtain ⟨shapes, hread, h⟩ := bind_eq_ok.mp h
    cases h
    have hshapes := proper_of_shapesOf hread
    cases hvalue : valueOf? shapes root with
    | none => exact forall_getD (unfolded_proper hshapes _) (.scalar _) root
    | some v =>
      obtain ⟨⟨w, values⟩, hrun, rfl⟩ := Option.map_eq_some_iff.mp hvalue
      have hstart : ProperValues (Array.replicate shapes.size none) := by
        intro v hv
        cases (Array.mem_replicate.mp hv).2
      exact (assemble_proper hshapes _ root _ hstart _ hrun).2

end CsdlRoutes.Yaml
