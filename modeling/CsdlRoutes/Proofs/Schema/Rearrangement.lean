import CsdlRoutes.Proofs.ProperValues
import CsdlRoutes.Proofs.Shuffled
import CsdlRoutes.Schema.AliasTable

/-!
# Documents in another order

The members of a schema and the members of the types in it may be written in any order. What is
looked up under a key is the same in every order, as long as no key occurs twice. So two documents
that differ in that order alone have the same alias table.

* `Document.Proper`: no object has a key twice, where the order counts.
* `Document.Rearranged`: another order within the schemas and within the types.
* `schemas_rearranged`, `ofDocument_rearranged`: what extraction begins with.
-/

namespace CsdlRoutes.Schema

/-! ## Rearranging -/

/-- Two members are the same, or they are objects under the same name, which is not reserved, and
their members are related. -/
inductive Aligned (R : Members → Members → Prop) : Scalar × Value → Scalar × Value → Prop
  | same (member : Scalar × Value) : Aligned R member member
  | objects {name : String} {v w : Value} {ms ns : Members} (hname : isReserved name = false)
      (hv : v.bare = .object ms) (hw : w.bare = .object ns) (h : R ms ns) :
      Aligned R (.text name, v) (.text name, w)

/-- The members of a schema in another order, and those of the types in it in other orders. -/
def SchemaRearranged : Members → Members → Prop := Shuffled (Aligned List.Perm)

/-- Another order of the members within the schemas of a document and within the types in them. -/
def Document.Rearranged : Document → Document → Prop := List.Forall₂ (Aligned SchemaRearranged)

/-- No object among the members of a document has a key twice, and neither has an object in one of
these. -/
def Document.Proper (document : Document) : Prop :=
  ∀ entry ∈ document, entry.2.members.Distinct ∧
    ∀ member ∈ entry.2.members, member.2.members.Distinct

instance (document : Document) : Decidable (Document.Proper document) :=
  inferInstanceAs (Decidable (∀ _ ∈ _, _))

variable {R : Members → Members → Prop}

theorem SchemaRearranged.refl (ms : Members) : SchemaRearranged ms ms :=
  Shuffled.of_forall₂ (List.forall₂_same.mpr fun member _ => .same member)

/-- What stands under a reserved name is the same. -/
theorem get?_of_aligned {s t : Members} (h : List.Forall₂ (Aligned R) s t) {key : String}
    (hkey : isReserved key = true) : Keyed.get? key s = Keyed.get? key t := by
  unfold Keyed.get?
  induction h with
  | nil => rfl
  | @cons a b s t hab _ ih =>
    cases hab with
    | same => simp only [List.find?_cons]; split <;> simp_all
    | @objects name v w ms ns hname hv hw h =>
      have hne : (Scalar.text name == Scalar.text key) = false := by
        rw [beq_eq_false_iff_ne]
        rintro ⟨⟩
        rw [hkey] at hname
        cases hname
      simp only [List.find?_cons, hne]
      exact ih

theorem SchemaRearranged.get?_eq {ms ns : Members} (h : SchemaRearranged ms ns)
    (hms : ms.Distinct) {key : String} (hkey : isReserved key = true) :
    Keyed.get? key ms = Keyed.get? key ns := by
  obtain ⟨ordered, hperm, hrel⟩ := h
  rw [Keyed.get?_eq_of_perm hperm hms]
  exact get?_of_aligned hrel hkey

/-! ## Objects among members -/

theorem memberName_eq_ok_iff {key : Scalar} {name : String} :
    memberName key = .ok name ↔ key = .text name := by
  cases key <;> simp [memberName, textOf, Value.bare]

/-- The object that a member is, with its name, unless such a name is skipped. -/
def objectOf (skips : String → Bool) (name : String) (v : Value) : Option (String × Members) :=
  match v.bare with
  | .object members => if skips name then none else some (name, members)
  | _ => none

theorem objectOf_eq_some_iff {skips : String → Bool} {name : String} {v : Value}
    {s : String × Members} :
    objectOf skips name v = some s ↔ skips name = false ∧ s.1 = name ∧ v.bare = .object s.2 := by
  obtain ⟨n, members⟩ := s
  unfold objectOf
  split
  · rename_i hbare
    cases hskips : skips name <;> simp [hbare, eq_comm]
  · rename_i hbare
    simp only [reduceCtorEq, false_iff]
    rintro ⟨_, _, h⟩
    exact hbare _ h

/-- The step that collecting objects does for each member. -/
def objectStep (skips : String → Bool) (member : Scalar × Value) :
    Except Failure (Option (String × Members)) := do
  return objectOf skips (← memberName member.1) member.2

theorem objectStep_eq_ok_iff {skips : String → Bool} {member : Scalar × Value}
    {o : Option (String × Members)} :
    objectStep skips member = .ok o ↔
      ∃ name, member.1 = .text name ∧ o = objectOf skips name member.2 := by
  rw [objectStep, bind_eq_ok]
  simp only [memberName_eq_ok_iff]
  constructor
  · rintro ⟨name, hname, h⟩
    cases h
    exact ⟨name, hname, rfl⟩
  · rintro ⟨name, hname, rfl⟩
    exact ⟨name, hname, rfl⟩

theorem ok_reduceOption_objectOf (skips : String → Bool) (name : String) (v : Value)
    (os : List (Option (String × Members))) :
    (match v.bare with
      | .object members =>
        return if skips name then os.reduceOption else (name, members) :: os.reduceOption
      | _ => return os.reduceOption : Except Failure _) =
      .ok (objectOf skips name v :: os).reduceOption := by
  unfold objectOf
  split
  · split <;> rfl
  · rfl

/-- A collection of the objects among some members goes through them step by step. -/
theorem collect_eq {skips : String → Bool}
    {collect : Members → Except Failure (List (String × Members))} (hnil : collect [] = .ok [])
    (hcons : ∀ key v rest, collect ((key, v) :: rest) = (do
      let name ← memberName key
      let more ← collect rest
      match v.bare with
      | .object members => return if skips name then more else (name, members) :: more
      | _ => return more))
    (ms : Members) : collect ms = List.reduceOption <$> ms.mapM (objectStep skips) := by
  induction ms with
  | nil => rw [hnil, List.mapM_nil, map_pure]; rfl
  | cons member rest ih =>
    obtain ⟨key, v⟩ := member
    rw [hcons, List.mapM_cons, ih, objectStep]
    dsimp only
    cases memberName key with
    | error failure => rfl
    | ok name =>
      cases rest.mapM (objectStep skips) with
      | error failure => rfl
      | ok os => exact ok_reduceOption_objectOf skips name v os

theorem collect_eq_ok_iff {skips : String → Bool}
    {collect : Members → Except Failure (List (String × Members))} (hnil : collect [] = .ok [])
    (hcons : ∀ key v rest, collect ((key, v) :: rest) = (do
      let name ← memberName key
      let more ← collect rest
      match v.bare with
      | .object members => return if skips name then more else (name, members) :: more
      | _ => return more))
    {ms : Members} {objects : List (String × Members)} :
    collect ms = .ok objects ↔
      ∃ os, ms.mapM (objectStep skips) = .ok os ∧ os.reduceOption = objects := by
  rw [collect_eq hnil hcons, map_eq_pure_bind, bind_eq_ok]
  simp only [pure, Except.pure, Except.ok.injEq]

theorem schemas_eq_ok_iff {d : Document} {declaring : List (String × Members)} :
    schemas d = .ok declaring ↔
      ∃ os, d.mapM (objectStep isReserved) = .ok os ∧ os.reduceOption = declaring :=
  collect_eq_ok_iff rfl fun _ _ _ => rfl

theorem objectStep_aligned {skips : String → Bool} (hR : ∀ ms, R ms ms) {a b : Scalar × Value}
    (h : Aligned R a b) {o : Option (String × Members)} (ho : objectStep skips a = .ok o) :
    ∃ o', objectStep skips b = .ok o' ∧
      Option.Rel (fun s s' => s.1 = s'.1 ∧ R s.2 s'.2) o o' := by
  cases h with
  | same =>
    refine ⟨o, ho, ?_⟩
    cases o with
    | none => exact .none
    | some s => exact .some ⟨rfl, hR s.2⟩
  | @objects name v w ms ns hname hv hw hrel =>
    obtain ⟨n, hn, rfl⟩ := objectStep_eq_ok_iff.mp ho
    refine ⟨_, objectStep_eq_ok_iff.mpr ⟨n, hn, rfl⟩, ?_⟩
    simp only [objectOf, hv, hw]
    split
    · exact .none
    · exact .some ⟨rfl, hrel⟩

/-! ## Schemas and aliases -/

/-- A rearranged document declares the same schemas in the same order, each of them rearranged. -/
theorem schemas_rearranged {d d' : Document} (h : Document.Rearranged d d')
    {declaring : List (String × Members)} (hd : schemas d = .ok declaring) :
    ∃ declaring', schemas d' = .ok declaring' ∧
      List.Forall₂ (fun s s' => s.1 = s'.1 ∧ SchemaRearranged s.2 s'.2) declaring declaring' := by
  obtain ⟨os, hos, rfl⟩ := schemas_eq_ok_iff.mp hd
  obtain ⟨os', hos', hrel⟩ := mapM_related h
    (fun _ _ _ _ hab ho => objectStep_aligned SchemaRearranged.refl hab ho) hos
  exact ⟨_, schemas_eq_ok_iff.mpr ⟨os', hos', rfl⟩, forall₂_reduceOption hrel⟩

theorem mem_of_mem_schemas {d : Document} {declaring : List (String × Members)}
    (h : schemas d = .ok declaring) {s : String × Members} (hs : s ∈ declaring) :
    ∃ entry ∈ d, entry.2.members = s.2 := by
  obtain ⟨os, hos, rfl⟩ := schemas_eq_ok_iff.mp h
  obtain ⟨entry, hentry, hstep⟩ := exists_source (mapM_eq_ok.mp hos) hs
  obtain ⟨name, _, hobject⟩ := objectStep_eq_ok_iff.mp hstep
  obtain ⟨_, _, hbare⟩ := objectOf_eq_some_iff.mp hobject.symm
  exact ⟨entry, hentry, Value.members_of_bare hbare⟩

/-- A rearranged document has the same alias table. -/
theorem ofDocument_rearranged {d d' : Document} (h : Document.Rearranged d d')
    (hd : Document.Proper d) {table : AliasTable} (ht : AliasTable.ofDocument d = .ok table) :
    AliasTable.ofDocument d' = .ok table := by
  unfold AliasTable.ofDocument at ht ⊢
  simp only [bind_eq_ok] at ht ⊢
  obtain ⟨declaring, hdeclaring, declared, hdeclared, listed, hlisted, ht⟩ := ht
  obtain ⟨declaring', hdeclaring', hrel⟩ := schemas_rearranged h hdeclaring
  have hreferences : references d = references d' := by
    unfold references
    rw [get?_of_aligned h rfl]
  obtain ⟨declared', hdeclared', hsame⟩ := mapM_related (Q := Eq)
    (g := fun (s : String × Members) => schemaAssignments s.1 s.2) hrel (by
      rintro ⟨name, ms⟩ hs ⟨name', ns⟩ assigned ⟨rfl, hrearranged⟩ hassigned
      obtain ⟨entry, hentry, hmembers⟩ := mem_of_mem_schemas hdeclaring hs
      have hdistinct := (hd entry hentry).1
      rw [hmembers] at hdistinct
      refine ⟨assigned, ?_, rfl⟩
      simp only [schemaAssignments, aliasAssignment] at hassigned ⊢
      rw [← hrearranged.get?_eq hdistinct rfl]
      exact hassigned) hdeclared
  rw [List.forall₂_eq_eq_eq] at hsame
  subst hsame
  exact ⟨declaring', hdeclaring', declared, hdeclared', listed, hreferences ▸ hlisted, ht⟩

end CsdlRoutes.Schema
