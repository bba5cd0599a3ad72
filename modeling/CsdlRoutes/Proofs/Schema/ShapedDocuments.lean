import Mathlib.Tactic.MkIffOfInductiveProp
import CsdlRoutes.Proofs.Schema.DeclaredProperties
import CsdlRoutes.Proofs.Schema.Misreadings
import CsdlRoutes.Proofs.Schema.QualifiedNames

/-!
# Documents in the usual shape

Extraction reads a few members of a document: those that name a type, a namespace or a kind should
be texts, the includes should be lists of objects, and the keys lists of texts. In a document of
this shape there are no accidents: whatever extraction does not accept, it refuses with a reason
that concerns the document.

* `Document.Shaped`: the shape.
* `exists_table_of_shaped`: such a document has an alias table, which holds nothing but texts.
* `misreadings_of_shaped`: it has no accidents in store.
* `extract_refuses`: extraction fails for reasons that concern the document.
-/

namespace CsdlRoutes.Schema

/-! ## The shape -/

/-- Whether a value is a text. -/
def isText : Value → Bool
  | .scalar (.text _) => true
  | _ => false

/-- Whether a text stands under a key, if anything does. -/
def textAt (key : String) (ms : Members) : Bool := (Keyed.get? key ms).all isText

/-- Whether a value is a list of texts. -/
def listsTexts (v : Value) : Bool :=
  match v.bare with
  | .list items => items.all isText
  | _ => false

/-- Whether a value includes a schema. -/
def includesSchema (v : Value) : Bool :=
  match v.bare with
  | .object ms => textAt "$Namespace" ms && textAt "$Alias" ms
  | _ => false

/-- Whether a value includes a list of schemas. -/
def includesSchemas (v : Value) : Bool :=
  match v.bare with
  | .list items => items.all includesSchema
  | _ => false

/-- Whether a value refers to another document. -/
def refersToDocument (v : Value) : Bool :=
  match v.bare with
  | .object ms => (Keyed.get? "$Include" ms).all includesSchemas
  | _ => false

/-- Whether a value refers to other documents. -/
def refersToDocuments (v : Value) : Bool :=
  match v.bare with
  | .object ms => ms.all fun member => refersToDocument member.2
  | _ => false

/-- Names and references are texts, keys are lists of texts, and the recognised members have
distinct names. -/
@[mk_iff]
structure Document.Shaped (d : Document) : Prop where
  named : Named d
  container : textAt "$EntityContainer" d = true
  references : (Keyed.get? "$Reference" d).all refersToDocuments = true
  schemas : ∀ s ∈ objectsAmong isReserved d, Named s.2
  aliases : ∀ s ∈ objectsAmong isReserved d, textAt "$Alias" s.2 = true
  kinds : ∀ s ∈ objectsAmong isReserved d, ∀ o ∈ objectsAmong isAside s.2, textAt "$Kind" o.2 = true
  members : ∀ r ∈ recognised d, Named r.members
  bases : ∀ r ∈ recognised d, textAt "$BaseType" r.members = true
  keys : ∀ r ∈ recognised d, (Keyed.get? "$Key" r.members).all listsTexts = true
  types : ∀ r ∈ recognised d, ∀ e ∈ objectsAmong isAside r.members, textAt "$Type" e.2 = true
  distinct : ((recognised d).map Recognised.qualified).Nodup

theorem isText_iff {v : Value} : isText v = true ↔ ∃ s, v = .text s := by
  unfold isText
  split
  · exact ⟨fun _ => ⟨_, rfl⟩, fun _ => rfl⟩
  · rename_i hno
    exact ⟨fun h => (nomatch h), fun ⟨s, hs⟩ => absurd hs (hno s)⟩

instance (ms : Members) : Decidable (Named ms) :=
  decidable_of_iff (ms.all fun member => isText (.scalar member.1)) <| by
    simp only [List.all_eq_true, isText_iff, Value.scalar.injEq, Named]

instance (d : Document) : Decidable d.Shaped := decidable_of_iff _ (Document.shaped_iff d).symm

theorem textAt_iff {key : String} {ms : Members} :
    textAt key ms = true ↔ ∀ v, Keyed.get? key ms = some v → ∃ s, v = .text s := by
  rw [textAt, Option.all_eq_true]
  simp only [isText_iff]

/-- What counts as set where a text may stand. -/
theorem setMember?_of_textAt {key : String} {ms : Members} (h : textAt key ms = true) :
    setMember? key ms = none ∨
      ∃ s, s ≠ "" ∧ Keyed.get? key ms = some (.text s) ∧ setMember? key ms = some (.text s) := by
  unfold setMember?
  cases hfound : Keyed.get? key ms with
  | none => exact Or.inl rfl
  | some v =>
    obtain ⟨s, rfl⟩ := textAt_iff.mp h v hfound
    by_cases hs : s = ""
    · exact Or.inl (by simp [hs, Value.isTruthy, Scalar.isTruthy])
    · exact Or.inr ⟨s, hs, rfl, by simp [hs, Value.isTruthy, Scalar.isTruthy]⟩

theorem setMember?_text_iff {key : String} {ms : Members} {s : String} :
    setMember? key ms = some (.text s) ↔ Keyed.get? key ms = some (.text s) ∧ s ≠ "" := by
  simp [setMember?, Option.filter_eq_some_iff, Value.isTruthy, Scalar.isTruthy]

/-! ## The alias table -/

/-- Assignments of texts. -/
def TextsAssigned (assignments : List (Scalar × Scalar)) : Prop :=
  ∀ a ∈ assignments, ∃ s, a.2 = .text s

theorem textsAssigned_flatten {parts : List (List (Scalar × Scalar))}
    (h : ∀ part ∈ parts, TextsAssigned part) : TextsAssigned parts.flatten := by
  intro a ha
  obtain ⟨part, hpart, ha⟩ := List.mem_flatten.mp ha
  exact h part hpart a ha

theorem exists_aliasAssignment (space : String) {ms : Members} (h : textAt "$Alias" ms = true) :
    ∃ as, aliasAssignment (.text space) ms = .ok as ∧ TextsAssigned as := by
  unfold aliasAssignment
  cases hfound : Keyed.get? "$Alias" ms with
  | none => exact ⟨[], rfl, List.forall_mem_nil _⟩
  | some v =>
    obtain ⟨s, rfl⟩ := textAt_iff.mp h v hfound
    dsimp only
    split
    · exact ⟨_, rfl, List.forall_mem_singleton.mpr ⟨space, rfl⟩⟩
    · exact ⟨[], rfl, List.forall_mem_nil _⟩

theorem exists_schemaAssignments (space : String) {ms : Members} (h : textAt "$Alias" ms = true) :
    ∃ as, schemaAssignments space ms = .ok as ∧ TextsAssigned as := by
  obtain ⟨as, has, htexts⟩ := exists_aliasAssignment space h
  exact ⟨_, bind_eq_ok.mpr ⟨as, has, rfl⟩, List.forall_mem_cons.mpr ⟨⟨space, rfl⟩, htexts⟩⟩

theorem exists_includeAssignments {v : Value} (h : includesSchema v = true) :
    ∃ as, includeAssignments v = .ok as ∧ TextsAssigned as := by
  unfold includesSchema at h
  split at h
  · rename_i ms hbare
    obtain ⟨hspace, halias⟩ := Bool.and_eq_true_iff.mp h
    rw [includeAssignments, hbare]
    dsimp only
    cases hfound : Keyed.get? "$Namespace" ms with
    | none => exact ⟨[], rfl, List.forall_mem_nil _⟩
    | some v =>
      obtain ⟨s, rfl⟩ := textAt_iff.mp hspace v hfound
      dsimp only
      split
      · obtain ⟨as, has, htexts⟩ := exists_aliasAssignment s halias
        refine ⟨_, bind_eq_ok.mpr ⟨.text s, rfl, bind_eq_ok.mpr ⟨as, has, rfl⟩⟩, ?_⟩
        exact List.forall_mem_cons.mpr ⟨⟨s, rfl⟩, htexts⟩
      · exact ⟨[], rfl, List.forall_mem_nil _⟩
  · cases h

theorem iterated_of_list {v : Value} {items : List Value} (h : v.bare = .list items) :
    iterated v = .ok items := by
  rw [iterated, h]

theorem exists_referenceAssignments {v : Value} (h : refersToDocument v = true) :
    ∃ as, referenceAssignments v = .ok as ∧ TextsAssigned as := by
  unfold refersToDocument at h
  split at h
  · rename_i ms hbare
    have hitems : ∃ items, iterated ((Keyed.get? "$Include" ms).getD (.list [])) = .ok items ∧
        ∀ item ∈ items, includesSchema item = true := by
      cases hfound : Keyed.get? "$Include" ms with
      | none => exact ⟨[], rfl, List.forall_mem_nil _⟩
      | some i =>
        have hlist := (Option.all_eq_true _ _).mp h i hfound
        unfold includesSchemas at hlist
        split at hlist
        · rename_i items hi
          exact ⟨items, iterated_of_list hi, List.all_eq_true.mp hlist⟩
        · cases hlist
    obtain ⟨items, hiterated, hshaped⟩ := hitems
    obtain ⟨parts, hparts, htexts⟩ := exists_forall₂_iff.mpr
      fun item hitem => exists_includeAssignments (hshaped item hitem)
    refine ⟨parts.flatten, ?_, textsAssigned_flatten htexts⟩
    rw [referenceAssignments, hbare]
    exact bind_eq_ok.mpr ⟨items, hiterated, bind_eq_ok.mpr ⟨parts, mapM_eq_ok.mpr hparts, rfl⟩⟩
  · cases h

theorem exists_references {d : Document}
    (h : (Keyed.get? "$Reference" d).all refersToDocuments = true) :
    ∃ vs, references d = .ok vs ∧ ∀ v ∈ vs, refersToDocument v = true := by
  unfold references
  cases hfound : Keyed.get? "$Reference" d with
  | none => exact ⟨[], rfl, List.forall_mem_nil _⟩
  | some v =>
    have hv := (Option.all_eq_true _ _).mp h v hfound
    unfold refersToDocuments at hv
    split at hv
    · rename_i ms hbare
      refine ⟨ms.map (·.2), by simp [hbare], fun w hw => ?_⟩
      obtain ⟨member, hmember, rfl⟩ := List.mem_map.mp hw
      exact List.all_eq_true.mp hv member hmember
    · cases hv

/-- A document in the usual shape has an alias table, which holds nothing but texts. -/
theorem exists_table_of_shaped {d : Document} (hd : d.Shaped) :
    ∃ table, AliasTable.ofDocument d = .ok table ∧ table.Textual := by
  obtain ⟨vs, hvs, hrefers⟩ := exists_references hd.references
  obtain ⟨own, hown, howntexts⟩ := exists_forall₂_iff.mpr
    fun s hs => exists_schemaAssignments s.1 (hd.aliases s hs)
  obtain ⟨other, hother, hothertexts⟩ := exists_forall₂_iff.mpr
    fun v hv => exists_referenceAssignments (hrefers v hv)
  refine ⟨_, ofDocument_eq_ok_iff.mpr ⟨_, own, vs, other,
    schemas_eq_ok_iff_named.mpr ⟨hd.named, rfl⟩, mapM_eq_ok.mpr hown, hvs, mapM_eq_ok.mpr hother,
    rfl⟩, ?_⟩
  have htexts : TextsAssigned
      ((.text primitiveSpace, .text primitiveSpace) :: (own.flatten ++ other.flatten)) := by
    refine List.forall_mem_cons.mpr ⟨⟨_, rfl⟩, List.forall_mem_append.mpr ⟨?_, ?_⟩⟩
    · exact textsAssigned_flatten howntexts
    · exact textsAssigned_flatten hothertexts
  obtain ⟨hdistinct, hvalues⟩ :=
    Keyed.distinct_ofList (P := fun v : Scalar => ∃ s, v = .text s) htexts
  intro stem v hfound
  exact hvalues _ ((Keyed.get?_eq_some_iff hdistinct).mp hfound)

/-! ## Keys and kinds -/

theorem exists_each_texts {items : List Value} (h : items.all isText = true) (position : Nat) :
    ∃ names, Checked.each textField position items = .ok names := by
  induction items generalizing position with
  | nil => exact ⟨[], rfl⟩
  | cons item rest ih =>
    obtain ⟨hitem, hrest⟩ := Bool.and_eq_true_iff.mp h
    obtain ⟨s, rfl⟩ := isText_iff.mp hitem
    obtain ⟨names, hnames⟩ := ih hrest (position + 1)
    refine ⟨s :: names, ?_⟩
    rw [Checked.each, hnames]
    rfl

theorem exists_keyNames {ms : Members}
    (hms : (Keyed.get? "$Key" ms).all listsTexts = true) : ∃ names, keyNames ms = .ok names := by
  have hitems : ∃ items, iterated ((Keyed.get? "$Key" ms).getD (.list [])) = .ok items ∧
      items.all isText = true := by
    cases hfound : Keyed.get? "$Key" ms with
    | none => exact ⟨[], rfl, rfl⟩
    | some v =>
      have hlist := (Option.all_eq_true _ _).mp hms v hfound
      unfold listsTexts at hlist
      split at hlist
      · rename_i items hv
        exact ⟨items, iterated_of_list hv, hlist⟩
      · cases hlist
  obtain ⟨items, hiterated, htexts⟩ := hitems
  obtain ⟨names, hnames⟩ := exists_each_texts htexts 0
  refine ⟨names, ?_⟩
  rw [keyNames, hiterated, ok_bind, hnames]
  rfl

theorem exists_kindOf {ms : Members} (h : textAt "$Kind" ms = true) :
    ∃ kind?, kindOf ms = .ok kind? := by
  unfold kindOf
  rcases setMember?_of_textAt h with hnone | ⟨s, _, _, hset⟩
  · rw [hnone]
    exact ⟨_, rfl⟩
  · rw [hset]
    exact ⟨_, rfl⟩

/-! ## No accidents -/

variable {table : AliasTable} {ms : Members}

theorem expansionAccidents_of_textual (htable : table.Textual) (name : String) :
    expansionAccidents table name = [] := by
  unfold expansionAccidents
  cases hfound : (QualifiedName.read? name).bind fun q => Keyed.get? q.space table with
  | none => rfl
  | some v =>
    obtain ⟨q, _, hq⟩ := Option.bind_eq_some_iff.mp hfound
    obtain ⟨s, rfl⟩ := htable q.space v hq
    rfl

theorem targetAccidents_of_textual (htable : table.Textual) (s : String) :
    targetAccidents table (.text s) = [] := expansionAccidents_of_textual htable s

/-- A member with a text meets with no accident when it is taken for a reference. -/
theorem setTarget_of_textAt (htable : table.Textual) {key : String} (h : textAt key ms = true) :
    (setMember? key ms).elim [] (targetAccidents table) = [] := by
  rcases setMember?_of_textAt h with hnone | ⟨s, _, _, hset⟩
  · rw [hnone]
    rfl
  · rw [hset]
    exact targetAccidents_of_textual htable s

theorem propertyAccidents_of_textAt (htable : table.Textual) (h : textAt "$Type" ms = true) :
    propertyAccidents table ms = [] := by
  unfold propertyAccidents
  cases MemberKind.of ms with
  | navigation => exact setTarget_of_textAt htable h
  | structural =>
    obtain ⟨s, hs⟩ : ∃ s, (Keyed.get? "$Type" ms).getD (.text defaultPropertyType) = .text s := by
      cases hfound : Keyed.get? "$Type" ms with
      | none => exact ⟨_, rfl⟩
      | some v => exact textAt_iff.mp h v hfound
    dsimp only
    rw [hs]
    change ((some s).filter _).elim [] (expansionAccidents table) = []
    cases (some s).filter _ with
    | none => rfl
    | some s => exact expansionAccidents_of_textual htable s
  | other => rfl

theorem resourceAccidents_of_textAt (htable : table.Textual) (h : textAt "$Type" ms = true) :
    resourceAccidents table ms = [] := by
  unfold resourceAccidents
  split
  · rfl
  · exact setTarget_of_textAt htable h

theorem namesAccidents_of_named (h : Named ms) : namesAccidents ms = [] :=
  (settles_namedObjects ms).clear _ (namedObjects_eq_ok_iff_named.mpr ⟨h, rfl⟩)

/-- An object of a document in the usual shape that declares a type has no accidents in store. -/
theorem kindAccidents_of_shaped (htable : table.Textual) {d : Document} (hd : d.Shaped)
    {r : Recognised} (hr : r ∈ recognised d) : kindAccidents table r.kind r.members = [] := by
  have hnames := namesAccidents_of_named (hd.members r hr)
  have hstructured : structuredAccidents table r.kind r.members = [] := by
    obtain ⟨names, hkeys⟩ := exists_keyNames (hd.keys r hr)
    unfold structuredAccidents
    rw [hnames, setTarget_of_textAt htable (hd.bases r hr), (settles_keyNames _).clear names hkeys,
      List.flatMap_eq_nil_iff.mpr fun e he => propertyAccidents_of_textAt htable (hd.types r hr e he)]
    exact ite_self []
  unfold kindAccidents
  split
  · rw [hnames, List.flatMap_eq_nil_iff.mpr
      fun e he => resourceAccidents_of_textAt htable (hd.types r hr e he)]
    rfl
  · exact hstructured
  · exact hstructured
  · rfl
  · rfl

theorem memberAccidents_of_shaped (htable : table.Textual) {d : Document} (hd : d.Shaped)
    {schema : String × Members} (hschema : schema ∈ objectsAmong isReserved d)
    {member : Scalar × Value} (hmember : member ∈ schema.2) : memberAccidents table member = [] := by
  obtain ⟨name, hname⟩ : ∃ name, member.1 = .text name := hd.schemas schema hschema member hmember
  unfold memberAccidents
  rw [hname]
  cases hobject : objectAt isAside member with
  | none => rfl
  | some object =>
    have hmem : object ∈ objectsAmong isAside schema.2 :=
      List.mem_filterMap.mpr ⟨member, hmember, hobject⟩
    obtain ⟨kind?, hkind⟩ := exists_kindOf (hd.kinds schema hschema object hmem)
    change objectAccidents table object.2 = []
    unfold objectAccidents
    rw [(settles_kindOf object.2).clear kind? hkind]
    cases hrecognised : recognise schema.1 object with
    | none =>
      rw [Option.map_eq_none_iff.mp hrecognised]
      rfl
    | some r =>
      obtain ⟨kind, hword, rfl⟩ := Option.map_eq_some_iff.mp hrecognised
      have hr : (⟨schema.1, object.1, kind, object.2⟩ : Recognised) ∈ recognised d :=
        List.mem_flatMap.mpr ⟨schema, hschema, List.mem_filterMap.mpr ⟨object, hmem, hrecognised⟩⟩
      rw [hword]
      exact kindAccidents_of_shaped htable hd hr

/-- A document in the usual shape has no accidents in store. -/
theorem misreadings_of_shaped {d : Document} (hd : d.Shaped) : misreadings d = [] := by
  obtain ⟨table, htable, htextual⟩ := exists_table_of_shaped hd
  have hcontainer : containerAccidents table d = [] := by
    unfold containerAccidents
    rcases setMember?_of_textAt hd.container with hnone | ⟨s, _, _, hset⟩
    · rw [hnone]
      rfl
    · rw [hset]
      exact expansionAccidents_of_textual htextual s
  have hdeclarations : declarationAccidents table d = [] :=
    List.flatMap_eq_nil_iff.mpr fun schema hschema =>
      List.flatMap_eq_nil_iff.mpr fun member hmember =>
        memberAccidents_of_shaped htextual hd hschema hmember
  rw [misreadings, (settles_ofDocument d).clear table htable, htable]
  change containerAccidents table d ++ declarationAccidents table d = []
  rw [hcontainer, hdeclarations]
  rfl

/-- Extraction refuses a document in the usual shape, if it fails. -/
theorem extract_refuses {d : Document} (hd : d.Shaped) (version : String) :
    FailsOnly (fun failure => ∃ why, failure = .document why) (extract version d) := by
  refine (extract_settles version d).failsOnly.mono ?_
  rintro failure (h | ⟨a, ha, _⟩)
  · exact h
  · rw [misreadings_of_shaped hd] at ha
    cases ha

end CsdlRoutes.Schema
