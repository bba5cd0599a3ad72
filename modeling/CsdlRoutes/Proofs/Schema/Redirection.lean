import CsdlRoutes.Proofs.Schema.Misreadings
import CsdlRoutes.Proofs.Schema.QualifiedNames

/-!
# Namespaces that are taken for an alias

Namespaces and aliases share one table, and what is assigned to a name last counts. So a namespace
stands for itself unless an alias of another namespace is the same name and comes after it. References
to types of the former then lead to types of the latter.

This is told for all documents that have an alias table, whatever order their schemas and includes
are in. Namespaces and aliases may be any leaves, and those that are one key are told apart nowhere.

* `Document.namings` lists the namespaces of a document with their aliases.
* `ofDocument_eq_ofList`: the alias table.
* `at?_table`: a name stands for the namespace of the last naming that mentions it.
* `namespace_stays_unless_redirected`: namespaces and the references to their types.
* `alias_takes_namespace`: a namespace that does not stand for itself.
-/

namespace CsdlRoutes.Schema

/-! ## Namings -/

/-- A namespace that a document names, and its alias if it has one. -/
structure Naming where
  space : Scalar
  alias? : Option Scalar
  deriving DecidableEq, Repr

namespace Naming

/-- A naming mentions a key: it is that of the namespace or that of the alias. -/
def mentions (key : Scalar) (n : Naming) : Bool :=
  n.space.sameKey key || n.alias?.any (·.sameKey key)

/-- The assignments that a naming makes. -/
def assignments (n : Naming) : List (Scalar × Scalar) :=
  (n.space, n.space) :: (n.alias?.map fun key => (key, n.space)).toList

end Naming

/-- The name that stands under a key, if one is set. -/
def nameAt? (key : String) (ms : Members) : Option Scalar :=
  (setMember? key ms).bind fun v => (keyOf v).toOption

/-- The naming of a declared schema. -/
def schemaNaming (s : String × Members) : Naming := ⟨.text s.1, nameAt? "$Alias" s.2⟩

/-- The naming of an included schema, if it has a namespace. -/
def includeNaming? (v : Value) : Option Naming :=
  (nameAt? "$Namespace" v.members).map fun space => ⟨space, nameAt? "$Alias" v.members⟩

/-- The schemas that a reference to another document includes. -/
def includesOf (v : Value) : List Value :=
  itemsOf ((Keyed.get? "$Include" v.members).getD (.list []))

/-- The namespaces that a document names, with their aliases: that of the primitive types, those of the
schemas that it declares, and those of the schemas that it includes. -/
def Document.namings (d : Document) : List Naming :=
  ⟨.text primitiveSpace, none⟩ :: ((objectsAmong isReserved d).map schemaNaming ++
    (((Keyed.get? "$Reference" d).elim [] Value.members).flatMap fun member =>
      (includesOf member.2).filterMap includeNaming?))

/-- The last naming of a document that mentions a key. -/
def Document.lastNaming? (d : Document) (key : Scalar) : Option Naming :=
  (d.namings.filter (Naming.mentions key)).getLast?

/-- A namespace is redirected to another one: that has the name for an alias, and nothing mentions the
name after it. -/
def Document.RedirectsTo (d : Document) (space other : Scalar) : Prop :=
  ∃ before n after, d.namings = before ++ n :: after ∧ n.space = other ∧
    other.sameKey space = false ∧ n.alias?.any (·.sameKey space) = true ∧
    ∀ m ∈ after, m.mentions space = false

/-- No alias is the name of another namespace than its own. -/
def Document.AliasesApart (d : Document) : Prop :=
  ∀ n ∈ d.namings, ∀ key ∈ n.alias?, ∀ m ∈ d.namings, key.sameKey m.space = true →
    n.space.sameKey m.space = true

variable {d : Document} {table : AliasTable}

/-! ## Assignments -/

theorem aliasAssignment_eq {space : Scalar} {ms : Members} {as : List (Scalar × Scalar)}
    (h : aliasAssignment space ms = .ok as) :
    ((nameAt? "$Alias" ms).map fun key => (key, space)).toList = as := by
  unfold aliasAssignment at h
  unfold nameAt? setMember?
  cases halias : Keyed.get? "$Alias" ms with
  | none =>
    rw [halias] at h
    cases h
    rfl
  | some v =>
    rw [halias] at h
    rw [Option.filter_some]
    dsimp only at h
    split at h
    · rename_i htrue
      obtain ⟨key, hkey, h⟩ := bind_eq_ok.mp h
      cases h
      rw [if_pos htrue, Option.bind_some, hkey]
      rfl
    · rename_i hfalse
      cases h
      rw [if_neg hfalse]
      rfl

theorem schemaAssignments_eq {s : String × Members} {as : List (Scalar × Scalar)}
    (h : schemaAssignments s.1 s.2 = .ok as) : (schemaNaming s).assignments = as := by
  obtain ⟨own, hown, h⟩ := bind_eq_ok.mp h
  cases h
  rw [← aliasAssignment_eq hown]
  rfl

theorem includeAssignments_eq {v : Value} {as : List (Scalar × Scalar)}
    (h : includeAssignments v = .ok as) :
    (includeNaming? v).toList.flatMap Naming.assignments = as := by
  unfold includeAssignments at h
  unfold includeNaming?
  split at h
  · rename_i ms hbare
    rw [Value.members_of_bare hbare]
    unfold nameAt? setMember?
    cases hspace : Keyed.get? "$Namespace" ms with
    | none =>
      rw [hspace] at h
      cases h
      rfl
    | some w =>
      rw [hspace] at h
      rw [Option.filter_some]
      dsimp only at h
      split at h
      · rename_i htrue
        obtain ⟨space, hkey, h⟩ := bind_eq_ok.mp h
        obtain ⟨other, hother, h⟩ := bind_eq_ok.mp h
        cases h
        rw [if_pos htrue, Option.bind_some, hkey, ← aliasAssignment_eq hother]
        exact List.flatMap_singleton _ _
      · rename_i hfalse
        cases h
        rw [if_neg hfalse]
        rfl
  · cases h

theorem referenceAssignments_eq {v : Value} {as : List (Scalar × Scalar)}
    (h : referenceAssignments v = .ok as) :
    ((includesOf v).filterMap includeNaming?).flatMap Naming.assignments = as := by
  unfold referenceAssignments at h
  split at h
  · rename_i ms hbare
    obtain ⟨items, hitems, h⟩ := bind_eq_ok.mp h
    obtain ⟨parts, hparts, h⟩ := bind_eq_ok.mp h
    cases h
    rw [includesOf, Value.members_of_bare hbare, itemsOf_eq hitems,
      ← eq_map_of_mapM (fun _ _ => includeAssignments_eq) hparts, ← List.flatMap_def,
      List.filterMap_eq_flatMap_toList, List.flatMap_assoc]
  · cases h

theorem references_eq {vs : List Value} (h : references d = .ok vs) :
    ((Keyed.get? "$Reference" d).elim [] Value.members).map (·.2) = vs := by
  unfold references at h
  cases hreference : Keyed.get? "$Reference" d with
  | none =>
    rw [hreference] at h
    cases h
    rfl
  | some v =>
    rw [hreference, Option.map_some] at h
    split at h
    · cases ‹some v.bare = none›
    · rename_i ms hbare
      cases h
      rw [Option.elim_some, Value.members_of_bare (Option.some.inj hbare)]
    · cases h

theorem ofDocument_eq_ofList (h : AliasTable.ofDocument d = .ok table) :
    table = Keyed.ofList (d.namings.flatMap Naming.assignments) := by
  obtain ⟨declaring, own, vs, other, hdeclaring, hown, hvs, hother, rfl⟩ :=
    ofDocument_eq_ok_iff.mp h
  obtain ⟨_, rfl⟩ := schemas_eq_ok_iff_named.mp hdeclaring
  rw [← eq_map_of_mapM (fun _ _ => schemaAssignments_eq) hown,
    ← eq_map_of_mapM (fun _ _ => referenceAssignments_eq) hother, ← references_eq hvs]
  rw [Document.namings, List.flatMap_cons, List.flatMap_append, List.flatMap_map,
    List.flatMap_assoc, List.map_map, ← List.flatMap_def, ← List.flatMap_def]
  rfl

/-! ## The table -/

/-- The last of the assignments that a naming makes to a key, if it mentions the key. -/
theorem getLast?_assignments (key : Scalar) (n : Naming) :
    (n.assignments.filter fun a => a.1.sameKey key).getLast?.map Prod.snd =
      if n.mentions key then some n.space else none := by
  obtain ⟨space, alias?⟩ := n
  unfold Naming.assignments Naming.mentions
  cases hspace : space.sameKey key <;> cases alias? with
  | none => simp [hspace]
  | some other => cases hother : other.sameKey key <;> simp [hspace, hother]

/-- A name stands for the namespace of the last naming that mentions it. -/
theorem at?_table (h : AliasTable.ofDocument d = .ok table) (key : Scalar) :
    Keyed.at? key table = (d.lastNaming? key).map Naming.space := by
  rw [ofDocument_eq_ofList h, Keyed.at?_ofList, Document.lastNaming?]
  induction d.namings with
  | nil => rfl
  | cons n ns ih =>
    rw [List.flatMap_cons, List.filter_append, List.getLast?_append, Option.map_or, ih,
      getLast?_assignments, List.filter_cons]
    split
    · rw [List.getLast?_cons]
      cases (ns.filter (Naming.mentions key)).getLast? <;> rfl
    · exact Option.or_none

theorem lastNaming?_eq_some_iff {key : Scalar} {n : Naming} :
    d.lastNaming? key = some n ↔ n.mentions key = true ∧
      ∃ before after, d.namings = before ++ n :: after ∧ ∀ m ∈ after, m.mentions key = false := by
  have hreverse : d.lastNaming? key = d.namings.reverse.find? (Naming.mentions key) := by
    rw [Document.lastNaming?, ← List.head?_reverse, ← List.filter_reverse, List.head?_filter]
  rw [hreverse, List.find?_eq_some_iff_append]
  refine and_congr_right fun _ => ?_
  constructor
  · rintro ⟨after, before, hsplit, hafter⟩
    refine ⟨before.reverse, after.reverse, ?_, ?_⟩
    · rw [← List.reverse_reverse d.namings, hsplit]
      simp
    · simpa using hafter
  · rintro ⟨before, after, hsplit, hafter⟩
    refine ⟨after.reverse, before.reverse, ?_, ?_⟩
    · rw [hsplit]
      simp
    · simpa using hafter

/-! ## Redirection -/

theorem mentions_self (n : Naming) : n.mentions n.space = true := by
  rw [Naming.mentions, Scalar.sameKey_self, Bool.true_or]

/-- A namespace has a last naming that mentions it. It is one of the same namespace, unless the
namespace is redirected. -/
theorem exists_lastNaming {n : Naming} (hn : n ∈ d.namings)
    (h : ∀ other, ¬ d.RedirectsTo n.space other) :
    ∃ m, d.lastNaming? n.space = some m ∧ m.space.sameKey n.space = true := by
  cases hlast : d.lastNaming? n.space with
  | none =>
    have hempty := List.getLast?_eq_none_iff.mp hlast
    have hmem := List.mem_filter.mpr ⟨hn, mentions_self n⟩
    rw [hempty] at hmem
    cases hmem
  | some m =>
    refine ⟨m, rfl, ?_⟩
    obtain ⟨hmentions, before, after, hsplit, hafter⟩ := lastNaming?_eq_some_iff.mp hlast
    -- A naming of another namespace mentions the key as its alias, and it is the last to do so.
    by_contra hdiffers
    rw [Bool.not_eq_true] at hdiffers
    rw [Naming.mentions, hdiffers, Bool.false_or] at hmentions
    exact h m.space ⟨before, m, after, hsplit, rfl, hdiffers, hmentions, hafter⟩

theorem lastNaming_of_redirectsTo {space other : Scalar} (h : d.RedirectsTo space other) :
    ∃ n, d.lastNaming? space = some n ∧ n.space = other := by
  obtain ⟨before, n, after, hsplit, rfl, _, halias, hafter⟩ := h
  refine ⟨n, lastNaming?_eq_some_iff.mpr ⟨?_, before, after, hsplit, hafter⟩, rfl⟩
  rw [Naming.mentions, halias, Bool.or_true]

theorem exists_alias_of_redirectsTo {space other : Scalar} (h : d.RedirectsTo space other) :
    ∃ n ∈ d.namings, n.space = other ∧ other.sameKey space = false ∧
      n.alias?.any (·.sameKey space) = true := by
  obtain ⟨before, n, after, hsplit, hspace, hdiffers, halias, _⟩ := h
  refine ⟨n, ?_, hspace, hdiffers, halias⟩
  rw [hsplit]
  exact List.mem_append_right _ List.mem_cons_self

theorem not_redirectsTo_of_aliasesApart (h : d.AliasesApart) {n : Naming} (hn : n ∈ d.namings)
    (other : Scalar) : ¬ d.RedirectsTo n.space other := by
  intro hredirects
  obtain ⟨m, hm, rfl, hdiffers, halias⟩ := exists_alias_of_redirectsTo hredirects
  obtain ⟨key, hkey, hsame⟩ := (Option.any_eq_true _ _).mp halias
  rw [h m hm key hkey n hn hsame] at hdiffers
  cases hdiffers

theorem resolve_of_at? {name other : String} {q : QualifiedName}
    (hread : QualifiedName.read name = .ok q)
    (h : Keyed.at? (.text q.space) table = some (.text other)) :
    table.resolve name = .ok (other ++ "." ++ q.short) := by
  rw [Keyed.at?_text] at h
  exact AliasTable.resolve_eq_ok_iff_shown.mpr ⟨q, .text other, other, hread, h, rfl, rfl⟩

/-- **A namespace stands for itself unless it is redirected.** In a table that was made, the name of a
namespace stands for the same namespace, and references to its types stay as they are, unless an alias
of another namespace is the same name and nothing mentions it after that. Then the name stands for the
other namespace, and so do references. If no alias is the name of another namespace, none is
redirected. -/
theorem namespace_stays_unless_redirected (htable : AliasTable.ofDocument d = .ok table) :
    (∀ n ∈ d.namings, (∀ other, ¬ d.RedirectsTo n.space other) →
      ∃ space, Keyed.at? n.space table = some space ∧ space.sameKey n.space = true) ∧
    (∀ space other, d.RedirectsTo space other → Keyed.at? space table = some other) ∧
    (∀ name q, QualifiedName.read name = .ok q →
      ((∃ n ∈ d.namings, n.space = .text q.space) →
        (∀ other, ¬ d.RedirectsTo (.text q.space) other) → table.resolve name = .ok name) ∧
      ∀ other, d.RedirectsTo (.text q.space) (.text other) →
        table.resolve name = .ok (other ++ "." ++ q.short)) ∧
    (d.AliasesApart → ∀ n ∈ d.namings, ∀ other, ¬ d.RedirectsTo n.space other) := by
  have hstays : ∀ n ∈ d.namings, (∀ other, ¬ d.RedirectsTo n.space other) →
      ∃ space, Keyed.at? n.space table = some space ∧ space.sameKey n.space = true := by
    intro n hn hno
    obtain ⟨m, hlast, hsame⟩ := exists_lastNaming hn hno
    exact ⟨m.space, by rw [at?_table htable, hlast]; rfl, hsame⟩
  have hmoves : ∀ space other, d.RedirectsTo space other → Keyed.at? space table = some other := by
    intro space other hredirects
    obtain ⟨n, hlast, rfl⟩ := lastNaming_of_redirectsTo hredirects
    rw [at?_table htable, hlast]
    rfl
  refine ⟨hstays, hmoves, fun name q hread => ⟨?_, fun other hredirects => ?_⟩,
    fun hapart n hn other => not_redirectsTo_of_aliasesApart hapart hn other⟩
  · rintro ⟨n, hn, hspace⟩ hno
    rw [← hspace] at hno
    obtain ⟨space, hfound, hsame⟩ := hstays n hn hno
    rw [hspace] at hfound hsame
    rw [Scalar.sameKey_text_right.mp hsame] at hfound
    obtain ⟨hname, _⟩ :=
      QualifiedName.read?_eq_some_iff.mp (QualifiedName.read_eq_ok_iff.mp hread)
    rw [resolve_of_at? hread hfound, hname]
    rfl
  · exact resolve_of_at? hread (hmoves _ _ hredirects)

/-- A document with two schemas, of which the second one has the name of the first one for an alias. -/
def borrowedName : Document :=
  [(.text "b", .object []), (.text "a", .object [(.text "$Alias", .text "b")])]

theorem borrowedName_redirects : ∃ table, AliasTable.ofDocument borrowedName = .ok table ∧
    Keyed.at? (.text "b") table = some (.text "a") ∧
    (∃ space, Keyed.at? (.text "a") table = some space ∧ space.sameKey (.text "a") = true) ∧
    table.resolve "b.thing" = .ok "a.thing" ∧ table.resolve "a.thing" = .ok "a.thing" := by
  have hnamings : borrowedName.namings =
      [⟨.text "Edm", none⟩, ⟨.text "b", none⟩, ⟨.text "a", some (.text "b")⟩] := rfl
  have hmoved : borrowedName.RedirectsTo (.text "b") (.text "a") :=
    ⟨[⟨.text "Edm", none⟩, ⟨.text "b", none⟩], ⟨.text "a", some (.text "b")⟩, [], hnamings, rfl,
      by decide, by decide, List.forall_mem_nil _⟩
  have hkept : ∀ other, ¬ borrowedName.RedirectsTo (.text "a") other := by
    intro other hredirects
    obtain ⟨n, hn, _, _, halias⟩ := exists_alias_of_redirectsTo hredirects
    rw [hnamings] at hn
    simp only [List.mem_cons, List.not_mem_nil, or_false] at hn
    rcases hn with rfl | rfl | rfl <;> revert halias <;> decide
  obtain ⟨table, htable⟩ : ∃ table, AliasTable.ofDocument borrowedName = .ok table := ⟨_, rfl⟩
  obtain ⟨hstays, hmoves, hreferences, _⟩ := namespace_stays_unless_redirected htable
  have hmem : ⟨.text "a", some (.text "b")⟩ ∈ borrowedName.namings := by
    rw [hnamings]
    exact List.mem_cons_of_mem _ (List.mem_cons_of_mem _ List.mem_cons_self)
  refine ⟨table, htable, hmoves _ _ hmoved, hstays _ hmem hkept, ?_, ?_⟩
  · exact (hreferences "b.thing" ⟨"b", "thing"⟩ rfl).2 "a" hmoved
  · exact (hreferences "a.thing" ⟨"a", "thing"⟩ rfl).1 ⟨_, hmem, rfl⟩ hkept

/-- A namespace need not stand for itself. -/
theorem alias_takes_namespace : ∃ table names, AliasTable.ofDocument borrowedName = .ok table ∧
    namespaces borrowedName = .ok names ∧ "b" ∈ names ∧
    Keyed.get? "b" table = some (.text "a") ∧ table.resolve "b.thing" = .ok "a.thing" :=
  ⟨_, _, rfl, rfl, by decide, rfl, rfl⟩

end CsdlRoutes.Schema
