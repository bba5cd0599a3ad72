import CsdlRoutes.Proofs.ProperValues
import CsdlRoutes.Proofs.Results
import CsdlRoutes.Schema.AliasTable

/-!
# Names and their namespaces

A name is split at its last dot. So what stands before a dot and a text without dots are what the
whole is split into again, and expanding a name keeps its short name. Expanding an expanded name
looks up the namespace that it was given.

* `read?_eq_some_iff`: which names are qualified, and how they are split.
* `read_join`: putting a name together and splitting it again.
* `AliasTable.resolve_eq_ok_iff_shown`: what a reference is expanded to, in any table.
* `AliasTable.Expands`: what a reference stands for in a table of texts.
-/

namespace CsdlRoutes.Schema

/-! ## Splitting -/

theorem splitAtLastDot?_eq_none {cs : List Char} (h : '.' ∉ cs) : splitAtLastDot? cs = none := by
  induction cs with
  | nil => rfl
  | cons c rest ih =>
    obtain ⟨hc, hrest⟩ := List.ne_and_not_mem_of_not_mem_cons h
    rw [splitAtLastDot?, ih hrest]
    exact if_neg (Ne.symm hc)

theorem splitAtLastDot?_append (before : List Char) {after : List Char} (h : '.' ∉ after) :
    splitAtLastDot? (before ++ '.' :: after) = some (before, after) := by
  induction before with
  | nil =>
    rw [List.nil_append, splitAtLastDot?, splitAtLastDot?_eq_none h]
    rfl
  | cons c rest ih => rw [List.cons_append, splitAtLastDot?, ih]

namespace QualifiedName

theorem toList_join (q : QualifiedName) :
    q.join.toList = q.space.toList ++ '.' :: q.short.toList := by
  simp [join]

theorem read?_eq_some_iff {name : String} {q : QualifiedName} :
    read? name = some q ↔
      name = q.join ∧ q.space ≠ "" ∧ q.short ≠ "" ∧ '.' ∉ q.short.toList := by
  constructor
  · intro h
    unfold read? at h
    split at h
    · rename_i before after hsplit
      obtain ⟨hname, hdot⟩ := splitAtLastDot?_eq_some hsplit
      split at h
      · cases h
      · rename_i hempty
        cases h
        obtain ⟨hbefore, hafter⟩ : before ≠ [] ∧ after ≠ [] := by simpa using hempty
        refine ⟨String.ext ?_, ?_, ?_, by simpa using hdot⟩
        · rw [toList_join, hname, String.toList_ofList, String.toList_ofList]
        · simpa using hbefore
        · simpa using hafter
    · cases h
  · rintro ⟨rfl, hspace, hshort, hdot⟩
    have hbefore : q.space.toList ≠ [] := by simpa using hspace
    have hafter : q.short.toList ≠ [] := by simpa using hshort
    rw [read?, toList_join, splitAtLastDot?_append _ hdot]
    simp [hbefore, hafter]

theorem read_eq_ok_iff {name : String} {q : QualifiedName} :
    read name = .ok q ↔ read? name = some q := by
  unfold read
  split
  · rename_i q' h
    rw [h, Except.ok.injEq, Option.some.injEq]
  · rename_i h
    simp [h]

/-- A name with the short name of a qualified one is split as it was put together. -/
theorem read_join {name space : String} {q : QualifiedName} (h : read name = .ok q)
    (hspace : space ≠ "") : read (space ++ "." ++ q.short) = .ok ⟨space, q.short⟩ := by
  obtain ⟨_, _, hshort, hdot⟩ := read?_eq_some_iff.mp (read_eq_ok_iff.mp h)
  exact read_eq_ok_iff.mpr (read?_eq_some_iff.mpr ⟨rfl, hspace, hshort, hdot⟩)

end QualifiedName

/-! ## Expanding -/

/-- Whatever is looked up in a table is a text. -/
def AliasTable.Textual (table : AliasTable) : Prop :=
  ∀ stem v, Keyed.get? stem table = some v → ∃ s, v = .text s

/-- A reference stands for a name: the table takes what stands before its last dot to the namespace
of the name, and the short name is that of the reference. -/
def AliasTable.Expands (table : AliasTable) (reference : String) (q : QualifiedName) : Prop :=
  ∃ stem, QualifiedName.read? reference = some ⟨stem, q.short⟩ ∧
    Keyed.get? stem table = some (.text q.space)

/-- A reference is expanded to its short name behind the text of the namespace that the table has
under what stands before its last dot. -/
theorem AliasTable.resolve_eq_ok_iff_shown {table : AliasTable} {name full : String} :
    table.resolve name = .ok full ↔
      ∃ q namespaceOf space, QualifiedName.read name = .ok q ∧
        Keyed.get? q.space table = some namespaceOf ∧ shown (.scalar namespaceOf) = .ok space ∧
        full = space ++ "." ++ q.short := by
  rw [AliasTable.resolve, bind_eq_ok]
  constructor
  · rintro ⟨q, hread, h⟩
    split at h
    · rename_i namespaceOf hfound
      obtain ⟨space, hshown, h⟩ := bind_eq_ok.mp h
      cases h
      exact ⟨q, namespaceOf, space, hread, hfound, hshown, rfl⟩
    · cases h
  · rintro ⟨q, namespaceOf, space, hread, hfound, hshown, rfl⟩
    refine ⟨q, hread, ?_⟩
    simp only [hfound, hshown, ok_bind]
    rfl

theorem AliasTable.resolve_eq_ok_iff {table : AliasTable} (htable : table.Textual)
    {reference name : String} :
    table.resolve reference = .ok name ↔ ∃ q, table.Expands reference q ∧ name = q.join := by
  constructor
  · intro h
    obtain ⟨⟨stem, short⟩, v, space, hread, hfound, hshown, rfl⟩ := resolve_eq_ok_iff_shown.mp h
    obtain ⟨s, rfl⟩ := htable stem v hfound
    cases hshown
    exact ⟨⟨s, short⟩, ⟨stem, QualifiedName.read_eq_ok_iff.mp hread, hfound⟩, rfl⟩
  · rintro ⟨⟨space, short⟩, ⟨stem, hread, hfound⟩, rfl⟩
    exact resolve_eq_ok_iff_shown.mpr ⟨⟨stem, short⟩, .text space, space,
      QualifiedName.read_eq_ok_iff.mpr hread, hfound, rfl, rfl⟩

/-- The name that a reference stands for is qualified, unless its namespace is empty. -/
theorem AliasTable.Expands.read_iff {table : AliasTable} {reference : String} {q : QualifiedName}
    (h : table.Expands reference q) :
    (∃ q', QualifiedName.read q.join = .ok q') ↔ q.space ≠ "" := by
  obtain ⟨stem, hread, _⟩ := h
  obtain ⟨_, _, hshort, hdot⟩ := QualifiedName.read?_eq_some_iff.mp hread
  constructor
  · rintro ⟨q', hq'⟩ hspace
    obtain ⟨hsame, hspace', _, hdot'⟩ :=
      QualifiedName.read?_eq_some_iff.mp (QualifiedName.read_eq_ok_iff.mp hq')
    have hlists := congrArg String.toList hsame
    rw [QualifiedName.toList_join, QualifiedName.toList_join] at hlists
    have hsplit := splitAtLastDot?_append q.space.toList hdot
    rw [hlists, splitAtLastDot?_append _ hdot'] at hsplit
    have hspaces : q'.space.toList = q.space.toList := (Prod.mk.inj (Option.some.inj hsplit)).1
    exact hspace' ((String.ext hspaces).trans hspace)
  · intro hspace
    exact ⟨_, QualifiedName.read_join (q := ⟨stem, q.short⟩)
      (QualifiedName.read_eq_ok_iff.mpr hread) hspace⟩

end CsdlRoutes.Schema
