import CsdlRoutes.Proofs.Schema.ExpandedReferences

/-!
# The normal form of names

A name is qualified when it has a last dot with some text on both sides. Namespaces may have dots of
their own, also at their ends or next to each other, so only the place of the last dot counts.
Splitting a name and joining the parts undo each other.

Expanding a reference may change how many dots it has, but not what stands behind the last of them.
So in a table that takes each namespace to itself an expanded name is in normal form: expanding it
again leaves it as it is.

* `LastDotAt`: the place of the last dot.
* `exists_read_iff`: which names can be split.
* `AliasTable.Settled.normal_of_resolve`: an expanded name.
* `names_split_and_expand`: splitting, joining and expanding.
-/

namespace CsdlRoutes.Schema

/-! ## The last dot -/

/-- The last dot of a row of characters stands at a place. -/
def LastDotAt (cs : List Char) (i : Nat) : Prop :=
  cs[i]? = some '.' ∧ ∀ j, i < j → cs[j]? ≠ some '.'

theorem lastDotAt_append (before : List Char) {after : List Char} (h : '.' ∉ after) :
    LastDotAt (before ++ '.' :: after) before.length := by
  refine ⟨by simp, fun j hj hdot => ?_⟩
  obtain ⟨k, rfl⟩ := Nat.exists_eq_add_of_lt hj
  rw [List.getElem?_append_right (by omega), Nat.add_assoc, Nat.add_sub_cancel_left,
    List.getElem?_cons_succ] at hdot
  exact h (List.mem_of_getElem? hdot)

/-- What stands before and after the last dot. -/
theorem LastDotAt.split {cs : List Char} {i : Nat} (h : LastDotAt cs i) :
    cs = cs.take i ++ '.' :: cs.drop (i + 1) ∧ '.' ∉ cs.drop (i + 1) := by
  obtain ⟨hdot, hlast⟩ := h
  obtain ⟨hbound, hdot⟩ := List.getElem?_eq_some_iff.mp hdot
  constructor
  · rw [← hdot, List.getElem_cons_drop, List.take_append_drop]
  · intro hmem
    obtain ⟨k, hk⟩ := List.mem_iff_getElem?.mp hmem
    rw [List.getElem?_drop] at hk
    exact hlast _ (by omega) hk

/-- The names that can be split have a last dot with some text on both sides. -/
theorem exists_read_iff {name : String} : (∃ q, QualifiedName.read name = .ok q) ↔
    ∃ i, LastDotAt name.toList i ∧ 0 < i ∧ i + 1 < name.length := by
  simp only [QualifiedName.read_eq_ok_iff, QualifiedName.read?_eq_some_iff]
  constructor
  · rintro ⟨q, rfl, hspace, hshort, hdot⟩
    have hbefore : 0 < q.space.toList.length :=
      List.length_pos_iff.mpr (by simpa using hspace)
    have hafter : 0 < q.short.toList.length :=
      List.length_pos_iff.mpr (by simpa using hshort)
    refine ⟨q.space.toList.length, ?_, hbefore, ?_⟩
    · rw [QualifiedName.toList_join]
      exact lastDotAt_append _ hdot
    · rw [← String.length_toList, QualifiedName.toList_join, List.length_append, List.length_cons]
      omega
  · rintro ⟨i, hi, hfirst, hlast⟩
    obtain ⟨hname, hdot⟩ := hi.split
    rw [← String.length_toList] at hlast
    have hbefore : name.toList.take i ≠ [] :=
      List.ne_nil_of_length_pos (by rw [List.length_take]; omega)
    have hafter : name.toList.drop (i + 1) ≠ [] :=
      List.ne_nil_of_length_pos (by rw [List.length_drop]; omega)
    refine ⟨⟨String.ofList (name.toList.take i), String.ofList (name.toList.drop (i + 1))⟩,
      String.ext ?_, by simpa using hbefore, by simpa using hafter, by simpa using hdot⟩
    rw [QualifiedName.toList_join, String.toList_ofList, String.toList_ofList]
    exact hname

/-! ## Expanding -/

/-- Where each namespace is taken to itself, an expanded name is split into the namespace that was
looked up and the short name, and it is expanded to itself. -/
theorem AliasTable.Settled.normal_of_resolve {table : AliasTable} (htable : table.Settled)
    {name full : String} (h : table.resolve name = .ok full) :
    ∃ q namespaceOf space, QualifiedName.read name = .ok q ∧
      Keyed.get? q.space table = some namespaceOf ∧ shown (.scalar namespaceOf) = .ok space ∧
      QualifiedName.read full = .ok ⟨space, q.short⟩ ∧ table.resolve full = .ok full := by
  obtain ⟨q, namespaceOf, space, hread, hfound, hshown, rfl⟩ := resolve_eq_ok_iff_shown.mp h
  obtain ⟨entry, hentry, rfl⟩ := Option.map_eq_some_iff.mp hfound
  obtain ⟨space', hshown', hspace, own, hown, hshownown⟩ :=
    htable entry (List.mem_of_find?_eq_some hentry)
  obtain rfl := Except.ok.inj (hshown.symm.trans hshown')
  have hnormal := QualifiedName.read_join hread hspace
  exact ⟨q, entry.2, space, hread, hfound, hshown, hnormal,
    resolve_eq_ok_iff_shown.mpr ⟨_, own, space, hnormal, hown, hshownown, rfl⟩⟩

/-- **Splitting undoes joining, and expanding leads to a normal form.** A name can be split exactly
when it has a last dot with some text on both sides. Joining the parts then gives the name back, and
the short name has no dot. A namespace and a short name without dots, both with some text, are what
their joined name is split into. Where a table takes each of its namespaces to itself, a reference
that can be expanded keeps its short name, gets the namespace that the table has for what stood
before its last dot, and stays as it is when it is expanded again. -/
theorem names_split_and_expand :
    (∀ name, (∃ q, QualifiedName.read name = .ok q) ↔
      ∃ i, LastDotAt name.toList i ∧ 0 < i ∧ i + 1 < name.length) ∧
    (∀ name q, QualifiedName.read name = .ok q → q.join = name ∧ '.' ∉ q.short.toList) ∧
    (∀ space short, space ≠ "" → short ≠ "" → '.' ∉ short.toList →
      QualifiedName.read (space ++ "." ++ short) = .ok ⟨space, short⟩) ∧
    ∀ table : AliasTable, table.Settled → ∀ name full, table.resolve name = .ok full →
      ∃ q namespaceOf space, QualifiedName.read name = .ok q ∧
        Keyed.get? q.space table = some namespaceOf ∧ shown (.scalar namespaceOf) = .ok space ∧
        QualifiedName.read full = .ok ⟨space, q.short⟩ ∧ table.resolve full = .ok full := by
  refine ⟨fun name => exists_read_iff, fun name q hread => ?_,
    fun space short hspace hshort hdot => ?_,
    fun table htable name full hfull => htable.normal_of_resolve hfull⟩
  · obtain ⟨hname, _, _, hdot⟩ :=
      QualifiedName.read?_eq_some_iff.mp (QualifiedName.read_eq_ok_iff.mp hread)
    exact ⟨hname.symm, hdot⟩
  · exact QualifiedName.read_eq_ok_iff.mpr
      (QualifiedName.read?_eq_some_iff.mpr ⟨rfl, hspace, hshort, hdot⟩)

/-- An alias with a dot in it, the namespace that it stands for, which has more dots, and a
namespace with dots at its ends and next to each other. -/
def dottedTable : AliasTable :=
  [(.text "graph.beta", .text "microsoft.graph.beta.v2"),
   (.text "microsoft.graph.beta.v2", .text "microsoft.graph.beta.v2"),
   (.text ".odd..", .text ".odd..")]

theorem dottedTable_settled : dottedTable.Settled := by
  intro entry hentry
  simp only [dottedTable, List.mem_cons, List.not_mem_nil, or_false] at hentry
  rcases hentry with rfl | rfl | rfl
  all_goals exact ⟨_, rfl, by decide, _, rfl, rfl⟩

theorem dotted_names_expand :
    dottedTable.Settled ∧
      dottedTable.resolve "graph.beta.user" = .ok "microsoft.graph.beta.v2.user" ∧
      QualifiedName.read "microsoft.graph.beta.v2.user" = .ok ⟨"microsoft.graph.beta.v2", "user"⟩ ∧
      dottedTable.resolve "microsoft.graph.beta.v2.user" = .ok "microsoft.graph.beta.v2.user" ∧
      QualifiedName.read ".odd...user" = .ok ⟨".odd..", "user"⟩ ∧
      ¬ ∃ q, QualifiedName.read ".odd..." = .ok q := by
  obtain ⟨_, _, hjoined, hexpanded⟩ := names_split_and_expand
  have hfull : dottedTable.resolve "graph.beta.user" = .ok "microsoft.graph.beta.v2.user" := rfl
  obtain ⟨q, namespaceOf, space, hread, hfound, hshown, hnormal, hagain⟩ :=
    hexpanded dottedTable dottedTable_settled _ _ hfull
  refine ⟨dottedTable_settled, hfull, ?_, hagain, hjoined ".odd.." "user" ?_ ?_ ?_, ?_⟩
  · cases hread
    cases hfound
    cases hshown
    exact hnormal
  · decide
  · decide
  · decide
  · rintro ⟨q, hq⟩
    cases hq

end CsdlRoutes.Schema
