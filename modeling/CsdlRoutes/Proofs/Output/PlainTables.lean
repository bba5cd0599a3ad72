import CsdlRoutes.Output.Listing
import Mathlib.Data.List.Basic

/-!
# Plain listings are read back

A plain listing has a line for each row and a tab between two cells. So a listing is told from what is
printed, provided that each row has a cell and no cell holds a tab or a line break.

* `FitsLine`: the rows that stand on one line of their own.
* `cellsOf_texts`: a listing of such rows is read back.
-/

namespace CsdlRoutes.Output

/-! ## Lines -/

theorem not_mem_intercalate {c : Char} {mark : List Char} {parts : List (List Char)}
    (hmark : c ∉ mark) (h : ∀ part ∈ parts, c ∉ part) : c ∉ mark.intercalate parts := by
  induction parts with
  | nil => exact List.not_mem_nil
  | cons part rest ih =>
    obtain ⟨hpart, hrest⟩ := List.forall_mem_cons.mp h
    cases rest with
    | nil => rwa [List.intercalate_singleton]
    | cons next rest =>
      rw [List.intercalate_cons_of_ne_nil (List.cons_ne_nil _ _), List.mem_append, List.mem_append]
      exact not_or.mpr ⟨not_or.mpr ⟨hpart, hmark⟩, ih hrest⟩

/-- Lines, each with its end, are the lines and an empty one with the ends between them. -/
theorem intercalate_concat_nil (mark : List Char) (parts : List (List Char)) :
    mark.intercalate (parts ++ [[]]) = parts.flatMap (· ++ mark) := by
  induction parts with
  | nil => rfl
  | cons part rest ih =>
    rw [List.cons_append, List.intercalate_cons_of_ne_nil (by simp), ih, List.flatMap_cons]

/-! ## Listings -/

/-- A row of a listing that is printed on one line, with its cells apart. -/
def FitsLine (row : List String) : Prop :=
  row ≠ [] ∧ ∀ cell ∈ row, '\t' ∉ cell.toList ∧ '\n' ∉ cell.toList

instance (row : List String) : Decidable (FitsLine row) := inferInstanceAs (Decidable (_ ∧ _))

/-- The cells of a plain listing. -/
def cellsOf (text : String) : List (List String) :=
  (text.toList.splitOn '\n').dropLast.map fun cs => (cs.splitOn '\t').map String.ofList

theorem splitOn_plainRow {row : List String} (h : FitsLine row) :
    ((['\t'].intercalate (row.map String.toList)).splitOn '\t').map String.ofList = row := by
  have hcells : ∀ cs ∈ row.map String.toList, '\t' ∉ cs :=
    List.forall_mem_map.mpr fun cell hcell => (h.2 cell hcell).1
  rw [List.splitOn_intercalate '\t' hcells (by simpa using h.1), List.map_map]
  exact (List.map_congr_left fun cell _ => String.ofList_toList).trans (List.map_id _)

/-- A plain listing is read back. -/
theorem cellsOf_texts {l : Listing} (h : ∀ row ∈ l.headers :: l.rows, FitsLine row) :
    cellsOf (String.join (l.texts .plain)) = l.headers :: l.rows := by
  have htext : (String.join (l.texts .plain)).toList = ['\n'].intercalate ((l.headers :: l.rows).map
      (fun row => ['\t'].intercalate (row.map String.toList)) ++ [[]]) := by
    change (String.join ((l.headers :: l.rows).map plainRow)).toList = _
    rw [intercalate_concat_nil, List.flatMap_map, String.toList_join, List.flatMap_map]
    refine List.flatMap_congr fun row _ => ?_
    rw [plainRow, line, String.toList_append, String.toList_intercalate]
    rfl
  have hlines : ∀ cs ∈ (l.headers :: l.rows).map (fun row =>
      ['\t'].intercalate (row.map String.toList)) ++ [[]], '\n' ∉ cs := by
    intro cs hcs
    rcases List.mem_append.mp hcs with hcs | hcs
    · obtain ⟨row, hrow, rfl⟩ := List.mem_map.mp hcs
      exact not_mem_intercalate (by decide)
        (List.forall_mem_map.mpr fun cell hcell => ((h row hrow).2 cell hcell).2)
    · rw [List.mem_singleton.mp hcs]
      exact List.not_mem_nil
  rw [cellsOf, htext, List.splitOn_intercalate '\n' hlines (by simp), List.dropLast_concat,
    List.map_map]
  exact (List.map_congr_left fun row hrow => splitOn_plainRow (h row hrow)).trans (List.map_id _)

end CsdlRoutes.Output
