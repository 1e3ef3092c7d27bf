import MotifVote.Query.Join
import MotifVote.Proofs.Ascending
import Mathlib.Data.List.Basic
import Mathlib.Logic.Function.Basic

/-!
# Relations as sets of assignments

A relation is read as a condition on assignments of vertices to all columns: it holds of an
assignment if the values of its own columns make up one of its rows. Where the columns are distinct
and every row has a value for each of them, this view loses nothing, and the natural join is the
conjunction of the two conditions, in whatever order its operands and their columns stand.
-/

namespace MotifVote.Relation

/-- Whether the values that an assignment gives to the columns make up a row. -/
def Holds (relation : Relation) (assignment : Column → VertexId) : Prop :=
  relation.columns.map assignment ∈ relation.rows

/-- No column is named twice, and every row has one value for each column. -/
structure IsTable (relation : Relation) : Prop where
  distinct : relation.columns.Nodup
  width : ∀ row ∈ relation.rows, row.length = relation.columns.length

/-- A row over distinct columns is what some assignment gives to them. -/
theorem exists_assignment {columns : List Column} (distinct : columns.Nodup) {row : Row}
    (width : row.length = columns.length) :
    ∃ assignment : Column → VertexId, columns.map assignment = row := by
  induction columns generalizing row with
  | nil =>
      refine ⟨fun _ => 0, ?_⟩
      exact (List.eq_nil_of_length_eq_zero width).symm
  | cons column columns ih =>
      rcases row with _ | ⟨value, row⟩
      · simp at width
      · rcases List.nodup_cons.mp distinct with ⟨absent, distinctRest⟩
        rcases ih distinctRest (Nat.succ.inj width) with ⟨assignment, rest⟩
        refine ⟨Function.update assignment column value, ?_⟩
        have unchanged : columns.map (Function.update assignment column value) =
            columns.map assignment := by
          apply List.map_congr_left
          intro other member
          have different : other ≠ column := by
            rintro rfl
            exact absent member
          exact Function.update_of_ne different _ _
        simp [unchanged, rest]

theorem valueAt?_map (assignment : Column → VertexId) {columns : List Column} {column : Column}
    (member : column ∈ columns) :
    valueAt? columns (columns.map assignment) column = some (assignment column) := by
  induction columns with
  | nil => simp at member
  | cons first columns ih =>
      simp only [valueAt?, List.map_cons, List.zip_cons_cons, List.lookup_cons]
      by_cases same : column = first
      · simp [same]
      · have later : column ∈ columns := (List.mem_cons.mp member).resolve_left same
        rw [beq_false_of_ne same]
        exact ih later

theorem valueAt?_eq_none {columns : List Column} {row : Row} {column : Column}
    (absent : column ∉ columns) : valueAt? columns row column = none := by
  rw [valueAt?, List.lookup_eq_none_iff]
  intro entry member
  have known : entry.1 ∈ columns := (List.of_mem_zip member).1
  refine bne_iff_ne.mpr ?_
  rintro rfl
  exact absent known

theorem valuesAt_map (assignment : Column → VertexId) {columns chosen : List Column}
    (known : chosen ⊆ columns) :
    valuesAt columns (columns.map assignment) chosen = chosen.map assignment := by
  induction chosen with
  | nil => rfl
  | cons column chosen ih =>
      have head : column ∈ columns := known List.mem_cons_self
      have tail : chosen ⊆ columns := fun _ member => known (List.mem_cons_of_mem _ member)
      simpa [valuesAt, valueAt?_map assignment head] using ih tail

theorem not_holds_of_isEmpty {relation : Relation} (empty : relation.isEmpty = true)
    (assignment : Column → VertexId) : ¬relation.Holds assignment := by
  intro holds
  have contained : relation.rows.contains (relation.columns.map assignment) = true := holds
  simp [Std.TreeSet.contains_of_isEmpty empty] at contained

section Projection

theorem project_ascending (relation : Relation) (column : Column) :
    (relation.project column).Pairwise (· < ·) :=
  toList_ascending _

/-- The projection on a column has the values that the satisfying assignments give to it. -/
theorem mem_project {relation : Relation} (table : relation.IsTable) {column : Column}
    {value : VertexId} :
    value ∈ relation.project column ↔
      column ∈ relation.columns ∧
        ∃ assignment, relation.Holds assignment ∧ assignment column = value := by
  simp only [project, Std.TreeSet.mem_toList, Std.TreeSet.mem_ofList, List.contains_iff_mem,
    List.mem_filterMap]
  constructor
  · rintro ⟨row, present, found⟩
    have member : column ∈ relation.columns := by
      by_contra absent
      simp [valueAt?_eq_none absent] at found
    rcases exists_assignment table.distinct (table.width row present) with ⟨assignment, rfl⟩
    rw [valueAt?_map assignment member] at found
    exact ⟨member, assignment, present, Option.some.inj found⟩
  · rintro ⟨member, assignment, holds, rfl⟩
    exact ⟨_, holds, valueAt?_map assignment member⟩

end Projection

section Join

variable {left right : Relation}

theorem sharedColumns_subset : sharedColumns left right ⊆ left.columns :=
  List.filter_subset_self _

theorem sharedColumns_subset_right : sharedColumns left right ⊆ right.columns := by
  intro column member
  simpa using List.of_mem_filter member

theorem extraColumns_subset : extraColumns left right ⊆ right.columns :=
  List.filter_subset_self _

theorem mem_shared_or_extra {column : Column} (member : column ∈ right.columns) :
    column ∈ sharedColumns left right ∨ column ∈ extraColumns left right := by
  by_cases known : column ∈ left.columns
  · exact Or.inl (List.mem_filter.mpr ⟨known, by simpa using member⟩)
  · exact Or.inr (List.mem_filter.mpr ⟨member, by simpa using known⟩)

theorem mem_columns_naturalJoin {column : Column} :
    column ∈ (left.naturalJoin right).columns ↔
      column ∈ left.columns ∨ column ∈ right.columns := by
  simp only [naturalJoin, List.mem_append]
  constructor
  · exact Or.imp_right fun extra => extraColumns_subset extra
  · rintro (member | member)
    · exact Or.inl member
    · exact (mem_shared_or_extra member).imp_left fun shared => sharedColumns_subset shared

theorem mem_rows_naturalJoin {row : Row} :
    row ∈ (left.naturalJoin right).rows ↔
      ∃ leftRow ∈ left.rows, ∃ rightRow ∈ right.rows,
        valuesAt right.columns rightRow (sharedColumns left right) =
            valuesAt left.columns leftRow (sharedColumns left right) ∧
          leftRow ++ valuesAt right.columns rightRow (extraColumns left right) = row := by
  simp [naturalJoin, splitRows, and_assoc]

/-- The natural join holds where both of its operands do. -/
theorem holds_naturalJoin (leftTable : left.IsTable) (rightTable : right.IsTable)
    (assignment : Column → VertexId) :
    (left.naturalJoin right).Holds assignment ↔
      left.Holds assignment ∧ right.Holds assignment := by
  rw [Holds, mem_rows_naturalJoin]
  constructor
  · rintro ⟨leftRow, leftPresent, rightRow, rightPresent, agree, joined⟩
    rcases exists_assignment rightTable.distinct (rightTable.width rightRow rightPresent) with
      ⟨assigned, rfl⟩
    rw [valuesAt_map assigned extraColumns_subset, naturalJoin, List.map_append] at joined
    have width : leftRow.length = (left.columns.map assignment).length := by
      rw [List.length_map]
      exact leftTable.width leftRow leftPresent
    rcases List.append_inj joined width with ⟨rfl, extra⟩
    rw [valuesAt_map assigned sharedColumns_subset_right,
      valuesAt_map assignment sharedColumns_subset] at agree
    refine ⟨leftPresent, ?_⟩
    have same : right.columns.map assignment = right.columns.map assigned := by
      apply List.map_congr_left
      intro column member
      have place : column ∈ sharedColumns left right ∨ column ∈ extraColumns left right :=
        mem_shared_or_extra member
      rcases place with shared | extraColumn
      · exact (List.map_inj_left.mp agree column shared).symm
      · exact (List.map_inj_left.mp extra column extraColumn).symm
    rw [Holds, same]
    exact rightPresent
  · rintro ⟨leftHolds, rightHolds⟩
    refine ⟨_, leftHolds, _, rightHolds, ?_, ?_⟩
    · rw [valuesAt_map assignment sharedColumns_subset_right,
        valuesAt_map assignment sharedColumns_subset]
    · rw [valuesAt_map assignment extraColumns_subset, naturalJoin, List.map_append]

theorem IsTable.naturalJoin (leftTable : left.IsTable) (rightTable : right.IsTable) :
    (left.naturalJoin right).IsTable := by
  refine ⟨?_, ?_⟩
  · refine List.Nodup.append leftTable.distinct (rightTable.distinct.filter _) ?_
    intro column member extra
    have absent := List.of_mem_filter extra
    simp [member] at absent
  · intro row present
    rcases mem_rows_naturalJoin.mp present with
      ⟨leftRow, leftPresent, rightRow, rightPresent, -, rfl⟩
    rcases exists_assignment rightTable.distinct (rightTable.width rightRow rightPresent) with
      ⟨assigned, rfl⟩
    rw [valuesAt_map assigned extraColumns_subset]
    simp [Relation.naturalJoin, leftTable.width leftRow leftPresent]

end Join

end MotifVote.Relation
