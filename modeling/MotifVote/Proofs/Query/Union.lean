import MotifVote.Proofs.Query.Evaluation
import Mathlib.Data.List.Nodup
import Mathlib.Data.List.ProdSigma
import Mathlib.Data.Set.Basic

/-!
# Joins as unions of partial assignments

A row gives a value to each column of its relation, and to no other column. Read like this, the rows
of a natural join are the unions of a row of either operand, as far as the two agree where both have
a value. What a relation says about columns does not depend on the order in which it has them, and
in this sense the natural join is commutative, associative and idempotent.

The laws come from one fact: a table is determined, up to the order of its columns, by which columns
it has and which assignments to all columns it holds of.
-/

namespace MotifVote.Relation

/-- Values for some of the columns. -/
abbrev PartialAssignment := Column → Option VertexId

/-- What a row says: a column has the value that stands at its position. -/
def reading (columns : List Column) (row : Row) : PartialAssignment :=
  fun column => (columns.idxOf? column).bind fun position => row[position]?

/-- What the rows of a relation say. -/
def readings (relation : Relation) : Set PartialAssignment :=
  {said | ∃ row ∈ relation.rows, reading relation.columns row = said}

/-- The values that either of two partial assignments gives. -/
def union (first second : PartialAssignment) : PartialAssignment :=
  fun column => (first column).or (second column)

/-- An assignment to all columns, for some of them only. -/
def restrict (columns : List Column) (assignment : Column → VertexId) : PartialAssignment :=
  fun column => if column ∈ columns then some (assignment column) else none

/-- The same columns in some order, with rows that say the same. -/
structure IsReordered (left right : Relation) : Prop where
  columns : left.columns.Perm right.columns
  readings : left.readings = right.readings

section Readings

variable {relation : Relation} {columns others : List Column}
variable {assignment other : Column → VertexId} {said : PartialAssignment}

/-- A column is missing, or it stands where it is found. -/
theorem idxOf?_cases (columns : List Column) (column : Column) :
    (columns.idxOf? column = none ∧ column ∉ columns) ∨
      ∃ position, columns.idxOf? column = some position ∧ columns[position]? = some column ∧
        column ∈ columns := by
  rcases found : columns.idxOf? column with _ | position
  · exact Or.inl ⟨rfl, List.idxOf?_eq_none_iff.mp found⟩
  · rcases List.idxOf?_eq_some_iff.mp found with ⟨inside, here, -⟩
    have standing : columns[position]? = some column :=
      List.getElem?_eq_some_iff.mpr ⟨inside, here⟩
    exact Or.inr ⟨position, rfl, standing, List.mem_of_getElem? standing⟩

theorem reading_map (columns : List Column) (assignment : Column → VertexId) :
    reading columns (columns.map assignment) = restrict columns assignment := by
  funext column
  rcases idxOf?_cases columns column with ⟨missing, absent⟩ | ⟨position, found, here, member⟩
  · simp [reading, restrict, missing, absent]
  · simp [reading, restrict, found, member, here]

theorem restrict_eq_iff :
    restrict columns assignment = restrict columns other ↔
      ∀ column ∈ columns, assignment column = other column := by
  constructor
  · intro same column member
    have here := congrFun same column
    simpa [restrict, member] using here
  · intro same
    funext column
    by_cases member : column ∈ columns
    · simp [restrict, member, same column member]
    · simp [restrict, member]

theorem restrict_congr (same : ∀ column, column ∈ columns ↔ column ∈ others)
    (assignment : Column → VertexId) :
    restrict columns assignment = restrict others assignment := by
  funext column
  simp only [restrict, same column]

/-- What a table says is what it holds of, for its own columns. -/
theorem mem_readings_iff (table : relation.IsTable) :
    said ∈ relation.readings ↔
      ∃ assignment, relation.Holds assignment ∧ restrict relation.columns assignment = said := by
  constructor
  · rintro ⟨row, present, rfl⟩
    rcases exists_assignment table.distinct (table.width row present) with ⟨assignment, rfl⟩
    exact ⟨assignment, present, (reading_map relation.columns assignment).symm⟩
  · rintro ⟨assignment, holds, rfl⟩
    exact ⟨relation.columns.map assignment, holds, reading_map relation.columns assignment⟩

/-- Different rows of a table say different things. -/
theorem reading_injective (table : relation.IsTable) {row next : Row}
    (present : row ∈ relation.rows) (nextPresent : next ∈ relation.rows)
    (same : reading relation.columns row = reading relation.columns next) : row = next := by
  rcases exists_assignment table.distinct (table.width row present) with ⟨assignment, rfl⟩
  rcases exists_assignment table.distinct (table.width next nextPresent) with ⟨other, rfl⟩
  rw [reading_map, reading_map, restrict_eq_iff] at same
  exact List.map_congr_left same

end Readings

section Laws

variable {left right third : Relation}

/-- Tables with the same columns that hold of the same assignments differ in the order of the
columns only. -/
theorem isReordered_of_holds_iff (leftTable : left.IsTable) (rightTable : right.IsTable)
    (columns : ∀ column, column ∈ left.columns ↔ column ∈ right.columns)
    (holds : ∀ assignment, left.Holds assignment ↔ right.Holds assignment) :
    IsReordered left right := by
  refine ⟨?_, ?_⟩
  · exact (List.perm_ext_iff_of_nodup leftTable.distinct rightTable.distinct).mpr columns
  · ext said
    rw [mem_readings_iff leftTable, mem_readings_iff rightTable]
    apply exists_congr
    intro assignment
    rw [holds assignment, restrict_congr columns assignment]

theorem isReordered_naturalJoin_comm (leftTable : left.IsTable) (rightTable : right.IsTable) :
    IsReordered (left.naturalJoin right) (right.naturalJoin left) := by
  apply isReordered_of_holds_iff (leftTable.naturalJoin rightTable)
    (rightTable.naturalJoin leftTable)
  · intro column
    rw [mem_columns_naturalJoin, mem_columns_naturalJoin, or_comm]
  · intro assignment
    rw [holds_naturalJoin leftTable rightTable, holds_naturalJoin rightTable leftTable, and_comm]

theorem isReordered_naturalJoin_assoc (leftTable : left.IsTable) (rightTable : right.IsTable)
    (thirdTable : third.IsTable) :
    IsReordered ((left.naturalJoin right).naturalJoin third)
      (left.naturalJoin (right.naturalJoin third)) := by
  have firstTwo := leftTable.naturalJoin rightTable
  have lastTwo := rightTable.naturalJoin thirdTable
  apply isReordered_of_holds_iff (firstTwo.naturalJoin thirdTable) (leftTable.naturalJoin lastTwo)
  · intro column
    simp only [mem_columns_naturalJoin, or_assoc]
  · intro assignment
    rw [holds_naturalJoin firstTwo thirdTable, holds_naturalJoin leftTable rightTable,
      holds_naturalJoin leftTable lastTwo, holds_naturalJoin rightTable thirdTable, and_assoc]

theorem isReordered_naturalJoin_self (table : left.IsTable) :
    IsReordered (left.naturalJoin left) left := by
  apply isReordered_of_holds_iff (table.naturalJoin table) table
  · intro column
    rw [mem_columns_naturalJoin, or_self]
  · intro assignment
    rw [holds_naturalJoin table table, and_self]

end Laws

section Union

variable {left right : Relation}

/-- Where two assignments agree on the shared columns, one assignment has the values of both. -/
theorem exists_common {first second : Column → VertexId}
    (agree : ∀ column ∈ left.columns, column ∈ right.columns → first column = second column) :
    ∃ assignment : Column → VertexId, (∀ column ∈ left.columns, assignment column = first column) ∧
      ∀ column ∈ right.columns, assignment column = second column := by
  refine ⟨fun column => if column ∈ left.columns then first column else second column, ?_, ?_⟩
  · intro column member
    exact if_pos member
  · intro column member
    by_cases known : column ∈ left.columns
    · exact (if_pos known).trans (agree column known member)
    · exact if_neg known

theorem restrict_naturalJoin (assignment : Column → VertexId) :
    restrict (left.naturalJoin right).columns assignment =
      union (restrict left.columns assignment) (restrict right.columns assignment) := by
  funext column
  by_cases first : column ∈ left.columns
  · simp [restrict, union, mem_columns_naturalJoin, first]
  · simp [restrict, union, mem_columns_naturalJoin, first]

/-- The rows of a natural join are the unions of the rows that agree on the shared columns. -/
theorem readings_naturalJoin (leftTable : left.IsTable) (rightTable : right.IsTable) :
    (left.naturalJoin right).readings =
      {said | ∃ first ∈ left.readings, ∃ second ∈ right.readings,
        (∀ column ∈ left.columns, column ∈ right.columns → first column = second column) ∧
          union first second = said} := by
  ext said
  rw [mem_readings_iff (leftTable.naturalJoin rightTable)]
  constructor
  · rintro ⟨assignment, holds, rfl⟩
    rcases (holds_naturalJoin leftTable rightTable assignment).mp holds with
      ⟨leftHolds, rightHolds⟩
    refine ⟨_, (mem_readings_iff leftTable).mpr ⟨assignment, leftHolds, rfl⟩,
      _, (mem_readings_iff rightTable).mpr ⟨assignment, rightHolds, rfl⟩, ?_, ?_⟩
    · intro column known member
      simp [restrict, known, member]
    · exact (restrict_naturalJoin assignment).symm
  · rintro ⟨_, inLeft, _, inRight, agree, rfl⟩
    rcases (mem_readings_iff leftTable).mp inLeft with ⟨first, leftHolds, rfl⟩
    rcases (mem_readings_iff rightTable).mp inRight with ⟨second, rightHolds, rfl⟩
    have shared : ∀ column ∈ left.columns, column ∈ right.columns →
        first column = second column := by
      intro column known member
      have same := agree column known member
      simpa [restrict, known, member] using same
    rcases exists_common shared with ⟨assignment, isFirst, isSecond⟩
    refine ⟨assignment, ?_, ?_⟩
    · rw [holds_naturalJoin leftTable rightTable, holds_congr isFirst, holds_congr isSecond]
      exact ⟨leftHolds, rightHolds⟩
    · rw [restrict_naturalJoin, restrict_eq_iff.mpr isFirst, restrict_eq_iff.mpr isSecond]

/-- Where both have the same columns, the natural join is the intersection. -/
theorem readings_naturalJoin_of_same (leftTable : left.IsTable) (rightTable : right.IsTable)
    (same : ∀ column, column ∈ left.columns ↔ column ∈ right.columns) :
    (left.naturalJoin right).readings = left.readings ∩ right.readings := by
  have all : ∀ column, column ∈ (left.naturalJoin right).columns ↔ column ∈ left.columns := by
    intro column
    rw [mem_columns_naturalJoin, ← same column, or_self]
  ext said
  rw [Set.mem_inter_iff, mem_readings_iff (leftTable.naturalJoin rightTable),
    mem_readings_iff leftTable, mem_readings_iff rightTable]
  constructor
  · rintro ⟨assignment, holds, rfl⟩
    rcases (holds_naturalJoin leftTable rightTable assignment).mp holds with
      ⟨leftHolds, rightHolds⟩
    refine ⟨⟨assignment, leftHolds, (restrict_congr all assignment).symm⟩,
      assignment, rightHolds, ?_⟩
    rw [restrict_congr all, restrict_congr same]
  · rintro ⟨⟨assignment, leftHolds, rfl⟩, other, rightHolds, equal⟩
    rw [restrict_congr same, restrict_eq_iff] at equal
    refine ⟨assignment, ?_, restrict_congr all assignment⟩
    rw [holds_naturalJoin leftTable rightTable, ← holds_congr equal]
    exact ⟨leftHolds, rightHolds⟩

end Union

section Product

variable {left right : Relation} {row : Row}

theorem sharedColumns_of_disjoint (disjoint : left.columns.Disjoint right.columns) :
    sharedColumns left right = [] := by
  apply List.filter_eq_nil_iff.mpr
  intro column member
  simpa using disjoint member

theorem extraColumns_of_disjoint (disjoint : left.columns.Disjoint right.columns) :
    extraColumns left right = right.columns := by
  apply List.filter_eq_self.mpr
  intro column member
  have fresh : column ∉ left.columns := fun known => disjoint known member
  simpa using fresh

/-- Without shared columns every two rows are put behind one another. -/
theorem mem_rows_naturalJoin_of_disjoint (rightTable : right.IsTable)
    (disjoint : left.columns.Disjoint right.columns) :
    row ∈ (left.naturalJoin right).rows ↔
      ∃ first ∈ left.rows, ∃ second ∈ right.rows, first ++ second = row := by
  rw [mem_rows_naturalJoin, sharedColumns_of_disjoint disjoint, extraColumns_of_disjoint disjoint]
  refine exists_congr fun first => and_congr_right fun _ => exists_congr fun second =>
    and_congr_right fun present => ?_
  rcases exists_assignment rightTable.distinct (rightTable.width second present) with
    ⟨assignment, rfl⟩
  rw [valuesAt_map assignment (List.Subset.refl right.columns)]
  exact and_iff_right rfl

/-- There are as many of them as there are pairs of rows. -/
theorem size_naturalJoin_of_disjoint (leftTable : left.IsTable) (rightTable : right.IsTable)
    (disjoint : left.columns.Disjoint right.columns) :
    (left.naturalJoin right).size = left.size * right.size := by
  have apart : ∀ first ∈ left.rows.toList ×ˢ right.rows.toList,
      ∀ second ∈ left.rows.toList ×ˢ right.rows.toList,
        first.1 ++ first.2 = second.1 ++ second.2 → first = second := by
    rintro ⟨first, second⟩ member ⟨other, another⟩ otherMember same
    rw [List.mem_product, Std.TreeSet.mem_toList, Std.TreeSet.mem_toList] at member otherMember
    have width : first.length = other.length := by
      rw [leftTable.width first member.1, leftTable.width other otherMember.1]
    exact Prod.ext_iff.mpr (List.append_inj same width)
  have pairs : (left.naturalJoin right).rows.toList.Perm
      ((left.rows.toList ×ˢ right.rows.toList).map fun pair => pair.1 ++ pair.2) := by
    apply (List.perm_ext_iff_of_nodup (nodup_toList _) ?_).mpr
    · intro row
      rw [Std.TreeSet.mem_toList, mem_rows_naturalJoin_of_disjoint rightTable disjoint]
      simp [and_assoc]
    · exact ((nodup_toList _).product (nodup_toList _)).map_on apart
  rw [size, ← Std.TreeSet.length_toList, pairs.length_eq, List.length_map, List.length_product,
    Std.TreeSet.length_toList, Std.TreeSet.length_toList, size, size]

end Product

end MotifVote.Relation
