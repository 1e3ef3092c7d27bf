import MotifVote.Proofs.Query.Assignment
import Mathlib.Data.Set.Function

/-!
# The order of joins

A query joins its relations in an order that depends on their sizes and columns, and stops as soon
as nothing is left. Whatever the order, what the query finds is what the natural join of all
relations from left to right has in the projected column.

Both joins are compared with a third thing, in which no order occurs: the values that the projected
column takes under the assignments that satisfy every relation (`Allow`).
-/

namespace MotifVote

namespace Relation

/-- The natural join of relations, made from left to right. -/
def joinInOrder : List Relation → Relation
  | [] => ⟨[], .ofList [([] : Row)]⟩
  | first :: rest => rest.foldl naturalJoin first

/-- Whether a column may have a value under an assignment that satisfies all of some relations. -/
def Allow (relations : List Relation) (column : Column) (value : VertexId) : Prop :=
  ∃ assignment, (∀ relation ∈ relations, relation.Holds assignment) ∧ assignment column = value

/-- Whether one of some relations has a column. -/
def Bind (relations : List Relation) (column : Column) : Prop :=
  ∃ relation ∈ relations, column ∈ relation.columns

theorem allow_perm {relations others : List Relation} (reordered : relations.Perm others)
    (column : Column) (value : VertexId) :
    Allow relations column value ↔ Allow others column value := by
  simp only [Allow, reordered.mem_iff]

theorem bind_perm {relations others : List Relation} (reordered : relations.Perm others)
    (column : Column) : Bind relations column ↔ Bind others column := by
  simp only [Bind, reordered.mem_iff]

/-- A table that has the columns of some relations and holds where all of them do. -/
structure IsJoinOf (joined : Relation) (relations : List Relation) : Prop where
  table : joined.IsTable
  mem_columns_iff : ∀ column, column ∈ joined.columns ↔ Bind relations column
  holds_iff : ∀ assignment,
    joined.Holds assignment ↔ ∀ relation ∈ relations, relation.Holds assignment

namespace IsJoinOf

variable {joined next : Relation} {relations others : List Relation}

theorem single (table : joined.IsTable) : joined.IsJoinOf [joined] := by
  refine ⟨table, ?_, ?_⟩
  · intro column
    simp [Bind]
  · intro assignment
    simp

/-- Joining one more table. -/
theorem naturalJoin (join : joined.IsJoinOf relations) (table : next.IsTable) :
    (joined.naturalJoin next).IsJoinOf (next :: relations) := by
  refine ⟨join.table.naturalJoin table, ?_, ?_⟩
  · intro column
    rw [mem_columns_naturalJoin, join.mem_columns_iff]
    simp [Bind, or_comm]
  · intro assignment
    rw [holds_naturalJoin join.table table, join.holds_iff]
    simp [and_comm]

theorem perm (join : joined.IsJoinOf relations) (reordered : relations.Perm others) :
    joined.IsJoinOf others := by
  refine ⟨join.table, ?_, ?_⟩
  · intro column
    rw [join.mem_columns_iff, bind_perm reordered]
  · intro assignment
    rw [join.holds_iff]
    simp only [reordered.mem_iff]

theorem mem_project_iff (join : joined.IsJoinOf relations) {column : Column}
    (bound : Bind relations column) {value : VertexId} :
    value ∈ joined.project column ↔ Allow relations column value := by
  rw [mem_project join.table, join.mem_columns_iff]
  simp only [bound, true_and, join.holds_iff, Allow]

end IsJoinOf

theorem isJoinOf_foldl {joined : Relation} {relations pending : List Relation}
    (join : joined.IsJoinOf relations) (tables : ∀ relation ∈ pending, relation.IsTable) :
    (pending.foldl naturalJoin joined).IsJoinOf (relations ++ pending) := by
  induction pending generalizing joined relations with
  | nil => simpa using join
  | cons next pending ih =>
      have joinedNext := join.naturalJoin (tables next List.mem_cons_self)
      have later : ∀ relation ∈ pending, relation.IsTable :=
        fun relation member => tables relation (List.mem_cons_of_mem _ member)
      exact (ih joinedNext later).perm List.perm_middle.symm

theorem isJoinOf_joinInOrder {relations : List Relation} (nonempty : relations ≠ [])
    (tables : ∀ relation ∈ relations, relation.IsTable) :
    (joinInOrder relations).IsJoinOf relations := by
  rcases relations with _ | ⟨first, rest⟩
  · exact absurd rfl nonempty
  · have start := IsJoinOf.single (tables first List.mem_cons_self)
    exact isJoinOf_foldl start fun relation member =>
      tables relation (List.mem_cons_of_mem _ member)

theorem extractLeast_perm {β : Type} (before : β → β → Bool) (first : β) (rest : List β) :
    ((extractLeast before first rest).1 :: (extractLeast before first rest).2).Perm
      (first :: rest) := by
  induction rest generalizing first with
  | nil => simp [extractLeast]
  | cons next rest ih =>
      by_cases earlier : before next first
      · simp only [extractLeast, earlier, if_true]
        exact (List.Perm.swap first _ _).trans ((ih next).cons first)
      · simp only [extractLeast, earlier, Bool.false_eq_true, if_false]
        have moved := (List.Perm.swap next _ _).trans ((ih first).cons next)
        exact moved.trans (List.Perm.swap first next rest)

/-- The chosen order makes no difference to a projection, even where the joins stop early. -/
theorem mem_project_joinAll {joined : Relation} {relations pending : List Relation}
    (join : joined.IsJoinOf relations) (tables : ∀ relation ∈ pending, relation.IsTable)
    {column : Column} (bound : Bind (relations ++ pending) column) {value : VertexId} :
    value ∈ (joined.joinAll pending).project column ↔
      Allow (relations ++ pending) column value := by
  induction joined, pending using joinAll.induct generalizing relations with
  | case1 joined =>
      rw [joinAll, join.mem_project_iff (by simpa using bound), List.append_nil]
  | case2 joined first rest empty =>
      rw [joinAll, if_pos empty, mem_project join.table]
      constructor
      · rintro ⟨-, assignment, holds, -⟩
        exact absurd holds (not_holds_of_isEmpty empty assignment)
      · rintro ⟨assignment, holds, -⟩
        have joinedHolds := (join.holds_iff assignment).mpr
          fun relation member => holds relation (List.mem_append_left _ member)
        exact absurd joinedHolds (not_holds_of_isEmpty empty assignment)
  | case3 joined first rest remaining ih =>
      -- The extracted relation joins what has been joined; only the order of the lists differs.
      generalize extracted : extractLeast joined.joinsBefore first rest = split at ih
      rcases split with ⟨next, others⟩
      have same : (next :: others).Perm (first :: rest) := by
        simpa [extracted] using extractLeast_perm joined.joinsBefore first rest
      have laterTables : ∀ relation ∈ next :: others, relation.IsTable :=
        fun relation member => tables relation (same.mem_iff.mp member)
      have reordered : (next :: relations ++ others).Perm (relations ++ first :: rest) :=
        List.perm_middle.symm.trans (same.append_left relations)
      rw [joinAll, if_neg remaining, extracted, ← allow_perm reordered]
      refine ih (join.naturalJoin (laterTables next List.mem_cons_self)) ?_ ?_
      · exact fun relation member => laterTables relation (List.mem_cons_of_mem _ member)
      · exact (bind_perm reordered column).mpr bound

end Relation

end MotifVote
