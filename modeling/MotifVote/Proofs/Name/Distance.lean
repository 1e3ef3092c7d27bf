import MotifVote.Name.Distance
import Mathlib.Order.Lattice.Nat
import Mathlib.Order.ConditionallyCompleteLattice.Basic

/-!
# The least number of edits

An edit inserts, deletes or replaces one element. The edit distance is the least number of edits
that turn one list into another.

Edits can be made in any order and undo each other, so the proof goes over alignments, which go
through both lists once and say for each element whether it stays, is replaced, deleted or inserted.
The first step of an alignment leaves an alignment of what follows; this is the rule by which a cell
of the table follows from its neighbours. The table has the prefixes of the lists in place of what
follows, so it is about the reversed lists, which need as many edits.
-/

namespace MotifVote.Name

variable {α : Type}

/-- One element is inserted, deleted or replaced, at the front or behind elements that stay. -/
inductive Edit : List α → List α → Prop
  | insert (x : α) (list : List α) : Edit list (x :: list)
  | delete (x : α) (list : List α) : Edit (x :: list) list
  | replace (x y : α) (list : List α) : Edit (x :: list) (y :: list)
  | later {left right : List α} (x : α) : Edit left right → Edit (x :: left) (x :: right)

/-- One list is turned into another by some number of edits, one after another. -/
inductive Edits : Nat → List α → List α → Prop
  | none (list : List α) : Edits 0 list list
  | step {n : Nat} {left middle right : List α} :
      Edits n left middle → Edit middle right → Edits (n + 1) left right

/-- The least number of edits that turn one list into another. -/
noncomputable def leastEdits (left right : List α) : Nat := sInf {n | Edits n left right}

/-- A walk through two lists at once, with the number of elements that do not stay. -/
inductive Aligns : List α → List α → Nat → Prop
  | nil : Aligns [] [] 0
  | keep {left right : List α} {n : Nat} (x : α) :
      Aligns left right n → Aligns (x :: left) (x :: right) n
  | replace {left right : List α} {n : Nat} (x y : α) :
      Aligns left right n → Aligns (x :: left) (y :: right) (n + 1)
  | delete {left right : List α} {n : Nat} (x : α) :
      Aligns left right n → Aligns (x :: left) right (n + 1)
  | insert {left right : List α} {n : Nat} (y : α) :
      Aligns left right n → Aligns left (y :: right) (n + 1)

section Edits

variable {left right list : List α} {n : Nat}

theorem Edit.append_left (front : List α) (edit : Edit left right) :
    Edit (front ++ left) (front ++ right) := by
  induction front with
  | nil => exact edit
  | cons x front ih => exact ih.later x

theorem Edit.append_right (edit : Edit left right) (back : List α) :
    Edit (left ++ back) (right ++ back) := by
  induction edit with
  | insert x list => exact .insert x (list ++ back)
  | delete x list => exact .delete x (list ++ back)
  | replace x y list => exact .replace x y (list ++ back)
  | later x _ ih => exact ih.later x

theorem Edit.reverse (edit : Edit left right) : Edit left.reverse right.reverse := by
  induction edit with
  | insert x list =>
      rw [List.reverse_cons]
      simpa using (Edit.insert x []).append_left list.reverse
  | delete x list =>
      rw [List.reverse_cons]
      simpa using (Edit.delete x []).append_left list.reverse
  | replace x y list =>
      rw [List.reverse_cons, List.reverse_cons]
      exact (Edit.replace x y []).append_left list.reverse
  | later x _ ih =>
      rw [List.reverse_cons, List.reverse_cons]
      exact ih.append_right [x]

theorem Edits.later (x : α) (edits : Edits n left right) : Edits n (x :: left) (x :: right) := by
  induction edits with
  | none list => exact .none (x :: list)
  | step _ edit ih => exact ih.step (edit.later x)

theorem Edits.reverse (edits : Edits n left right) : Edits n left.reverse right.reverse := by
  induction edits with
  | none list => exact .none list.reverse
  | step _ edit ih => exact ih.step edit.reverse

theorem edits_reverse_iff : Edits n left.reverse right.reverse ↔ Edits n left right := by
  constructor
  · intro edits
    simpa using edits.reverse
  · exact Edits.reverse

end Edits

section Alignments

variable {left middle right : List α} {n : Nat}

theorem aligns_self (list : List α) : Aligns list list 0 := by
  induction list with
  | nil => exact .nil
  | cons x list ih => exact ih.keep x

theorem Aligns.edits (aligns : Aligns left right n) : Edits n left right := by
  induction aligns with
  | nil => exact .none []
  | keep x _ ih => exact ih.later x
  | replace x y _ ih => exact (ih.later x).step (.replace x y _)
  | delete x _ ih => exact (ih.later x).step (.delete x _)
  | insert y _ ih => exact ih.step (.insert y _)

/-- One more edit makes an alignment no more than one element worse. -/
theorem Aligns.edit (aligns : Aligns left middle n) (edit : Edit middle right) :
    ∃ m ≤ n + 1, Aligns left right m := by
  induction aligns generalizing right with
  | nil =>
      cases edit with
      | insert y => exact ⟨1, le_refl 1, Aligns.nil.insert y⟩
  | @keep _ _ n x aligns ih =>
      cases edit with
      | insert y => exact ⟨n + 1, le_refl _, (aligns.keep x).insert y⟩
      | delete => exact ⟨n + 1, le_refl _, aligns.delete x⟩
      | replace _ y => exact ⟨n + 1, le_refl _, aligns.replace x y⟩
      | later _ edit =>
          rcases ih edit with ⟨m, atMost, aligns⟩
          exact ⟨m, atMost, aligns.keep x⟩
  | @replace _ _ n x z aligns ih =>
      cases edit with
      | insert y => exact ⟨n + 2, le_refl _, (aligns.replace x z).insert y⟩
      | delete => exact ⟨n + 1, by omega, aligns.delete x⟩
      | replace _ y => exact ⟨n + 1, by omega, aligns.replace x y⟩
      | later _ edit =>
          rcases ih edit with ⟨m, atMost, aligns⟩
          exact ⟨m + 1, by omega, aligns.replace x z⟩
  | delete x aligns ih =>
      rcases ih edit with ⟨m, atMost, aligns⟩
      exact ⟨m + 1, by omega, aligns.delete x⟩
  | @insert _ _ n z aligns ih =>
      cases edit with
      | insert y => exact ⟨n + 2, le_refl _, (aligns.insert z).insert y⟩
      | delete => exact ⟨n, by omega, aligns⟩
      | replace _ y => exact ⟨n + 1, by omega, aligns.insert y⟩
      | later _ edit =>
          rcases ih edit with ⟨m, atMost, aligns⟩
          exact ⟨m + 1, by omega, aligns.insert z⟩

theorem Edits.exists_aligns (edits : Edits n left right) : ∃ m ≤ n, Aligns left right m := by
  induction edits with
  | none list => exact ⟨0, le_refl 0, aligns_self list⟩
  | step _ edit ih =>
      rcases ih with ⟨m, atMost, aligns⟩
      rcases aligns.edit edit with ⟨k, atMostMore, aligns⟩
      exact ⟨k, by omega, aligns⟩

/-- A number of elements that do not stay in some alignment, and no fewer do in any other. -/
def IsCost (left right : List α) (n : Nat) : Prop := IsLeast {m | Aligns left right m} n

theorem IsCost.isLeast_edits (cost : IsCost left right n) : IsLeast {m | Edits m left right} n := by
  refine ⟨cost.1.edits, ?_⟩
  intro m edits
  rcases Edits.exists_aligns edits with ⟨k, atMost, aligns⟩
  exact (cost.2 aligns).trans atMost

theorem isCost_nil_left (right : List α) : IsCost [] right right.length := by
  refine ⟨?_, ?_⟩
  · induction right with
    | nil => exact .nil
    | cons y right ih => exact ih.insert y
  · intro m aligns
    induction right generalizing m with
    | nil => exact Nat.zero_le m
    | cons y right ih =>
        cases aligns with
        | insert _ aligns => exact Nat.succ_le_succ (ih aligns)

theorem IsCost.cons_nil (cost : IsCost left [] n) (x : α) : IsCost (x :: left) [] (n + 1) := by
  refine ⟨cost.1.delete x, ?_⟩
  intro m aligns
  cases aligns with
  | delete _ aligns => exact Nat.succ_le_succ (cost.2 aligns)

theorem isCost_nil_right (left : List α) : IsCost left [] left.length := by
  induction left with
  | nil => exact isCost_nil_left []
  | cons x left ih => exact ih.cons_nil x

/-- The rule for a cell of the table, from the cells above it, left of it and diagonally above. -/
theorem IsCost.cons_cons [DecidableEq α] {above before diagonal : Nat} {x y : α}
    (aboveCost : IsCost left (y :: right) above) (beforeCost : IsCost (x :: left) right before)
    (diagonalCost : IsCost left right diagonal) :
    IsCost (x :: left) (y :: right)
      (min (min (above + 1) (before + 1)) (diagonal + if x = y then 0 else 1)) := by
  refine ⟨?_, ?_⟩
  · have deleted : Aligns (x :: left) (y :: right) (above + 1) := aboveCost.1.delete x
    have inserted : Aligns (x :: left) (y :: right) (before + 1) := beforeCost.1.insert y
    have paired : Aligns (x :: left) (y :: right) (diagonal + if x = y then 0 else 1) := by
      split
      next same => exact same ▸ diagonalCost.1.keep x
      next => exact diagonalCost.1.replace x y
    rcases min_choice (min (above + 1) (before + 1)) (diagonal + if x = y then 0 else 1) with
      outer | outer
    · rcases min_choice (above + 1) (before + 1) with inner | inner
      · rw [Set.mem_ofPred_eq, outer, inner]
        exact deleted
      · rw [Set.mem_ofPred_eq, outer, inner]
        exact inserted
    · rw [Set.mem_ofPred_eq, outer]
      exact paired
  · intro m aligns
    cases aligns with
    | keep _ aligns =>
        have atLeast := diagonalCost.2 aligns
        simp only [if_true]
        omega
    | replace _ _ aligns =>
        have atLeast := diagonalCost.2 aligns
        split <;> omega
    | delete _ aligns =>
        have atLeast := aboveCost.2 aligns
        omega
    | insert _ aligns =>
        have atLeast := beforeCost.2 aligns
        omega

end Alignments

section Table

variable {left : List α}

/-- The cells of a row, from the column of the prefix `before` on, which is followed by `others`.
Both prefixes are reversed. -/
def IsRow (left : List α) : List α → List α → List Nat → Prop
  | before, [], row => ∃ cell, row = [cell] ∧ IsCost left before cell
  | before, other :: others, row =>
    ∃ cell cells, row = cell :: cells ∧ IsCost left before cell ∧
      IsRow left (other :: before) others cells

theorem IsRow.exists_cons {before others : List α} {row : List Nat}
    (isRow : IsRow left before others row) :
    ∃ cell cells, row = cell :: cells ∧ IsCost left before cell := by
  cases others with
  | nil =>
      rcases isRow with ⟨cell, rfl, cost⟩
      exact ⟨cell, [], rfl, cost⟩
  | cons other others =>
      rcases isRow with ⟨cell, cells, rfl, cost, -⟩
      exact ⟨cell, cells, rfl, cost⟩

theorem isRow_range (before others : List α) :
    IsRow [] before others (List.range' before.length (others.length + 1)) := by
  induction others generalizing before with
  | nil => exact ⟨before.length, rfl, isCost_nil_left before⟩
  | cons other others ih =>
      exact ⟨before.length, _, List.range'_succ, isCost_nil_left before, ih (other :: before)⟩

theorem IsRow.getLastD {before others : List α} {row : List Nat}
    (isRow : IsRow left before others row) (default : Nat) :
    IsCost left (others.reverse ++ before) (row.getLastD default) := by
  induction others generalizing before row default with
  | nil =>
      rcases isRow with ⟨cell, rfl, cost⟩
      exact cost
  | cons other others ih =>
      rcases isRow with ⟨cell, cells, rfl, -, rest⟩
      rw [List.reverse_cons, List.append_assoc, List.singleton_append, List.getLastD_cons]
      exact ih rest cell

variable [DecidableEq α]

/-- The rest of a row follows from the row above and the cell before it. -/
theorem IsRow.extendRow {before others : List α} {row : List Nat} {element : α} {first : Nat}
    (isRow : IsRow left before others row) (cost : IsCost (element :: left) before first) :
    IsRow (element :: left) before others (first :: extendRow element first others row) := by
  induction others generalizing before row first with
  | nil =>
      rcases isRow with ⟨cell, rfl, -⟩
      exact ⟨first, rfl, cost⟩
  | cons other others ih =>
      rcases isRow with ⟨diagonal, cells, rfl, diagonalCost, rest⟩
      rcases rest.exists_cons with ⟨above, later, rfl, aboveCost⟩
      exact ⟨first, _, rfl, cost, ih rest (aboveCost.cons_cons cost diagonalCost)⟩

theorem IsRow.nextRow {right : List α} {row : List Nat} (isRow : IsRow left [] right row)
    (element : α) : IsRow (element :: left) [] right (nextRow element right row) := by
  rcases isRow.exists_cons with ⟨first, cells, rfl, cost⟩
  exact isRow.extendRow (cost.cons_nil element)

theorem IsRow.foldl_nextRow {right : List α} {row : List Nat} (isRow : IsRow left [] right row)
    (elements : List α) : IsRow (elements.reverse ++ left) [] right
      (elements.foldl (fun row element => Name.nextRow element right row) row) := by
  induction elements generalizing left row with
  | nil => exact isRow
  | cons element elements ih =>
      rw [List.reverse_cons, List.append_assoc, List.singleton_append]
      exact ih (isRow.nextRow element)

/-- The table ends with the least number of edits. -/
theorem isLeast_editDistance (left right : List α) :
    IsLeast {n | Edits n left right} (editDistance left right) := by
  have start : IsRow [] [] right (List.range (right.length + 1)) := by
    rw [List.range_eq_range']
    exact isRow_range [] right
  have last := ((start.foldl_nextRow left).getLastD 0).isLeast_edits
  simp only [List.append_nil, edits_reverse_iff] at last
  exact last

theorem leastEdits_eq_editDistance (left right : List α) :
    leastEdits left right = editDistance left right :=
  (isLeast_editDistance left right).csInf_eq

end Table

end MotifVote.Name
