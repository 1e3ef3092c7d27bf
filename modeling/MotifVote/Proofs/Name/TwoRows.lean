import MotifVote.Proofs.Name.Distance

/-!
# Edit distance in two rows

The table of edit distances can be computed in two rows that are overwritten in turn. While a row is
written, the cells in front of the current one are those of the new row and the cells behind it are
left over from the row before last, which is never read. So the invariant of a row is about its
cells up to some column only: they are the numbers of edits from the elements so far to the prefixes
of the right list.
-/

namespace MotifVote.Name

section Program

variable {α : Type} [DecidableEq α] (right : List α)

/-- A row of the table, with a cell for each prefix of the right list. -/
abbrev Cells := Vector Nat (right.length + 1)

/-- Overwrites the cell behind a column of the lower row. -/
def writeCell (element : α) (upper : Cells right) (column : Nat) (inside : column < right.length)
    (lower : Cells right) : Cells right :=
  let cost := if element = right[column] then 0 else 1
  lower.set (column + 1)
    (min (min (upper[column + 1] + 1) (lower[column] + 1)) (upper[column] + cost))

/-- Overwrites the lower row, cell by cell. -/
def writeRow (element : α) (first : Nat) (upper lower : Cells right) : Cells right :=
  Nat.fold right.length (writeCell right element upper) (lower.set 0 first)

/-- Writes the row for one more element, and lets the two rows change places. -/
def writeNext (rows : Cells right × Cells right) (entry : α × Nat) : Cells right × Cells right :=
  (writeRow right entry.1 (entry.2 + 1) rows.1 rows.2, rows.1)

/-- The edit distance of two lists, from a table of which two rows are kept. -/
def twoRowDistance (left right : List α) : Nat :=
  if right.isEmpty then left.length
  else
    let start := (Vector.range (right.length + 1), Vector.replicate (right.length + 1) 0)
    (left.zipIdx.foldl (writeNext right) start).1[right.length]

end Program

section Invariant

variable {α : Type} {left right : List α} {element : α} {last column : Nat}
variable {upper lower : Cells right}

/-- The cells of a row, up to a column, have the least numbers of edits from a list to the prefixes
of the right one. All lists are reversed. -/
def IsWritten (left : List α) (last : Nat) (row : Cells right) : Prop :=
  ∀ (column : Nat) (inside : column < right.length + 1), column ≤ last →
    IsCost left (right.take column).reverse row[column]

theorem isWritten_range (right : List α) :
    IsWritten [] right.length (Vector.range (right.length + 1) : Cells right) := by
  intro column inside atMost
  have cost := isCost_nil_left (right.take column).reverse
  rw [List.length_reverse, List.length_take_of_le atMost] at cost
  simpa using cost

theorem isWritten_set_zero (left : List α) (row : Cells right) :
    IsWritten left 0 (row.set 0 left.length) := by
  intro column inside atMost
  obtain rfl : column = 0 := Nat.le_zero.mp atMost
  simpa using isCost_nil_right left

variable [DecidableEq α]

/-- One more cell is written. The cells in front of it stay as they are. -/
theorem IsWritten.writeCell (above : IsWritten left right.length upper)
    (written : IsWritten (element :: left) column lower) (inside : column < right.length) :
    IsWritten (element :: left) (column + 1)
      (writeCell right element upper column inside lower) := by
  intro index bound atMost
  rcases Nat.lt_or_eq_of_le atMost with before | rfl
  · have different : column + 1 ≠ index := by omega
    rw [Name.writeCell, Vector.getElem_set_ne _ _ different]
    exact written index bound (by omega)
  · have next : (right.take (column + 1)).reverse =
        right[column] :: (right.take column).reverse := by
      rw [List.take_succ_eq_append_getElem inside, List.reverse_append]
      rfl
    have aboveCost := above (column + 1) bound inside
    have diagonalCost := above column (by omega) (by omega)
    have beforeCost := written column (by omega) le_rfl
    rw [next] at aboveCost ⊢
    rw [Name.writeCell, Vector.getElem_set_self]
    exact aboveCost.cons_cons beforeCost diagonalCost

theorem IsWritten.fold_writeCell (above : IsWritten left right.length upper)
    (written : IsWritten (element :: left) 0 lower) (count : Nat) (atMost : count ≤ right.length) :
    IsWritten (element :: left) count (Nat.fold count
      (fun column inside => Name.writeCell right element upper column (by omega)) lower) := by
  induction count with
  | zero => exact written
  | succ count ih =>
      rw [Nat.fold_succ]
      exact above.writeCell (ih (by omega)) (by omega)

/-- A row is written from the row above it, whatever it held before. -/
theorem IsWritten.writeRow (above : IsWritten left right.length upper) (element : α)
    (lower : Cells right) : IsWritten (element :: left) right.length
      (writeRow right element (left.length + 1) upper lower) :=
  above.fold_writeCell (isWritten_set_zero (element :: left) lower) right.length le_rfl

theorem IsWritten.foldl_writeNext (above : IsWritten left right.length upper)
    (elements : List α) (lower : Cells right) :
    IsWritten (elements.reverse ++ left) right.length
      ((elements.zipIdx left.length).foldl (writeNext right) (upper, lower)).1 := by
  induction elements generalizing left upper lower with
  | nil => exact above
  | cons element elements ih =>
      rw [List.reverse_cons, List.append_assoc, List.singleton_append, List.zipIdx_cons,
        List.foldl_cons]
      exact ih (above.writeRow element lower) upper

/-- Two rows are enough for the least number of edits. -/
theorem isLeast_twoRowDistance (left right : List α) :
    IsLeast {n | Edits n left right} (twoRowDistance left right) := by
  rw [twoRowDistance]
  split
  next empty =>
    obtain rfl : right = [] := List.isEmpty_iff.mp empty
    exact (isCost_nil_right left).isLeast_edits
  next =>
    have rows := (isWritten_range right).foldl_writeNext left (Vector.replicate _ 0)
    have cost := (rows right.length (Nat.lt_succ_self _) le_rfl).isLeast_edits
    simp only [List.append_nil, List.take_length, edits_reverse_iff] at cost
    exact cost

theorem twoRowDistance_eq_editDistance (left right : List α) :
    twoRowDistance left right = editDistance left right :=
  (isLeast_twoRowDistance left right).unique (isLeast_editDistance left right)

end Invariant

end MotifVote.Name
