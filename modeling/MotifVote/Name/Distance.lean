/-!
# Edit distance

The least number of insertions, deletions and replacements of single elements that turn one list
into another, computed row by row. Row `i` of the table holds the distances from the first `i`
elements of the left list to every prefix of the right one.
-/

namespace MotifVote.Name

variable {α : Type} [DecidableEq α]

/-- The rest of a row behind the cell `left`, from the row above: its first cell lies diagonally
above the next cell, its second one straight above. -/
def extendRow (element : α) : Nat → List α → List Nat → List Nat
  | left, other :: others, diagonal :: above :: row =>
    let cost := if element = other then 0 else 1
    let cell := min (min (above + 1) (left + 1)) (diagonal + cost)
    cell :: extendRow element cell others (above :: row)
  | _, _, _ => []

/-- The row below a row, for one more element of the left list. -/
def nextRow (element : α) (right : List α) (row : List Nat) : List Nat :=
  let first := row.headD 0 + 1
  first :: extendRow element first right row

/-- The edit distance of two lists. -/
def editDistance (left right : List α) : Nat :=
  (left.foldl (fun row element => nextRow element right row)
    (List.range (right.length + 1))).getLastD 0

end MotifVote.Name
