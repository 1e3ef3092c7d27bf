import MotifVote.Query.Selection

/-!
# Queries

A query joins the answers to its selections on their shared columns and projects the join on one
column. The joins are made one after the other: the smallest relation comes first, then always the
smallest of those that share a column with what has been joined, and of the others only where there
is none.
-/

namespace MotifVote

/-- Selections to join, and the column that is asked for. -/
structure Query where
  selections : List Selection
  projection : Column
  deriving DecidableEq, Repr

section Least

variable {β : Type}

/-- The first element of a list that none of the others comes before, and the others. -/
def extractLeast (before : β → β → Bool) (first : β) : List β → β × List β
  | [] => (first, [])
  | next :: rest =>
    if before next first then
      let (least, others) := extractLeast before next rest
      (least, first :: others)
    else
      let (least, others) := extractLeast before first rest
      (least, next :: others)

theorem length_extractLeast (before : β → β → Bool) (first : β) (rest : List β) :
    (extractLeast before first rest).2.length = rest.length := by
  induction rest generalizing first with
  | nil => rfl
  | cons next rest ih =>
    simp only [extractLeast]
    split <;> simp [ih]

end Least

namespace Relation

/-- Whether two relations share a column. -/
def isConnected (left right : Relation) : Bool :=
  right.columns.any fun column => left.columns.contains column

/-- Whether one relation is joined before another: a connected one before one that is not, and then
the smaller one. -/
def joinsBefore (joined left right : Relation) : Bool :=
  match joined.isConnected left, joined.isConnected right with
  | true, false => true
  | false, true => false
  | _, _ => left.size < right.size

/-- Joins the pending relations to what has been joined; an empty join stays empty. -/
def joinAll (joined : Relation) : List Relation → Relation
  | [] => joined
  | first :: rest =>
    if joined.isEmpty then joined
    else joinAll (joined.naturalJoin (extractLeast joined.joinsBefore first rest).1)
      (extractLeast joined.joinsBefore first rest).2
  termination_by pending => pending.length
  decreasing_by simp [length_extractLeast]

end Relation

namespace Query

/-- Refuses a query whose projection no selection binds. -/
def check (query : Query) : Except MotifFault Unit :=
  if query.selections.any fun selection => selection.columns.contains query.projection then .ok ()
  else .error (.unboundColumn query.projection)

variable {σ : Type} [GraphStore σ]

/-- The vertices of a store that answer a query, ascending. -/
def run (store : σ) (query : Query) : Except MotifFault (List VertexId) := do
  query.check
  match query.selections.map (Selection.answers store) with
  | [] => return []
  | first :: rest =>
    let (smallest, pending) := extractLeast (fun left right => left.size < right.size) first rest
    return (smallest.joinAll pending).project query.projection

end Query

end MotifVote
