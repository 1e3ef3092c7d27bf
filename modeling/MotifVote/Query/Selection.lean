import MotifVote.Graph.Store
import MotifVote.Motif.Filter
import MotifVote.Query.Relation

/-!
# Selections

What a query asks of a store at once: the vertices that carry some attributes, or the edges with a
label, and the relation of all answers.
-/

namespace MotifVote

/-- One question to a store. -/
inductive Selection where
  /-- The vertices that satisfy every predicate. -/
  | vertices (column : Column) (predicates : List Predicate)
  /-- The ends of the edges with a label. The two columns may be the same: then only loops count.
  -/
  | edges (label : String) (source destination : Column)
  deriving DecidableEq, Repr

namespace Selection

/-- The columns that a selection binds, without repetition. -/
def columns : Selection → List Column
  | .vertices column _ => [column]
  | .edges _ source destination =>
    if source = destination then [source] else [source, destination]

variable {σ : Type} [GraphStore σ]

/-- The vertices that satisfy every predicate; without predicates, all vertices. -/
def candidates (store : σ) : List Predicate → List VertexId
  | [] => GraphStore.vertexIds store
  | predicate :: predicates =>
    let first := GraphStore.selectVertices store predicate.kind predicate.value
    predicates.foldl
      (fun found predicate =>
        let selected :=
          Std.TreeSet.ofList (GraphStore.selectVertices store predicate.kind predicate.value)
        found.filter selected.contains)
      first

/-- The row of an edge, if it is an answer for the two columns. -/
def edgeRow? (source destination : Column) (edge : Edge) : Option Row :=
  if source = destination then
    if edge.source = edge.destination then some [edge.source] else none
  else some [edge.source, edge.destination]

/-- The relation of all answers of a store. -/
def answers (store : σ) (selection : Selection) : Relation :=
  let rows :=
    match selection with
    | .vertices _ predicates => (candidates store predicates).map fun vertex => [vertex]
    | .edges label source destination =>
      (GraphStore.selectEdges store label).filterMap (edgeRow? source destination)
  ⟨selection.columns, .ofList rows⟩

end Selection

end MotifVote
