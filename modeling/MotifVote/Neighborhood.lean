import MotifVote.Graph.Store
import MotifVote.Motif.Basic

/-!
# Neighbourhoods

The vertices that lie within a distance of an origin, along edges in either direction, and the edges
between them. A walk spends the weight of every edge it takes, and must not spend more than the
distance.

The search keeps the largest budget known for each vertex. It goes on from a vertex only where
something is left, and only if this is more than what was left there before; so it looks at a vertex
again when it is reached at less cost.
-/

namespace MotifVote

/-- What lies around an origin. -/
structure Neighborhood where
  vertices : Std.TreeSet VertexId
  edges : List Edge

/-- The state of a search: the vertices reached, the largest budgets known, and where to go on from,
the latest first. -/
structure Search (α : Type) where
  reached : Std.TreeSet VertexId
  budgets : Std.TreeMap VertexId α
  frontier : List (VertexId × α)

variable {σ α : Type} [GraphStore σ] [Scalar α]

namespace Search

/-- The search before its first step. -/
def start (origin : VertexId) (distance : α) : Search α :=
  ⟨∅, (∅ : Std.TreeMap VertexId α).insert origin distance, [(origin, distance)]⟩

/-- Takes an edge with some budget, if the budget allows it. -/
def take (budget : α) (search : Search α) (step : Edge × VertexId × α) : Search α :=
  let (_, other, weight) := step
  if budget < weight then search
  else
    let remaining := budget - weight
    let reached := search.reached.insert other
    let improves : Bool :=
      match search.budgets[other]? with
      | none => true
      | some known => known < remaining
    if remaining > 0 && improves then
      ⟨reached, search.budgets.insert other remaining, (other, remaining) :: search.frontier⟩
    else { search with reached }

/-- Goes on from the frontier until it is empty, for at most `fuel` steps. -/
def explore (store : σ) (weights : EdgeWeights α) : Nat → Search α → Search α
  | 0, search => search
  | fuel + 1, search =>
    match search.frontier with
    | [] => search
    | (vertex, budget) :: frontier =>
      explore store weights fuel
        ((GraphStore.weightedNeighbors store weights vertex).foldl (take budget)
          { search with frontier })

/-- More steps than there are walks without a repeated vertex, of which each is taken at most once.
-/
def bound (store : σ) : Nat :=
  Nat.pow (GraphStore.edgeCount store + 1) (GraphStore.vertexCount store)

end Search

namespace Neighborhood

/-- The neighbourhood of a vertex of a store. The origin belongs to it only if a walk leads back to
it, but the edges between the origin and what is reached are among its edges. -/
def around (store : σ) (origin : VertexId) (distance : α) (weights : EdgeWeights α) :
    Except Error Neighborhood :=
  if !(distance == distance) || distance < 0 then
    .error (.setting (.negativeDistance (Scalar.text distance)))
  else if !GraphStore.contains store origin then .error (.vertexNotFound origin)
  else
    let found := Search.explore store weights (Search.bound store) (.start origin distance)
    let edges :=
      if found.reached.isEmpty then []
      else GraphStore.edgesBetween store (found.reached.insert origin)
    .ok ⟨found.reached, edges⟩

/-- A vertex of a store as a vertex of a motif, which requires all but the judgement. -/
def motifVertex (store : σ) (vertex : VertexId) : Except Error MotifVertex := do
  let attributes ← GraphStore.attributes store vertex
  return ⟨vertex, .ofAttributes attributes [Attribute.judgementKind]⟩

/-- The neighbourhood of a vertex as a motif that selects it. -/
def record (store : σ) (origin : VertexId) (distance : α) (weights : EdgeWeights α) :
    Except Error Motif := do
  let found ← around store origin distance weights
  let vertices ← (found.vertices.insert origin).toList.mapM (motifVertex store)
  let edges := found.edges.map fun edge => ⟨edge.source, edge.destination, edge.label⟩
  (Motif.make origin vertices edges).mapError fun fault => .refused (.motif fault)

/-- The neighbourhoods of all vertices judged to be positives. -/
def extract (store : σ) (distance : α) (weights : EdgeWeights α) : Except Error (List Motif) :=
  (GraphStore.positives store).mapM fun origin => record store origin distance weights

end Neighborhood

end MotifVote
