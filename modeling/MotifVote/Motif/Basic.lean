import MotifVote.Motif.Filter
import MotifVote.Query.Join

/-!
# Motifs

A motif is a small pattern graph with one vertex that it selects. Its vertices have identifiers of
their own and a filter each; its edges have labels. A vertex of a store is selected if the whole
motif can be sent into the store, not necessarily to different vertices, with the selector going to
that vertex.
-/

namespace MotifVote

/-- A vertex of a motif, with what it requires. -/
structure MotifVertex where
  identifier : UInt64
  filter : Filter
  deriving DecidableEq, Repr

/-- An edge between two vertices of a motif, with the label it requires. -/
structure MotifEdge where
  source : UInt64
  destination : UInt64
  label : String
  deriving DecidableEq, Repr

/-- The identifiers of the vertices of a motif. -/
def declaredBy (vertices : List MotifVertex) : List UInt64 := vertices.map (·.identifier)

/-- A pattern graph with a selector. No two vertices share an identifier, and the selector and the
ends of all edges are vertices of the motif. -/
structure Motif where
  selector : UInt64
  vertices : List MotifVertex
  edges : List MotifEdge
  distinct : (declaredBy vertices).Nodup
  selectorDeclared : selector ∈ declaredBy vertices
  endsDeclared : ∀ edge ∈ edges,
    edge.source ∈ declaredBy vertices ∧ edge.destination ∈ declaredBy vertices
  deriving DecidableEq, Repr

namespace Motif

/-- Whether an end of an edge is no vertex among the ones given. -/
def isDangling (vertices : List MotifVertex) (edge : MotifEdge) : Bool :=
  !((declaredBy vertices).contains edge.source && (declaredBy vertices).contains edge.destination)

theorem ends_declared_of_find?_dangling {vertices : List MotifVertex} {edges : List MotifEdge}
    (none : edges.find? (isDangling vertices) = none) :
    ∀ edge ∈ edges, edge.source ∈ declaredBy vertices ∧ edge.destination ∈ declaredBy vertices := by
  intro edge member
  have sound := List.find?_eq_none.mp none edge member
  simpa [isDangling] using sound

/-- The motif of some parts. Repeated vertices are refused first, then a selector that is no
vertex, then the first edge with an end that is none. -/
def make (selector : UInt64) (vertices : List MotifVertex) (edges : List MotifEdge) :
    Except MotifFault Motif :=
  match repeated : firstRepeat? [] (declaredBy vertices) with
  | some identifier => .error (.repeatedVertex identifier)
  | none =>
    if declared : selector ∈ declaredBy vertices then
      match dangling : edges.find? (isDangling vertices) with
      | some edge => .error (.undeclaredEndpoint edge.source edge.label edge.destination)
      | none =>
        .ok ⟨selector, vertices, edges, nodup_of_firstRepeat?_eq_none repeated, declared,
          ends_declared_of_find?_dangling dangling⟩
    else .error (.undeclaredSelector selector)

/-- The query of a motif: a selection for each vertex and each edge, projected on the selector. -/
def query (motif : Motif) : Query :=
  { selections :=
      motif.vertices.map (fun vertex => .vertices vertex.identifier vertex.filter.predicates) ++
        motif.edges.map fun edge => .edges edge.label edge.source edge.destination
    projection := motif.selector }

/-- The vertices of a store that a motif selects, ascending. -/
def evaluate {σ : Type} [GraphStore σ] (store : σ) (motif : Motif) : Except Error (List VertexId) :=
  (motif.query.run store).mapError fun fault => .refused (.motif fault)

end Motif

/-- A vertex of a motif as it is shown. -/
def MotifVertex.text (vertex : MotifVertex) : String :=
  s!"{vertex.identifier} @ " ++ vertex.filter.text

/-- An edge of a motif as it is shown. -/
def MotifEdge.text (edge : MotifEdge) : String :=
  s!"{edge.source} --[{edge.label}]-> {edge.destination}"

/-- A motif as it is shown. -/
def Motif.text (motif : Motif) : String :=
  s!"select {motif.selector} from \x7b" ++ ", ".intercalate (motif.vertices.map (·.text)) ++
    "\x7d where \x7b" ++ ", ".intercalate (motif.edges.map (·.text)) ++ "\x7d"

section Order

/-- Predicates are ordered by kind, then by value. -/
def Predicate.order : Predicate → Predicate → Ordering :=
  compareLex (compareOn (·.kind)) (compareOn (·.value))

/-- Vertices are ordered by identifier, then by their predicates. -/
def MotifVertex.order : MotifVertex → MotifVertex → Ordering :=
  compareLex (compareOn (·.identifier)) fun left right =>
    List.compareLex Predicate.order left.filter.predicates right.filter.predicates

/-- Edges are ordered by source, destination and label. -/
def MotifEdge.order : MotifEdge → MotifEdge → Ordering :=
  compareLex (compareOn (·.source))
    (compareLex (compareOn (·.destination)) (compareOn (·.label)))

/-- Motifs are ordered by selector, then by the lists of their vertices and of their edges. -/
def Motif.order : Motif → Motif → Ordering :=
  compareLex (compareOn (·.selector))
    (compareLex (fun left right => List.compareLex MotifVertex.order left.vertices right.vertices)
      fun left right => List.compareLex MotifEdge.order left.edges right.edges)

end Order

end MotifVote
