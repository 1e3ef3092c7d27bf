import MotifVote.Graph.Basic
import MotifVote.Graph.Weights
import Std.Data.TreeSet

/-!
# Graph stores

What every store of a document graph can do. Vertices and edges are only ever added, and attributes
only appended; a write that fails has no effect. All lists of vertices and edges are ascending.
-/

namespace MotifVote

/-- The id handed out after an id. The last id is handed out again and again. -/
def nextId (id : UInt64) : UInt64 := if id = UInt64.ofNat (UInt64.size - 1) then id else id + 1

/-- A store of one document graph. -/
class GraphStore (σ : Type) where
  /-- Adds a vertex and says its id. -/
  createVertex : σ → List Attribute → VertexId × σ
  /-- Appends an attribute to a vertex of the store. -/
  addAttribute : σ → VertexId → Attribute → Except Error σ
  /-- Adds an edge between vertices of the store and says its id. -/
  createEdge : σ → VertexId → String → VertexId → Except Error (EdgeId × σ)
  vertex? : σ → VertexId → Option Vertex
  contains : σ → VertexId → Bool
  vertexIds : σ → List VertexId
  /-- The vertices that carry an attribute. -/
  selectVertices : σ → String → String → List VertexId
  /-- The edges with a label. -/
  selectEdges : σ → String → List Edge
  /-- The edges that a vertex is an end of, each once. -/
  incidentEdges : σ → VertexId → List Edge
  edges : σ → List Edge
  vertexCount : σ → Nat
  edgeCount : σ → Nat

namespace GraphStore

variable {σ α : Type} [GraphStore σ] [Scalar α]

/-- The attributes of a vertex, the oldest first. -/
def attributes (store : σ) (vertex : VertexId) : Except Error (List Attribute) :=
  match vertex? store vertex with
  | some found => .ok found.attributes
  | none => .error (.vertexNotFound vertex)

/-- Every edge at a vertex, with the vertex across and the weight of the edge. -/
def weightedNeighbors (store : σ) (weights : EdgeWeights α) (vertex : VertexId) :
    List (Edge × VertexId × α) :=
  (incidentEdges store vertex).filterMap fun edge =>
    (edge.otherEnd? vertex).map fun other => (edge, other, weights.weight edge.label)

/-- The edges both ends of which lie in a set of vertices. -/
def edgesBetween (store : σ) (vertices : Std.TreeSet VertexId) : List Edge :=
  let found := vertices.toList.flatMap fun vertex =>
    (incidentEdges store vertex).filter fun edge =>
      vertices.contains edge.source && vertices.contains edge.destination
  (Std.TreeMap.ofList (found.map fun edge => (edge.id, edge))).values

/-- The vertices judged to be positives. -/
def positives (store : σ) : List VertexId :=
  selectVertices store Attribute.judgementKind Attribute.positiveValue

end GraphStore

end MotifVote
