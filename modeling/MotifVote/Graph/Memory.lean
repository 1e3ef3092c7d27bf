import MotifVote.Graph.Store

/-!
# Graphs in memory

A store that lasts as long as its value: vertices and edges by their ids, and for every vertex the
ids of the edges that leave it and of those that enter it.
-/

namespace MotifVote

/-- A graph in memory. -/
structure MemoryGraph where
  vertices : Std.TreeMap VertexId (List Attribute)
  edges : Std.TreeMap EdgeId Edge
  outgoing : Std.TreeMap VertexId (Std.TreeSet EdgeId)
  incoming : Std.TreeMap VertexId (Std.TreeSet EdgeId)
  nextVertex : VertexId
  nextEdge : EdgeId

namespace MemoryGraph

/-- The graph without vertices. -/
def empty : MemoryGraph := ⟨∅, ∅, ∅, ∅, 0, 0⟩

/-- Adds an edge to the ones noted for a vertex. -/
def noteEdge (noted : Std.TreeMap VertexId (Std.TreeSet EdgeId)) (vertex : VertexId)
    (edge : EdgeId) : Std.TreeMap VertexId (Std.TreeSet EdgeId) :=
  noted.insert vertex ((noted.getD vertex ∅).insert edge)

/-- The graph with one more vertex. -/
def createVertex (graph : MemoryGraph) (attributes : List Attribute) : VertexId × MemoryGraph :=
  (graph.nextVertex,
    { graph with
      vertices := graph.vertices.insert graph.nextVertex attributes
      nextVertex := nextId graph.nextVertex })

/-- The graph with one more attribute at a vertex. -/
def addAttribute (graph : MemoryGraph) (vertex : VertexId) (added : Attribute) :
    Except Error MemoryGraph :=
  match graph.vertices[vertex]? with
  | some attributes =>
    .ok { graph with vertices := graph.vertices.insert vertex (attributes ++ [added]) }
  | none => .error (.vertexNotFound vertex)

/-- The graph with one more edge. -/
def createEdge (graph : MemoryGraph) (source : VertexId) (label : String)
    (destination : VertexId) :
    Except Error (EdgeId × MemoryGraph) :=
  if graph.vertices.contains source && graph.vertices.contains destination then
    let id := graph.nextEdge
    .ok (id,
      { graph with
        edges := graph.edges.insert id ⟨id, source, destination, label⟩
        outgoing := noteEdge graph.outgoing source id
        incoming := noteEdge graph.incoming destination id
        nextEdge := nextId id })
  else .error (.endpointMissing source destination)

/-- The ids of the edges at a vertex. -/
def incidentIds (graph : MemoryGraph) (vertex : VertexId) : Std.TreeSet EdgeId :=
  (graph.outgoing.getD vertex ∅).insertMany (graph.incoming.getD vertex ∅).toList

instance : GraphStore MemoryGraph where
  createVertex := createVertex
  addAttribute := addAttribute
  createEdge := createEdge
  vertex? graph id := (graph.vertices[id]?).map fun attributes => ⟨id, attributes⟩
  contains graph id := graph.vertices.contains id
  vertexIds graph := graph.vertices.keys
  selectVertices graph kind value :=
    (graph.vertices.toList.filter fun (_, attributes) =>
      attributes.contains ⟨kind, value⟩).map (·.1)
  selectEdges graph label := graph.edges.values.filter (·.label == label)
  incidentEdges graph vertex :=
    (graph.incidentIds vertex).toList.filterMap fun id => graph.edges[id]?
  edges graph := graph.edges.values
  vertexCount graph := graph.vertices.size
  edgeCount graph := graph.edges.size

end MemoryGraph

end MotifVote
