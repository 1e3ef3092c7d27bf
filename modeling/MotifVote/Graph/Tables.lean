import MotifVote.Graph.Ingest

/-!
# Graphs in tables

A store that lasts: five tables, which a document file holds. Vertices and edges are filed by id.
The ends of edges are filed twice, by the vertex at the end and the edge, so that the edges at a
vertex lie next to each other. The last table holds the next ids.

An open store keeps a copy of the next ids. Closing it leaves the tables; opening reads the next
ids from them.
-/

namespace MotifVote

/-- The order of pairs by their first parts, then by their second parts. -/
abbrev pairOrder (left right : UInt64 × UInt64) : Ordering :=
  compareLex (compareOn Prod.fst) (compareOn Prod.snd) left right

/-- The rows of a table by the end of an edge and the edge. -/
abbrev EndTable := Std.TreeMap (VertexId × EdgeId) VertexId pairOrder

/-- What a document file holds. -/
structure Tables where
  vertices : Std.TreeMap VertexId (List Attribute)
  edges : Std.TreeMap EdgeId Edge
  /-- The destination of an edge, by its source and itself. -/
  outgoing : EndTable
  /-- The source of an edge, by its destination and itself. -/
  incoming : EndTable
  /-- The next ids, under the names of their counters. -/
  counters : Std.TreeMap String UInt64

/-- An open store of tables. -/
structure TableGraph where
  tables : Tables
  nextVertex : VertexId
  nextEdge : EdgeId

namespace Tables

/-- Tables without rows. -/
def empty : Tables := ⟨∅, ∅, ∅, ∅, ∅⟩

/-- The name of the counter of vertices. -/
def vertexCounter : String := "next_vertex_id"

/-- The name of the counter of edges. -/
def edgeCounter : String := "next_edge_id"

/-- The tables with an edge in three of them. -/
def fileEdge (tables : Tables) (edge : Edge) : Tables :=
  { tables with
    edges := tables.edges.insert edge.id edge
    outgoing := tables.outgoing.insert (edge.source, edge.id) edge.destination
    incoming := tables.incoming.insert (edge.destination, edge.id) edge.source }

/-- The edges that a table of ends files under a vertex. -/
def edgesUnder (ends : EndTable) (vertex : VertexId) : List EdgeId :=
  (ends.keys.filter (·.1 == vertex)).map (·.2)

end Tables

namespace TableGraph

/-- Opens the store that some tables hold. -/
def ofTables (tables : Tables) : TableGraph :=
  ⟨tables, tables.counters.getD Tables.vertexCounter 0,
    tables.counters.getD Tables.edgeCounter 0⟩

/-- The store after it has been closed and opened again. -/
def reopen (graph : TableGraph) : TableGraph := ofTables graph.tables

/-- The store with one more vertex. -/
def createVertex (graph : TableGraph) (attributes : List Attribute) : VertexId × TableGraph :=
  let next := nextId graph.nextVertex
  (graph.nextVertex,
    { graph with
      tables := { graph.tables with
        vertices := graph.tables.vertices.insert graph.nextVertex attributes
        counters := graph.tables.counters.insert Tables.vertexCounter next }
      nextVertex := next })

/-- The store with one more attribute at a vertex. -/
def addAttribute (graph : TableGraph) (vertex : VertexId) (added : Attribute) :
    Except Error TableGraph :=
  match graph.tables.vertices[vertex]? with
  | some attributes =>
    .ok { graph with
      tables := { graph.tables with
        vertices := graph.tables.vertices.insert vertex (attributes ++ [added]) } }
  | none => .error (.vertexNotFound vertex)

/-- The store with one more edge. -/
def createEdge (graph : TableGraph) (source : VertexId) (label : String)
    (destination : VertexId) : Except Error (EdgeId × TableGraph) :=
  if graph.tables.vertices.contains source && graph.tables.vertices.contains destination then
    let id := graph.nextEdge
    let filed := graph.tables.fileEdge ⟨id, source, destination, label⟩
    .ok (id,
      { graph with
        tables := { filed with
          counters := filed.counters.insert Tables.edgeCounter (nextId id) }
        nextEdge := nextId id })
  else .error (.endpointMissing source destination)

/-- The ids of the edges at a vertex. -/
def incidentIds (graph : TableGraph) (vertex : VertexId) : Std.TreeSet EdgeId :=
  .ofList (Tables.edgesUnder graph.tables.outgoing vertex ++
    Tables.edgesUnder graph.tables.incoming vertex)

instance : GraphStore TableGraph where
  createVertex := createVertex
  addAttribute := addAttribute
  createEdge := createEdge
  vertex? graph id := (graph.tables.vertices[id]?).map fun attributes => ⟨id, attributes⟩
  contains graph id := graph.tables.vertices.contains id
  vertexIds graph := graph.tables.vertices.keys
  selectVertices graph kind value :=
    (graph.tables.vertices.toList.filter fun (_, attributes) =>
      attributes.contains ⟨kind, value⟩).map (·.1)
  selectEdges graph label := graph.tables.edges.values.filter (·.label == label)
  incidentEdges graph vertex :=
    (graph.incidentIds vertex).toList.filterMap fun id => graph.tables.edges[id]?
  edges graph := graph.tables.edges.values
  vertexCount graph := graph.tables.vertices.size
  edgeCount graph := graph.tables.edges.size

/-- What storing a document in one transaction has reached: the mapping so far, the tables, and the
ids that come next. -/
structure Transaction where
  mapping : Mapping
  tables : Tables
  nextVertex : VertexId
  nextEdge : EdgeId

/-- Files one more vertex of the document. -/
def Transaction.storeVertex (transaction : Transaction) (record : VertexRecord) : Transaction :=
  let id := transaction.nextVertex
  { transaction with
    mapping := transaction.mapping.insert record.identifier id
    tables := { transaction.tables with
      vertices := transaction.tables.vertices.insert id record.attributes }
    nextVertex := nextId id }

/-- Files one more edge of the document. -/
def Transaction.storeEdge (transaction : Transaction) (record : EdgeRecord) :
    Except Error Transaction :=
  match transaction.mapping[record.source]?, transaction.mapping[record.destination]? with
  | some source, some destination =>
    let id := transaction.nextEdge
    .ok { transaction with
      tables := transaction.tables.fileEdge ⟨id, source, destination, record.label⟩
      nextEdge := nextId id }
  | none, _ => .error (.graph (.undeclaredVertex record.source))
  | _, none => .error (.graph (.undeclaredVertex record.destination))

/-- The store with a whole document, in one transaction: the counters are written once, at its end.
-/
def ingest (graph : TableGraph) (document : GraphDocument) :
    Except Error (Mapping × TableGraph) := do
  document.check.mapError .graph
  let opened : Transaction := ⟨∅, graph.tables, graph.nextVertex, graph.nextEdge⟩
  let filled := document.vertices.foldl Transaction.storeVertex opened
  let done ← document.edges.foldlM Transaction.storeEdge filled
  let counters := (done.tables.counters.insert Tables.vertexCounter done.nextVertex).insert
    Tables.edgeCounter done.nextEdge
  return (done.mapping, ⟨{ done.tables with counters }, done.nextVertex, done.nextEdge⟩)

end TableGraph

end MotifVote
