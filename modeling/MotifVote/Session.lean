import MotifVote.Graph.Memory
import MotifVote.Graph.Tables

/-!
# Sessions

An open document store under its locator: a graph in memory, or the tables of a file.
-/

namespace MotifVote

/-- What keeps the graph of a session. -/
inductive Backend where
  | memory (graph : MemoryGraph)
  | tables (graph : TableGraph)

/-- An open document store. -/
structure Session where
  locator : String
  backend : Backend

namespace Session

/-- The locator of stores that are kept in memory only. -/
def memoryLocator : String := ":memory:"

/-- The session of a graph in memory. -/
def ofGraph (graph : MemoryGraph) : Session := ⟨memoryLocator, .memory graph⟩

/-- A session in memory without vertices. -/
def inMemory : Session := ofGraph .empty

/-- The session of the tables that a file holds. -/
def ofTables (locator : String) (tables : Tables) : Session :=
  ⟨locator, .tables (.ofTables tables)⟩

/-- Whether what is stored outlasts the session. -/
def isPersistent (session : Session) : Bool :=
  match session.backend with
  | .memory _ => false
  | .tables _ => true

/-- The result of a write, kept in the session it was asked of. -/
def keep (session : Session) : Backend → Session := fun backend => { session with backend }

instance : GraphStore Session where
  createVertex session attributes :=
    match session.backend with
    | .memory graph =>
      let (id, graph) := GraphStore.createVertex graph attributes
      (id, session.keep (.memory graph))
    | .tables graph =>
      let (id, graph) := GraphStore.createVertex graph attributes
      (id, session.keep (.tables graph))
  addAttribute session vertex added :=
    match session.backend with
    | .memory graph => do
      return session.keep (.memory (← GraphStore.addAttribute graph vertex added))
    | .tables graph => do
      return session.keep (.tables (← GraphStore.addAttribute graph vertex added))
  createEdge session source label destination :=
    match session.backend with
    | .memory graph => do
      let (id, graph) ← GraphStore.createEdge graph source label destination
      return (id, session.keep (.memory graph))
    | .tables graph => do
      let (id, graph) ← GraphStore.createEdge graph source label destination
      return (id, session.keep (.tables graph))
  vertex? session id :=
    match session.backend with
    | .memory graph => GraphStore.vertex? graph id
    | .tables graph => GraphStore.vertex? graph id
  contains session id :=
    match session.backend with
    | .memory graph => GraphStore.contains graph id
    | .tables graph => GraphStore.contains graph id
  vertexIds session :=
    match session.backend with
    | .memory graph => GraphStore.vertexIds graph
    | .tables graph => GraphStore.vertexIds graph
  selectVertices session kind value :=
    match session.backend with
    | .memory graph => GraphStore.selectVertices graph kind value
    | .tables graph => GraphStore.selectVertices graph kind value
  selectEdges session label :=
    match session.backend with
    | .memory graph => GraphStore.selectEdges graph label
    | .tables graph => GraphStore.selectEdges graph label
  incidentEdges session vertex :=
    match session.backend with
    | .memory graph => GraphStore.incidentEdges graph vertex
    | .tables graph => GraphStore.incidentEdges graph vertex
  edges session :=
    match session.backend with
    | .memory graph => GraphStore.edges graph
    | .tables graph => GraphStore.edges graph
  vertexCount session :=
    match session.backend with
    | .memory graph => GraphStore.vertexCount graph
    | .tables graph => GraphStore.vertexCount graph
  edgeCount session :=
    match session.backend with
    | .memory graph => GraphStore.edgeCount graph
    | .tables graph => GraphStore.edgeCount graph

/-- The session after it has been closed and opened again: tables last, a graph in memory does not.
-/
def reopen (session : Session) : Session :=
  match session.backend with
  | .memory _ => session.keep (.memory .empty)
  | .tables graph => session.keep (.tables graph.reopen)

/-- The session with a whole document stored; tables take it in one transaction. -/
def ingest (session : Session) (document : GraphDocument) : Except Error (Mapping × Session) :=
  match session.backend with
  | .memory graph => do
    let (mapping, graph) ← GraphStore.ingest graph document
    return (mapping, session.keep (.memory graph))
  | .tables graph => do
    let (mapping, graph) ← graph.ingest document
    return (mapping, session.keep (.tables graph))

end Session

end MotifVote
