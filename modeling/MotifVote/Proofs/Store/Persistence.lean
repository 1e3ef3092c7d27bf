import MotifVote.Proofs.Store.Contents

/-!
# Tables and graphs in memory

A store of tables cannot be told from a graph in memory: whatever calls are made, and wherever the
tables are closed and opened again between them, every call has the same reply on both, and every
read gives the same afterwards.

The proof relates tables to the graph with the same vertices, edges and next ids. Edges are noted at
their ends in different ways, as sets of ids by vertex and as rows by vertex and id, so there the
relation only asks for the same ids at every vertex. The counters in the tables always hold the next
ids, except within a transaction, which writes them at its end.
-/

namespace MotifVote

instance : Std.TransCmp pairOrder :=
  inferInstanceAs (Std.TransCmp (compareLex (compareOn Prod.fst) (compareOn Prod.snd)))

instance : Std.LawfulEqCmp pairOrder where
  eq_of_compare := by
    intro left right equal
    simp only [pairOrder, compareLex, compareOn, Ordering.then_eq_eq] at equal
    exact Prod.ext (Std.LawfulEqCmp.eq_of_compare equal.1) (Std.LawfulEqCmp.eq_of_compare equal.2)

namespace Tables

/-- Tables with the vertices and edges of a graph, and with the same edges at every vertex. -/
structure Hold (tables : Tables) (graph : MemoryGraph) : Prop where
  vertices : tables.vertices = graph.vertices
  edges : tables.edges = graph.edges
  outgoing : ∀ vertex id,
    (vertex, id) ∈ tables.outgoing ↔ id ∈ graph.outgoing.getD vertex ∅
  incoming : ∀ vertex id,
    (vertex, id) ∈ tables.incoming ↔ id ∈ graph.incoming.getD vertex ∅

variable {tables : Tables} {graph : MemoryGraph}

theorem hold_empty : Tables.empty.Hold .empty := by
  refine ⟨rfl, rfl, ?_, ?_⟩ <;> simp [Tables.empty, MemoryGraph.empty]

theorem Hold.insertVertex (same : tables.Hold graph) (vertex : VertexId)
    (attributes : List Attribute) (counters : Std.TreeMap String UInt64) (nextVertex : VertexId) :
    Hold { tables with vertices := tables.vertices.insert vertex attributes, counters }
      { graph with vertices := graph.vertices.insert vertex attributes, nextVertex } where
  vertices := by rw [same.vertices]
  edges := same.edges
  outgoing := same.outgoing
  incoming := same.incoming

theorem Hold.setCounters (same : tables.Hold graph) (counters : Std.TreeMap String UInt64) :
    Hold { tables with counters } graph :=
  ⟨same.vertices, same.edges, same.outgoing, same.incoming⟩

/-- A row for the end of an edge is a note of the edge at that end. -/
theorem mem_insert_iff_mem_noteEdge {rows : EndTable}
    {noted : Std.TreeMap VertexId (Std.TreeSet EdgeId)}
    (same : ∀ vertex id, (vertex, id) ∈ rows ↔ id ∈ noted.getD vertex ∅)
    (vertex other : VertexId) (edge : EdgeId) (final : VertexId) (id : EdgeId) :
    (final, id) ∈ rows.insert (vertex, edge) other ↔
      id ∈ (MemoryGraph.noteEdge noted vertex edge).getD final ∅ := by
  rw [Std.TreeMap.mem_insert, Std.LawfulEqCmp.compare_eq_iff_eq, MemoryGraph.mem_noteEdge, same,
    Prod.mk.injEq, eq_comm (a := vertex), eq_comm (a := edge)]

theorem Hold.fileEdge (same : tables.Hold graph) (edge : Edge) (nextEdge : EdgeId) :
    (tables.fileEdge edge).Hold { graph with
      edges := graph.edges.insert edge.id edge
      outgoing := MemoryGraph.noteEdge graph.outgoing edge.source edge.id
      incoming := MemoryGraph.noteEdge graph.incoming edge.destination edge.id
      nextEdge } where
  vertices := same.vertices
  edges := by simp only [Tables.fileEdge, same.edges]
  outgoing := mem_insert_iff_mem_noteEdge same.outgoing edge.source edge.destination edge.id
  incoming := mem_insert_iff_mem_noteEdge same.incoming edge.destination edge.source edge.id

theorem mem_edgesUnder {rows : EndTable} {vertex : VertexId} {id : EdgeId} :
    id ∈ edgesUnder rows vertex ↔ (vertex, id) ∈ rows := by
  simp [edgesUnder]

end Tables

namespace TableGraph

/-- An open store of tables that holds a graph, with the graph's next ids in it and in its
counters. -/
structure Represents (stored : TableGraph) (graph : MemoryGraph) : Prop where
  tables : stored.tables.Hold graph
  nextVertex : stored.nextVertex = graph.nextVertex
  nextEdge : stored.nextEdge = graph.nextEdge
  vertexCounter : stored.tables.counters.getD Tables.vertexCounter 0 = graph.nextVertex
  edgeCounter : stored.tables.counters.getD Tables.edgeCounter 0 = graph.nextEdge

variable {stored : TableGraph} {graph : MemoryGraph}

theorem represents_empty : TableGraph.empty.Represents .empty :=
  ⟨Tables.hold_empty, rfl, rfl, rfl, rfl⟩

/-- Opening reads the next ids back from the counters. -/
theorem Represents.reopen (same : stored.Represents graph) : stored.reopen.Represents graph :=
  ⟨same.tables, same.vertexCounter, same.edgeCounter, same.vertexCounter, same.edgeCounter⟩

theorem getD_insert_counter (counters : Std.TreeMap String UInt64) (next : UInt64)
    {counter other : String} (different : counter ≠ other) :
    (counters.insert counter next).getD counter 0 = next ∧
      (counters.insert counter next).getD other 0 = counters.getD other 0 := by
  simp [Std.TreeMap.getD_insert, different]

theorem counters_differ : Tables.vertexCounter ≠ Tables.edgeCounter := by
  decide

section Writes

/-- A write succeeds on both stores, with the same value and with stores that still agree, or it
fails on both for the same reason. -/
def SameOutcome {α : Type} :
    Except Error (α × MemoryGraph) → Except Error (α × TableGraph) → Prop
  | .ok (left, graph), .ok (right, stored) => left = right ∧ stored.Represents graph
  | .error left, .error right => left = right
  | _, _ => False

theorem SameOutcome.cases {α : Type} {left : Except Error (α × MemoryGraph)}
    {right : Except Error (α × TableGraph)} (outcome : SameOutcome left right) :
    (∃ error, left = .error error ∧ right = .error error) ∨
      ∃ value graph stored, left = .ok (value, graph) ∧ right = .ok (value, stored) ∧
        stored.Represents graph := by
  rcases left with error | ⟨value, graph⟩ <;> rcases right with other | ⟨otherValue, stored⟩
  · have errors : error = other := outcome
    exact Or.inl ⟨error, rfl, congrArg Except.error errors.symm⟩
  · exact outcome.elim
  · exact outcome.elim
  · have values : value = otherValue ∧ stored.Represents graph := outcome
    rcases values with ⟨rfl, agrees⟩
    exact Or.inr ⟨value, graph, stored, rfl, rfl, agrees⟩

/-- Replies agree where outcomes do, and a failure leaves the stores as they were. -/
theorem settle_eq {α : Type} (reply : α → StoreReply) (same : stored.Represents graph)
    {left : Except Error (α × MemoryGraph)} {right : Except Error (α × TableGraph)}
    (outcome : SameOutcome left right) :
    (DocumentStore.settle graph reply left).1 = (DocumentStore.settle stored reply right).1 ∧
      (DocumentStore.settle stored reply right).2.Represents
        (DocumentStore.settle graph reply left).2 := by
  rcases outcome.cases with ⟨error, rfl, rfl⟩ | ⟨value, nextGraph, nextStored, rfl, rfl, agrees⟩
  · exact ⟨rfl, same⟩
  · exact ⟨rfl, agrees⟩

theorem Represents.createVertex (same : stored.Represents graph) (attributes : List Attribute) :
    (graph.createVertex attributes).1 = (stored.createVertex attributes).1 ∧
      (stored.createVertex attributes).2.Represents (graph.createVertex attributes).2 := by
  have counters := getD_insert_counter stored.tables.counters (nextId stored.nextVertex)
    counters_differ
  refine ⟨same.nextVertex.symm, ?_, ?_, same.nextEdge, ?_, ?_⟩
  · have held := same.tables.insertVertex stored.nextVertex attributes
      (stored.tables.counters.insert Tables.vertexCounter (nextId stored.nextVertex))
      (nextId graph.nextVertex)
    rw [same.nextVertex] at held
    simpa only [TableGraph.createVertex, MemoryGraph.createVertex, same.nextVertex] using held
  · simp only [TableGraph.createVertex, MemoryGraph.createVertex, same.nextVertex]
  · exact counters.1.trans (congrArg nextId same.nextVertex)
  · exact counters.2.trans same.edgeCounter

theorem Represents.addAttribute (same : stored.Represents graph) (vertex : VertexId)
    (added : Attribute) :
    SameOutcome ((graph.addAttribute vertex added).map fun next => ((), next))
      ((stored.addAttribute vertex added).map fun next => ((), next)) := by
  rcases found : graph.vertices[vertex]? with _ | attributes
  · simp [MemoryGraph.addAttribute, TableGraph.addAttribute, same.tables.vertices, found,
      Except.map, SameOutcome]
  · have held := same.tables.insertVertex vertex (attributes ++ [added]) stored.tables.counters
      graph.nextVertex
    simp only [MemoryGraph.addAttribute, TableGraph.addAttribute, same.tables.vertices, found,
      Except.map, SameOutcome, true_and]
    rw [same.tables.vertices] at held
    exact ⟨held, same.nextVertex, same.nextEdge, same.vertexCounter, same.edgeCounter⟩

theorem Represents.createEdge (same : stored.Represents graph) (source : VertexId)
    (label : String) (destination : VertexId) :
    SameOutcome (graph.createEdge source label destination)
      (stored.createEdge source label destination) := by
  have counters := getD_insert_counter stored.tables.counters (nextId stored.nextEdge)
    counters_differ.symm
  by_cases known :
      (graph.vertices.contains source && graph.vertices.contains destination) = true
  · simp only [MemoryGraph.createEdge, TableGraph.createEdge, same.tables.vertices, known, if_true,
      SameOutcome]
    have held := same.tables.fileEdge ⟨graph.nextEdge, source, destination, label⟩
      (nextId graph.nextEdge)
    refine ⟨same.nextEdge.symm, ?_, same.nextVertex, ?_, ?_, ?_⟩
    · rw [same.nextEdge]
      exact held.setCounters _
    · simp only [same.nextEdge]
    · exact counters.2.trans same.vertexCounter
    · exact counters.1.trans (congrArg nextId same.nextEdge)
  · simp [MemoryGraph.createEdge, TableGraph.createEdge, same.tables.vertices, known, SameOutcome]

end Writes

section Documents

/-- A transaction that has stored as much of a document as a graph in memory has. -/
structure Transaction.Represents (transaction : Transaction) (mapping : Mapping)
    (graph : MemoryGraph) : Prop where
  mapping_eq : transaction.mapping = mapping
  tables : transaction.tables.Hold graph
  nextVertex : transaction.nextVertex = graph.nextVertex
  nextEdge : transaction.nextEdge = graph.nextEdge
  /-- What the mapping leads to has been stored. -/
  known : ∀ {identifier : UInt64} {id : VertexId},
    mapping[identifier]? = some id → id ∈ graph.vertices

variable {transaction : Transaction} {mapping : Mapping}

theorem Transaction.Represents.storeVertex (same : transaction.Represents mapping graph)
    (record : VertexRecord) :
    (transaction.storeVertex record).Represents
      (GraphStore.storeVertex (mapping, graph) record).1
      (GraphStore.storeVertex (mapping, graph) record).2 where
  mapping_eq := by
    have created : (GraphStore.createVertex graph record.attributes).1 = graph.nextVertex := rfl
    simp only [Transaction.storeVertex, GraphStore.storeVertex, same.mapping_eq, same.nextVertex,
      created]
  tables := by
    have held := same.tables.insertVertex transaction.nextVertex record.attributes
      transaction.tables.counters (nextId graph.nextVertex)
    rw [same.nextVertex] at held
    simp only [Transaction.storeVertex, same.nextVertex]
    exact held
  nextVertex := congrArg nextId same.nextVertex
  nextEdge := same.nextEdge
  known := by
    intro identifier id found
    have stored : (GraphStore.storeVertex (mapping, graph) record).2.vertices =
        graph.vertices.insert graph.nextVertex record.attributes := rfl
    have mapped : (GraphStore.storeVertex (mapping, graph) record).1 =
        mapping.insert record.identifier graph.nextVertex := rfl
    rw [mapped, Std.TreeMap.getElem?_insert] at found
    rw [stored, Std.TreeMap.mem_insert, Std.LawfulEqCmp.compare_eq_iff_eq]
    split at found
    next => exact Or.inl (Option.some.inj found)
    next => exact Or.inr (same.known found)

theorem Transaction.Represents.storeVertices (same : transaction.Represents mapping graph)
    (records : List VertexRecord) :
    (records.foldl Transaction.storeVertex transaction).Represents
      (records.foldl GraphStore.storeVertex (mapping, graph)).1
      (records.foldl GraphStore.storeVertex (mapping, graph)).2 := by
  induction records generalizing transaction mapping graph with
  | nil => exact same
  | cons record records ih => exact ih (same.storeVertex record)

/-- An edge of the document is stored by both or by neither: its ends have been stored if the
mapping knows them, so the graph in memory finds them too. -/
theorem Transaction.Represents.storeEdge (same : transaction.Represents mapping graph)
    (record : EdgeRecord) :
    (∃ error, GraphStore.storeEdge mapping graph record = .error error ∧
        transaction.storeEdge record = .error error) ∨
      ∃ nextGraph nextTransaction, GraphStore.storeEdge mapping graph record = .ok nextGraph ∧
        transaction.storeEdge record = .ok nextTransaction ∧
        nextTransaction.Represents mapping nextGraph := by
  rcases sourceFound : mapping[record.source]? with _ | source
  · left
    simp [GraphStore.storeEdge, Transaction.storeEdge, same.mapping_eq, sourceFound]
  rcases destinationFound : mapping[record.destination]? with _ | destination
  · left
    simp [GraphStore.storeEdge, Transaction.storeEdge, same.mapping_eq, sourceFound,
      destinationFound]
  right
  have known : (graph.vertices.contains source && graph.vertices.contains destination) = true := by
    rw [Bool.and_eq_true]
    exact ⟨same.known sourceFound, same.known destinationFound⟩
  have created : GraphStore.createEdge graph source record.label destination =
      graph.createEdge source record.label destination := rfl
  have held := same.tables.fileEdge ⟨graph.nextEdge, source, destination, record.label⟩
    (nextId graph.nextEdge)
  refine ⟨{ graph with
      edges := graph.edges.insert graph.nextEdge ⟨graph.nextEdge, source, destination, record.label⟩
      outgoing := MemoryGraph.noteEdge graph.outgoing source graph.nextEdge
      incoming := MemoryGraph.noteEdge graph.incoming destination graph.nextEdge
      nextEdge := nextId graph.nextEdge },
    { transaction with
      tables := transaction.tables.fileEdge
        ⟨transaction.nextEdge, source, destination, record.label⟩
      nextEdge := nextId transaction.nextEdge }, ?_, ?_,
    ⟨same.mapping_eq, ?_, same.nextVertex, congrArg nextId same.nextEdge, same.known⟩⟩
  · simp only [GraphStore.storeEdge, sourceFound, destinationFound, created,
      MemoryGraph.createEdge, known, if_true, Except.map]
  · simp only [Transaction.storeEdge, same.mapping_eq, sourceFound, destinationFound]
  · simpa only [same.nextEdge] using held

theorem Transaction.Represents.storeEdges (same : transaction.Represents mapping graph)
    (records : List EdgeRecord) :
    (∃ error, records.foldlM (GraphStore.storeEdge mapping) graph = .error error ∧
        records.foldlM Transaction.storeEdge transaction = .error error) ∨
      ∃ nextGraph nextTransaction,
        records.foldlM (GraphStore.storeEdge mapping) graph = .ok nextGraph ∧
        records.foldlM Transaction.storeEdge transaction = .ok nextTransaction ∧
        nextTransaction.Represents mapping nextGraph := by
  induction records generalizing transaction graph with
  | nil => exact Or.inr ⟨graph, transaction, rfl, rfl, same⟩
  | cons record records ih =>
      simp only [List.foldlM_cons]
      rcases same.storeEdge record with ⟨error, left, right⟩ | ⟨_, _, left, right, later⟩
      · rw [left, right]
        exact Or.inl ⟨error, rfl, rfl⟩
      · rw [left, right]
        exact ih later

/-- A whole document gets the same mapping on both, and leaves stores that still agree. -/
theorem Represents.ingest (same : stored.Represents graph) (document : GraphDocument) :
    SameOutcome (GraphStore.ingest graph document) (stored.ingest document) := by
  rcases checked : document.check.mapError Error.graph with error | ⟨⟩
  · simp [GraphStore.ingest, TableGraph.ingest, checked, bind, Except.bind, SameOutcome]
  have opened : Transaction.Represents ⟨∅, stored.tables, stored.nextVertex, stored.nextEdge⟩ ∅
      graph :=
    ⟨rfl, same.tables, same.nextVertex, same.nextEdge, by simp⟩
  have filled := opened.storeVertices document.vertices
  rcases filled.storeEdges document.edges with
    ⟨error, left, right⟩ | ⟨nextGraph, done, left, right, agrees⟩
  · simp [GraphStore.ingest, TableGraph.ingest, checked, left, right, bind, Except.bind,
      SameOutcome]
  · simp only [GraphStore.ingest, TableGraph.ingest, checked, left, right, bind, Except.bind, pure,
      Except.pure, SameOutcome]
    have vertexCounter := getD_insert_counter done.tables.counters done.nextVertex counters_differ
    have edgeCounter := getD_insert_counter
      (done.tables.counters.insert Tables.vertexCounter done.nextVertex) done.nextEdge
      counters_differ.symm
    refine ⟨agrees.mapping_eq.symm, agrees.tables.setCounters _, agrees.nextVertex,
      agrees.nextEdge, ?_, ?_⟩
    · exact edgeCounter.2.trans (vertexCounter.1.trans agrees.nextVertex)
    · exact edgeCounter.1.trans agrees.nextEdge

end Documents

section Runs

theorem Represents.perform (same : stored.Represents graph) (call : StoreCall) :
    (DocumentStore.perform graph call).1 = (DocumentStore.perform stored call).1 ∧
      (DocumentStore.perform stored call).2.Represents (DocumentStore.perform graph call).2 := by
  cases call with
  | createVertex attributes =>
      have created := same.createVertex attributes
      exact ⟨congrArg StoreReply.vertex created.1, created.2⟩
  | addAttribute vertex added =>
      exact settle_eq (fun _ => .attribute) same (same.addAttribute vertex added)
  | createEdge source label destination =>
      exact settle_eq .edge same (same.createEdge source label destination)
  | ingest document => exact settle_eq .document same (same.ingest document)

/-- The stores agree after all events, and all replies have been the same. -/
theorem Represents.after (same : stored.Represents graph) (events : List StoreEvent) :
    DocumentStore.replies graph events = DocumentStore.replies stored events ∧
      (DocumentStore.after stored events).Represents (DocumentStore.after graph events) := by
  induction events generalizing stored graph with
  | nil => exact ⟨rfl, same⟩
  | cons event events ih =>
      cases event with
      | call call =>
          rcases same.perform call with ⟨reply, agrees⟩
          rcases ih agrees with ⟨later, final⟩
          refine ⟨?_, final⟩
          simp only [DocumentStore.replies, reply, later]
      | reopen => exact ih same.reopen

theorem Represents.edgesCreated_eq (same : stored.Represents graph) (events : List StoreEvent) :
    DocumentStore.edgesCreated graph events = DocumentStore.edgesCreated stored events := by
  induction events generalizing stored graph with
  | nil => rfl
  | cons event events ih =>
      cases event with
      | call call =>
          rcases same.perform call with ⟨reply, agrees⟩
          simp only [DocumentStore.edgesCreated, reply, ih agrees]
      | reopen => exact ih same.reopen

end Runs

section Reads

theorem Represents.incidentIds_eq (same : stored.Represents graph) (vertex : VertexId) :
    (graph.incidentIds vertex).toList = (stored.incidentIds vertex).toList := by
  apply toList_eq_of_mem_iff
  intro id
  simp only [MemoryGraph.incidentIds, TableGraph.incidentIds, Std.TreeSet.mem_insertMany_list,
    Std.TreeSet.mem_ofList, List.contains_iff_mem, List.mem_append, Std.TreeSet.mem_toList,
    Tables.mem_edgesUnder, same.tables.outgoing, same.tables.incoming]

/-- Tables give every read as the graph that they represent does. -/
theorem Represents.readAlike (same : stored.Represents graph) :
    GraphStore.ReadAlike graph stored := by
  have vertices := same.tables.vertices
  have edges := same.tables.edges
  apply GraphStore.ReadAlike.of_reads
  case sameIncident =>
    intro vertex
    simp only [GraphStore.incidentEdges, same.incidentIds_eq, edges]
  all_goals
    intros
    simp only [GraphStore.vertex?, GraphStore.contains, GraphStore.vertexIds,
      GraphStore.selectVertices, GraphStore.selectEdges, GraphStore.edges, GraphStore.vertexCount,
      GraphStore.edgeCount, vertices, edges]

theorem readAlike_after (events : List StoreEvent) :
    GraphStore.ReadAlike (DocumentStore.after MemoryGraph.empty events)
      (DocumentStore.after TableGraph.empty events) :=
  (represents_empty.after events).2.readAlike

/-- Whatever happens to a new store, every call has the same reply from tables as from a graph in
memory, and every read gives the same on both at any time in between. -/
theorem replies_eq_and_readAlike (before later : List StoreEvent) :
    DocumentStore.replies MemoryGraph.empty (before ++ later) =
        DocumentStore.replies TableGraph.empty (before ++ later) ∧
      GraphStore.ReadAlike (DocumentStore.after MemoryGraph.empty before)
        (DocumentStore.after TableGraph.empty before) := by
  constructor
  · exact (represents_empty.after (before ++ later)).1
  · exact readAlike_after before

end Reads

end TableGraph

end MotifVote
