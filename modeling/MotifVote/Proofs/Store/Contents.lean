import MotifVote.Proofs.Ascending
import MotifVote.Proofs.Store.Ingestion
import MotifVote.Proofs.Store.Reads

/-!
# What graphs in memory hold

Two invariants of the graphs that calls lead to. A sound graph files every edge under its own id and
knows both ends of it. A graph with some number of edges is indexed if these have the first ids, and
every vertex has noted exactly the edges that leave and enter it; this lasts until more edges have
been created than there are ids.
-/

namespace MotifVote.MemoryGraph

/-- Edges are filed under their own ids, and end at vertices of the graph. -/
structure IsSound (graph : MemoryGraph) : Prop where
  edge_id : ∀ {id : EdgeId} {edge : Edge}, graph.edges[id]? = some edge → edge.id = id
  source_mem : ∀ {id : EdgeId} {edge : Edge},
    graph.edges[id]? = some edge → edge.source ∈ graph.vertices
  destination_mem : ∀ {id : EdgeId} {edge : Edge},
    graph.edges[id]? = some edge → edge.destination ∈ graph.vertices

/-- The edges have the first ids, and are noted at their ends and nowhere else. -/
structure IsIndexed (created : Nat) (graph : MemoryGraph) : Prop where
  mem_edges_iff : ∀ id, id ∈ graph.edges ↔ id.toNat < created
  nextEdge_eq : graph.nextEdge.toNat = min created (UInt64.size - 1)
  mem_outgoing_iff : ∀ vertex id, id ∈ graph.outgoing.getD vertex ∅ ↔
    ∃ edge, graph.edges[id]? = some edge ∧ edge.source = vertex
  mem_incoming_iff : ∀ vertex id, id ∈ graph.incoming.getD vertex ∅ ↔
    ∃ edge, graph.edges[id]? = some edge ∧ edge.destination = vertex

theorem toNat_nextId (id : UInt64) : (nextId id).toNat = min (id.toNat + 1) (UInt64.size - 1) := by
  have bound := id.toNat_lt_size
  by_cases last : id = UInt64.ofNat (UInt64.size - 1)
  · rw [nextId, if_pos last, last]
    decide
  · have below : id.toNat + 1 < UInt64.size := by
      by_contra full
      apply last
      apply UInt64.toNat_inj.mp
      rw [UInt64.toNat_ofNat_of_lt' (by decide)]
      omega
    rw [nextId, if_neg last, UInt64.toNat_add]
    have one : (1 : UInt64).toNat = 1 := rfl
    rw [one, Nat.mod_eq_of_lt (by simpa [UInt64.size] using below)]
    omega

section Calls

variable {graph next : MemoryGraph}

/-- An edge is created between vertices of the graph, under the next id. -/
theorem createEdge_eq_ok {source destination : VertexId} {label : String} {id : EdgeId}
    (created : graph.createEdge source label destination = .ok (id, next)) :
    source ∈ graph.vertices ∧ destination ∈ graph.vertices ∧ id = graph.nextEdge ∧
      next = { graph with
        edges := graph.edges.insert id ⟨id, source, destination, label⟩
        outgoing := noteEdge graph.outgoing source id
        incoming := noteEdge graph.incoming destination id
        nextEdge := nextId id } := by
  rw [createEdge] at created
  split at created
  next known =>
    rw [Bool.and_eq_true] at known
    cases created
    exact ⟨known.1, known.2, rfl, rfl⟩
  next => cases created

/-- A graph takes every edge between vertices that it has. -/
theorem exists_createEdge_eq_ok {source destination : VertexId} (label : String)
    (sourceKnown : source ∈ graph.vertices) (destinationKnown : destination ∈ graph.vertices) :
    ∃ id next, graph.createEdge source label destination = .ok (id, next) ∧
      next.vertices = graph.vertices := by
  have known : (graph.vertices.contains source && graph.vertices.contains destination) = true := by
    rw [Bool.and_eq_true]
    exact ⟨sourceKnown, destinationKnown⟩
  exact ⟨_, _, if_pos known, rfl⟩

theorem addAttribute_eq_ok {vertex : VertexId} {added : Attribute}
    (changed : graph.addAttribute vertex added = .ok next) :
    ∃ attributes, graph.vertices[vertex]? = some attributes ∧
      next = { graph with vertices := graph.vertices.insert vertex (attributes ++ [added]) } := by
  rw [addAttribute] at changed
  split at changed
  next attributes found =>
    cases changed
    exact ⟨attributes, found, rfl⟩
  next => cases changed

theorem mem_noteEdge {noted : Std.TreeMap VertexId (Std.TreeSet EdgeId)} {vertex other : VertexId}
    {edge id : EdgeId} :
    id ∈ (noteEdge noted vertex edge).getD other ∅ ↔
      (other = vertex ∧ id = edge) ∨ id ∈ noted.getD other ∅ := by
  rw [noteEdge, Std.TreeMap.getD_insert]
  by_cases same : vertex = other
  · subst same
    simp [Std.TreeSet.mem_insert, eq_comm (a := id)]
  · simp [same, Ne.symm same]

end Calls

section Steps

variable {graph next : MemoryGraph}

theorem isSound_empty : MemoryGraph.empty.IsSound := by
  refine ⟨?_, ?_, ?_⟩ <;> simp [MemoryGraph.empty]

/-- More vertices, or other attributes of vertices, leave a graph sound. -/
theorem IsSound.insertVertex (sound : graph.IsSound) (vertex : VertexId)
    (attributes : List Attribute) (nextVertex : VertexId) :
    IsSound { graph with
      vertices := graph.vertices.insert vertex attributes
      nextVertex := nextVertex } where
  edge_id := sound.edge_id
  source_mem found := Std.TreeMap.mem_insert.mpr (Or.inr (sound.source_mem found))
  destination_mem found := Std.TreeMap.mem_insert.mpr (Or.inr (sound.destination_mem found))

theorem IsSound.createVertex (sound : graph.IsSound) (attributes : List Attribute) :
    (graph.createVertex attributes).2.IsSound :=
  sound.insertVertex graph.nextVertex attributes (nextId graph.nextVertex)

theorem IsSound.addAttribute (sound : graph.IsSound) {vertex : VertexId} {added : Attribute}
    (changed : graph.addAttribute vertex added = .ok next) : next.IsSound := by
  rcases addAttribute_eq_ok changed with ⟨attributes, -, rfl⟩
  exact sound.insertVertex vertex (attributes ++ [added]) graph.nextVertex

theorem IsSound.createEdge (sound : graph.IsSound) {source destination : VertexId}
    {label : String} {id : EdgeId}
    (created : graph.createEdge source label destination = .ok (id, next)) : next.IsSound := by
  rcases createEdge_eq_ok created with ⟨sourceKnown, destinationKnown, -, rfl⟩
  have cases : ∀ {other : EdgeId} {edge : Edge},
      (graph.edges.insert id ⟨id, source, destination, label⟩)[other]? = some edge →
      (id = other ∧ edge = ⟨id, source, destination, label⟩) ∨ graph.edges[other]? = some edge := by
    intro other edge found
    rw [getElem?_insert_eq] at found
    split at found
    next same => exact Or.inl ⟨same, (Option.some.inj found).symm⟩
    next => exact Or.inr found
  refine ⟨?_, ?_, ?_⟩
  · intro other edge found
    rcases cases found with ⟨rfl, rfl⟩ | old
    · rfl
    · exact sound.edge_id old
  · intro other edge found
    rcases cases found with ⟨rfl, rfl⟩ | old
    · exact sourceKnown
    · exact sound.source_mem old
  · intro other edge found
    rcases cases found with ⟨rfl, rfl⟩ | old
    · exact destinationKnown
    · exact sound.destination_mem old

theorem isIndexed_empty : IsIndexed 0 MemoryGraph.empty := by
  refine ⟨?_, ?_, ?_, ?_⟩ <;> simp [MemoryGraph.empty]

/-- What holds of the edges noted at one of their ends still does when a fresh edge is added. -/
theorem mem_noteEdge_of_fresh {noted : Std.TreeMap VertexId (Std.TreeSet EdgeId)}
    {edges : Std.TreeMap EdgeId Edge} {endOf : Edge → VertexId}
    (noted_iff : ∀ vertex id, id ∈ noted.getD vertex ∅ ↔
      ∃ edge, edges[id]? = some edge ∧ endOf edge = vertex)
    {id : EdgeId} (fresh : edges[id]? = none) (added : Edge) (vertex : VertexId) (other : EdgeId) :
    other ∈ (noteEdge noted (endOf added) id).getD vertex ∅ ↔
      ∃ edge, (edges.insert id added)[other]? = some edge ∧ endOf edge = vertex := by
  rw [mem_noteEdge, noted_iff, getElem?_insert_eq]
  by_cases same : other = id
  · subst same
    simp [fresh, eq_comm]
  · simp [same, Ne.symm same]

/-- An edge that there is still an id for gets the next one. -/
theorem IsIndexed.createEdge {created : Nat} (indexed : IsIndexed created graph)
    (room : created < UInt64.size) {source destination : VertexId} {label : String} {id : EdgeId}
    (result : graph.createEdge source label destination = .ok (id, next)) :
    IsIndexed (created + 1) next := by
  rcases createEdge_eq_ok result with ⟨-, -, idEq, rfl⟩
  -- The next id is the number of edges unless all ids are used, and then there is no room.
  have idNat : id.toNat = created := by
    rw [idEq, indexed.nextEdge_eq]
    omega
  have fresh : graph.edges[id]? = none := by
    rw [Std.TreeMap.getElem?_eq_none]
    rw [indexed.mem_edges_iff]
    omega
  refine ⟨?_, ?_, ?_, ?_⟩
  · intro other
    rw [Std.TreeMap.mem_insert, indexed.mem_edges_iff, Std.LawfulEqCmp.compare_eq_iff_eq]
    rw [← UInt64.toNat_inj, idNat]
    omega
  · simp only [toNat_nextId, idNat]
  · exact mem_noteEdge_of_fresh indexed.mem_outgoing_iff fresh ⟨id, source, destination, label⟩
  · exact mem_noteEdge_of_fresh indexed.mem_incoming_iff fresh ⟨id, source, destination, label⟩

end Steps

/-- A property of graphs with some number of edges that every write keeps. -/
structure IsKept (property : Nat → MemoryGraph → Prop) : Prop where
  createVertex : ∀ {created graph} (attributes : List Attribute), property created graph →
    property created (graph.createVertex attributes).2
  addAttribute : ∀ {created graph next} {vertex : VertexId} {added : Attribute},
    property created graph → graph.addAttribute vertex added = .ok next → property created next
  createEdge : ∀ {created graph next} {source destination : VertexId} {label : String}
    {id : EdgeId}, property created graph →
    graph.createEdge source label destination = .ok (id, next) → property (created + 1) next

section Runs

variable {property : Nat → MemoryGraph → Prop} {created : Nat} {graph next : MemoryGraph}

theorem IsKept.storeVertices (kept : IsKept property) (records : List VertexRecord)
    (mapping : Mapping) (start : property created graph) :
    property created (records.foldl GraphStore.storeVertex (mapping, graph)).2 := by
  induction records generalizing mapping graph with
  | nil => exact start
  | cons record records ih => exact ih _ (kept.createVertex record.attributes start)

theorem IsKept.storeEdges (kept : IsKept property) {mapping : Mapping} {records : List EdgeRecord}
    (start : property created graph)
    (stored : records.foldlM (GraphStore.storeEdge mapping) graph = .ok next) :
    property (created + records.length) next := by
  induction records generalizing created graph with
  | nil =>
      cases stored
      exact start
  | cons record records ih =>
      rw [List.foldlM_cons] at stored
      rcases first : GraphStore.storeEdge mapping graph record with error | result
      · simp [first, bind, Except.bind] at stored
      · simp only [first, bind, Except.bind] at stored
        rcases GraphStore.storeEdge_eq_ok first with ⟨source, destination, id, -, -, edge⟩
        have rest := ih (kept.createEdge start edge) stored
        rwa [List.length_cons, Nat.add_comm records.length 1, ← Nat.add_assoc]

theorem IsKept.ingest (kept : IsKept property) {document : GraphDocument} {mapping : Mapping}
    (start : property created graph)
    (stored : GraphStore.ingest graph document = .ok (mapping, next)) :
    property (created + document.edges.length) next := by
  rcases GraphStore.ingest_eq_ok stored with ⟨-, -, edges⟩
  exact kept.storeEdges (kept.storeVertices document.vertices ∅ start) edges

/-- A call keeps the property, whether it fails or not. -/
theorem IsKept.perform (kept : IsKept property) (start : property created graph)
    (call : StoreCall) :
    property (created + DocumentStore.edgesOfReply call (DocumentStore.perform graph call).1)
      (DocumentStore.perform graph call).2 := by
  have done := DocumentStore.performs graph call
  generalize DocumentStore.perform graph call = result at done ⊢
  cases done with
  | createVertex attributes => exact kept.createVertex attributes start
  | addAttribute changed => exact kept.addAttribute start changed
  | createEdge created => exact kept.createEdge start created
  | ingest stored => exact kept.ingest start stored
  | failure call error =>
      cases call <;> exact start

theorem IsKept.after (kept : IsKept property) (start : property created graph)
    (events : List StoreEvent) :
    property (created + DocumentStore.edgesCreated graph events)
      (DocumentStore.after graph events) := by
  induction events generalizing created graph with
  | nil => exact start
  | cons event events ih =>
      cases event with
      | call call =>
          have later := ih (kept.perform start call)
          rwa [Nat.add_assoc] at later
      | reopen => exact ih start

theorem isKept_isSound : IsKept fun _ graph => graph.IsSound where
  createVertex attributes sound := sound.createVertex attributes
  addAttribute sound changed := sound.addAttribute changed
  createEdge sound created := sound.createEdge created

theorem isKept_isIndexed :
    IsKept fun created graph => created ≤ UInt64.size → IsIndexed created graph where
  createVertex _ indexed room :=
    ⟨(indexed room).mem_edges_iff, (indexed room).nextEdge_eq, (indexed room).mem_outgoing_iff,
      (indexed room).mem_incoming_iff⟩
  addAttribute indexed changed room := by
    rcases addAttribute_eq_ok changed with ⟨attributes, -, rfl⟩
    exact ⟨(indexed room).mem_edges_iff, (indexed room).nextEdge_eq,
      (indexed room).mem_outgoing_iff, (indexed room).mem_incoming_iff⟩
  createEdge indexed result room := (indexed (by omega)).createEdge (by omega) result

theorem isSound_after (events : List StoreEvent) :
    (DocumentStore.after MemoryGraph.empty events).IsSound :=
  @IsKept.after _ 0 _ isKept_isSound isSound_empty events

theorem isIndexed_after {events : List StoreEvent}
    (room : DocumentStore.edgesCreated MemoryGraph.empty events ≤ UInt64.size) :
    IsIndexed (DocumentStore.edgesCreated MemoryGraph.empty events)
      (DocumentStore.after MemoryGraph.empty events) := by
  have indexed := isKept_isIndexed.after (fun _ => isIndexed_empty) events
  simp only [Nat.zero_add] at indexed
  exact indexed room

end Runs

section Reads

variable {graph : MemoryGraph}

theorem mem_vertexIds_iff (id : VertexId) :
    id ∈ GraphStore.vertexIds graph ↔ id ∈ graph.vertices :=
  Std.TreeMap.mem_keys

theorem mem_edges_iff (sound : graph.IsSound) {edge : Edge} :
    edge ∈ GraphStore.edges graph ↔ graph.edges[edge.id]? = some edge := by
  have shape : GraphStore.edges graph = graph.edges.toList.map (·.2) := values_eq_map_toList _
  rw [shape, List.mem_map]
  constructor
  · rintro ⟨⟨id, filed⟩, row, rfl⟩
    have found := Std.TreeMap.mem_toList_iff_getElem?_eq_some.mp row
    rwa [sound.edge_id found]
  · intro found
    exact ⟨(edge.id, edge), Std.TreeMap.mem_toList_iff_getElem?_eq_some.mpr found, rfl⟩

theorem edges_ascending (sound : graph.IsSound) :
    (GraphStore.edges graph).Pairwise (·.id < ·.id) := by
  have shape : GraphStore.edges graph = graph.edges.toList.map (·.2) := values_eq_map_toList _
  rw [shape, List.pairwise_map]
  refine Std.TreeMap.ordered_keys_toList.imp_of_mem ?_
  intro left right leftRow rightRow before
  rw [sound.edge_id (Std.TreeMap.mem_toList_iff_getElem?_eq_some.mp leftRow),
    sound.edge_id (Std.TreeMap.mem_toList_iff_getElem?_eq_some.mp rightRow)]
  exact Std.compare_eq_lt.mp before

theorem IsSound.isCoherent (sound : graph.IsSound) : GraphStore.IsCoherent graph where
  vertexIds_ascending := Std.TreeMap.ordered_keys.imp Std.compare_eq_lt.mp
  edges_ascending := edges_ascending sound
  ends edge member := by
    have found := (mem_edges_iff sound).mp member
    simp only [mem_vertexIds_iff]
    exact ⟨sound.source_mem found, sound.destination_mem found⟩
  contains_iff id := (mem_vertexIds_iff id).symm
  mem_vertexIds_iff id := by
    rw [mem_vertexIds_iff, Std.TreeMap.mem_iff_isSome_getElem?, Option.isSome_iff_exists]
    simp [GraphStore.vertex?]
  mem_selectVertices_iff kind value id := by
    simp [GraphStore.selectVertices, GraphStore.vertex?, Vertex.has]
  selectEdges_eq _ := rfl
  vertexCount_eq := Std.TreeMap.length_keys.symm
  edgeCount_eq := by
    have shape : GraphStore.edges graph = graph.edges.toList.map (·.2) := values_eq_map_toList _
    rw [shape, List.length_map]
    exact Std.TreeMap.length_toList.symm

theorem IsSound.knowsIncident (sound : graph.IsSound) : GraphStore.KnowsIncident graph := by
  intro vertex edge member
  have shape : GraphStore.incidentEdges graph vertex =
      (graph.incidentIds vertex).toList.filterMap fun id => graph.edges[id]? := rfl
  rw [shape] at member
  rcases List.mem_filterMap.mp member with ⟨id, -, found⟩
  rw [mem_edges_iff sound, sound.edge_id found]
  exact found

theorem mem_incidentEdges_iff {created : Nat} (indexed : IsIndexed created graph)
    (sound : graph.IsSound) {vertex : VertexId} {edge : Edge} :
    edge ∈ GraphStore.incidentEdges graph vertex ↔
      edge ∈ GraphStore.edges graph ∧ GraphStore.isEnd vertex edge = true := by
  have shape : GraphStore.incidentEdges graph vertex =
      (graph.incidentIds vertex).toList.filterMap fun id => graph.edges[id]? := rfl
  have noted : ∀ id, id ∈ (graph.incidentIds vertex).toList ↔
      ∃ edge, graph.edges[id]? = some edge ∧
        (edge.source = vertex ∨ edge.destination = vertex) := by
    intro id
    simp only [incidentIds, Std.TreeSet.mem_toList, Std.TreeSet.mem_insertMany_list,
      List.contains_iff_mem, indexed.mem_outgoing_iff, indexed.mem_incoming_iff]
    grind
  rw [shape, List.mem_filterMap, mem_edges_iff sound]
  simp only [noted, GraphStore.isEnd, Bool.or_eq_true, beq_iff_eq]
  constructor
  · rintro ⟨id, ⟨other, filed, ends⟩, found⟩
    rw [found] at filed
    cases filed
    rw [sound.edge_id found]
    exact ⟨found, ends⟩
  · rintro ⟨found, ends⟩
    exact ⟨edge.id, ⟨edge, found, ends⟩, found⟩

/-- In an indexed graph the edges noted at a vertex are those that end there. -/
theorem IsIndexed.isIndexed {created : Nat} (indexed : IsIndexed created graph)
    (sound : graph.IsSound) : GraphStore.IsIndexed graph := by
  intro vertex
  have ascending : (GraphStore.incidentEdges graph vertex).Pairwise (·.id < ·.id) := by
    refine (toList_ascending (graph.incidentIds vertex)).filterMap _ ?_
    intro left right before leftEdge leftFound rightEdge rightFound
    rwa [sound.edge_id leftFound, sound.edge_id rightFound]
  apply edges_eq_of_mem_iff ascending ((edges_ascending sound).filter _)
  intro edge
  rw [mem_incidentEdges_iff indexed sound, List.mem_filter]

end Reads

end MotifVote.MemoryGraph
