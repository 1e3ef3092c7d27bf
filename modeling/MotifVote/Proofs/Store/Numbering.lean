import MotifVote.Proofs.Store.Persistence

/-!
# What calls have created

The vertices and the edges of a store are the ones that calls have created, numbered from zero on in
the order of their creation, until there are no numbers left. What has been created can be read off
the replies: the reply to a document says which ids its vertices got, and its edges get the next
numbers in the order of the document.

The invariant of a graph in memory says that an edge is filed where it stands in the list of all
edges created so far, and that the vertices are those with smaller ids than there are vertices. Each
call adds what its reply says at the end. Tables have the same replies and the same reads.
-/

namespace MotifVote

namespace DocumentStore

variable {σ : Type} [DocumentStore σ]

/-- The calls among some events, each with its reply. -/
def transcript (store : σ) : List StoreEvent → List (StoreCall × StoreReply)
  | [] => []
  | .call call :: events =>
    (call, (perform store call).1) :: transcript (perform store call).2 events
  | .reopen :: events => transcript (reopen store) events

/-- The vertices that a call with some reply has created. -/
def newVertices : StoreCall → StoreReply → List VertexId
  | .createVertex _, .vertex id => [id]
  | .ingest document, .document mapping =>
    document.vertices.map fun record => mapping.getD record.identifier 0
  | _, _ => []

/-- Edges of a document, numbered from some number on, between the ids that its vertices got. -/
def numberedEdges (mapping : Mapping) : Nat → List EdgeRecord → List Edge
  | _, [] => []
  | number, record :: records =>
    ⟨UInt64.ofNat number, mapping.getD record.source 0, mapping.getD record.destination 0,
      record.label⟩ :: numberedEdges mapping (number + 1) records

/-- The edges that a call with some reply has created, if some number of edges was there before. -/
def newEdges (number : Nat) : StoreCall → StoreReply → List Edge
  | .createEdge source label destination, .edge id => [⟨id, source, destination, label⟩]
  | .ingest document, .document mapping => numberedEdges mapping number document.edges
  | _, _ => []

/-- The vertices that some calls have created, the oldest first. -/
def createdVertices : List (StoreCall × StoreReply) → List VertexId
  | [] => []
  | (call, reply) :: calls => newVertices call reply ++ createdVertices calls

/-- The edges that some calls have created, the oldest first, if some number of edges was there
before. -/
def createdEdges (number : Nat) : List (StoreCall × StoreReply) → List Edge
  | [] => []
  | (call, reply) :: calls =>
    newEdges number call reply ++
      createdEdges (number + (newEdges number call reply).length) calls

/-- There are ids for everything that some calls have created. -/
structure HaveIds (calls : List (StoreCall × StoreReply)) : Prop where
  vertices : (createdVertices calls).length ≤ UInt64.size
  edges : (createdEdges 0 calls).length ≤ UInt64.size

/-- A store holds the vertices and edges that some calls have created, numbered in the order of
their creation, and the edges at a vertex and between vertices are found without a gap. As edges are
listed by ascending ids, each is there once. -/
structure IsChronicle (calls : List (StoreCall × StoreReply)) (store : σ) : Prop where
  vertices_numbered : createdVertices calls =
    (List.range (createdVertices calls).length).map UInt64.ofNat
  edges_numbered : (createdEdges 0 calls).map (·.id) =
    (List.range (createdEdges 0 calls).length).map UInt64.ofNat
  vertexIds_eq : GraphStore.vertexIds store = createdVertices calls
  edges_eq : GraphStore.edges store = createdEdges 0 calls
  edges_ascending : (GraphStore.edges store).Pairwise (·.id < ·.id)
  ends_stored : ∀ edge ∈ GraphStore.edges store,
    GraphStore.contains store edge.source = true ∧ GraphStore.contains store edge.destination = true
  incidentEdges_eq : ∀ vertex, GraphStore.incidentEdges store vertex =
    (GraphStore.edges store).filter (GraphStore.isEnd vertex)
  edgesBetween_eq : ∀ vertices : Std.TreeSet VertexId, GraphStore.edgesBetween store vertices =
    (GraphStore.edges store).filter fun edge =>
      vertices.contains edge.source && vertices.contains edge.destination

theorem length_numberedEdges (mapping : Mapping) (number : Nat) (records : List EdgeRecord) :
    (numberedEdges mapping number records).length = records.length := by
  induction records generalizing number with
  | nil => rfl
  | cons record records ih => rw [numberedEdges, List.length_cons, ih, List.length_cons]

theorem length_newEdges (number : Nat) (call : StoreCall) (reply : StoreReply) :
    (newEdges number call reply).length = edgesOfReply call reply := by
  cases call <;> cases reply <;> simp [newEdges, edgesOfReply, length_numberedEdges]

theorem length_createdEdges (store : σ) (number : Nat) (events : List StoreEvent) :
    (createdEdges number (transcript store events)).length = edgesCreated store events := by
  induction events generalizing store number with
  | nil => rfl
  | cons event events ih =>
      cases event with
      | call call =>
          rw [transcript, createdEdges, List.length_append, length_newEdges, ih, edgesCreated]
      | reopen => exact ih (reopen store) number

end DocumentStore

theorem GraphDocument.distinct_of_checkVertices {declared all : Std.TreeSet UInt64}
    {records : List VertexRecord} (accepted : checkVertices declared records = .ok all) :
    (records.map (·.identifier)).Nodup ∧ ∀ record ∈ records, record.identifier ∉ declared := by
  induction records generalizing declared with
  | nil => simp
  | cons record records ih =>
      rw [checkVertices] at accepted
      split at accepted
      next => cases accepted
      next fresh =>
        rw [Std.TreeSet.contains_iff_mem] at fresh
        rcases attributes : record.attributes.forM (checkAttribute record.identifier) with
          fault | ⟨⟩
        · simp [attributes, bind, Except.bind] at accepted
        · simp only [attributes, bind, Except.bind] at accepted
          rcases ih accepted with ⟨distinct, later⟩
          have differs : ∀ other ∈ records, other.identifier ≠ record.identifier := by
            rintro other member same
            exact later other member (by simp [same])
          refine ⟨?_, List.forall_mem_cons.mpr ⟨fresh, ?_⟩⟩
          · rw [List.map_cons, List.nodup_cons, List.mem_map]
            refine ⟨?_, distinct⟩
            rintro ⟨other, member, same⟩
            exact differs other member same
          · intro other member declaredBefore
            exact later other member (Std.TreeSet.mem_insert.mpr (Or.inr declaredBefore))

/-- No identifier stands for two vertices of a document that is accepted. -/
theorem GraphDocument.nodup_identifiers {document : GraphDocument}
    (accepted : document.check = .ok ()) : (document.vertices.map (·.identifier)).Nodup := by
  rw [check] at accepted
  split at accepted
  next => cases accepted
  next =>
    rcases vertices : checkVertices ∅ document.vertices with fault | declared
    · simp [vertices, bind, Except.bind] at accepted
    · exact (distinct_of_checkVertices vertices).1

namespace MemoryGraph

open DocumentStore (numberedEdges newVertices newEdges createdVertices createdEdges transcript)

/-- The vertices are those with the first ids, and every edge is filed under its place among the
edges. -/
structure IsNumbered (vertices : Nat) (edges : List Edge) (graph : MemoryGraph) : Prop where
  mem_vertices_iff : ∀ id : VertexId, id ∈ graph.vertices ↔ id.toNat < vertices
  nextVertex_eq : graph.nextVertex.toNat = min vertices (UInt64.size - 1)
  getElem?_edges : ∀ id : EdgeId, graph.edges[id]? = edges[id.toNat]?
  nextEdge_eq : graph.nextEdge.toNat = min edges.length (UInt64.size - 1)

variable {vertices : Nat} {edges : List Edge} {graph next : MemoryGraph}

theorem isNumbered_empty : IsNumbered 0 [] MemoryGraph.empty := by
  refine ⟨?_, rfl, ?_, rfl⟩ <;> simp [MemoryGraph.empty]

/-- The next id is the number of ids that have been given, unless all of them have. -/
theorem eq_ofNat_of_toNat_eq_min {id : UInt64} {number : Nat}
    (least : id.toNat = min number (UInt64.size - 1)) (room : number < UInt64.size) :
    id = UInt64.ofNat number := by
  apply UInt64.toNat_inj.mp
  rw [least, UInt64.toNat_ofNat_of_lt' room]
  omega

section Steps

theorem IsNumbered.createVertex (numbered : IsNumbered vertices edges graph)
    (room : vertices < UInt64.size) (attributes : List Attribute) :
    (graph.createVertex attributes).1 = UInt64.ofNat vertices ∧
      IsNumbered (vertices + 1) edges (graph.createVertex attributes).2 := by
  have id : graph.nextVertex = UInt64.ofNat vertices :=
    eq_ofNat_of_toNat_eq_min numbered.nextVertex_eq room
  have idNat : graph.nextVertex.toNat = vertices := by
    rw [id, UInt64.toNat_ofNat_of_lt' room]
  refine ⟨id, ?_, ?_, numbered.getElem?_edges, numbered.nextEdge_eq⟩
  · intro other
    simp only [MemoryGraph.createVertex]
    rw [Std.TreeMap.mem_insert, numbered.mem_vertices_iff, Std.LawfulEqCmp.compare_eq_iff_eq,
      ← UInt64.toNat_inj, idNat]
    omega
  · simp only [MemoryGraph.createVertex, toNat_nextId, idNat]

theorem IsNumbered.addAttribute (numbered : IsNumbered vertices edges graph) {vertex : VertexId}
    {added : Attribute} (changed : graph.addAttribute vertex added = .ok next) :
    IsNumbered vertices edges next := by
  rcases addAttribute_eq_ok changed with ⟨attributes, found, rfl⟩
  refine ⟨?_, numbered.nextVertex_eq, numbered.getElem?_edges, numbered.nextEdge_eq⟩
  intro other
  have known : vertex ∈ graph.vertices := by
    rw [Std.TreeMap.mem_iff_isSome_getElem?, found, Option.isSome_some]
  rw [Std.TreeMap.mem_insert, Std.LawfulEqCmp.compare_eq_iff_eq, ← numbered.mem_vertices_iff]
  constructor
  · rintro (rfl | member)
    · exact known
    · exact member
  · exact Or.inr

theorem IsNumbered.createEdge (numbered : IsNumbered vertices edges graph)
    (room : edges.length < UInt64.size) {source destination : VertexId} {label : String}
    {id : EdgeId} (created : graph.createEdge source label destination = .ok (id, next)) :
    id = UInt64.ofNat edges.length ∧
      IsNumbered vertices (edges ++ [⟨id, source, destination, label⟩]) next := by
  rcases createEdge_eq_ok created with ⟨-, -, given, rfl⟩
  have number : id = UInt64.ofNat edges.length := by
    rw [given]
    exact eq_ofNat_of_toNat_eq_min numbered.nextEdge_eq room
  have idNat : id.toNat = edges.length := by
    rw [number, UInt64.toNat_ofNat_of_lt' room]
  refine ⟨number, numbered.mem_vertices_iff, numbered.nextVertex_eq, ?_, ?_⟩
  · intro other
    rw [getElem?_insert_eq, numbered.getElem?_edges]
    split
    next same => rw [← same, idNat, List.getElem?_concat_length]
    next differs =>
      have elsewhere : other.toNat ≠ edges.length := by
        rw [← idNat]
        exact fun same => differs (UInt64.toNat_inj.mp same.symm)
      rw [List.getElem?_append]
      split
      next => rfl
      next outside =>
        rw [List.getElem?_eq_none (by omega), List.getElem?_eq_none (by simp; omega)]
  · simp only [toNat_nextId, idNat, List.length_append, List.length_singleton]

end Steps

section Documents

theorem getD_storeVertices {records : List VertexRecord} {identifier : UInt64}
    (absent : ∀ record ∈ records, record.identifier ≠ identifier) (mapping : Mapping)
    (graph : MemoryGraph) :
    (records.foldl GraphStore.storeVertex (mapping, graph)).1.getD identifier 0 =
      mapping.getD identifier 0 := by
  induction records generalizing mapping graph with
  | nil => rfl
  | cons record records ih =>
      rcases List.forall_mem_cons.mp absent with ⟨differs, others⟩
      rw [List.foldl_cons]
      refine (ih others _ _).trans ?_
      simp [Std.TreeMap.getD_insert, differs]

/-- The vertices of a document get the next ids in the order of the document. -/
theorem IsNumbered.storeVertices (numbered : IsNumbered vertices edges graph)
    {records : List VertexRecord} (distinct : (records.map (·.identifier)).Nodup)
    (room : vertices + records.length ≤ UInt64.size) (mapping : Mapping) :
    (records.map fun record =>
        (records.foldl GraphStore.storeVertex (mapping, graph)).1.getD record.identifier 0) =
      (List.range' vertices records.length).map UInt64.ofNat ∧
    IsNumbered (vertices + records.length) edges
      (records.foldl GraphStore.storeVertex (mapping, graph)).2 := by
  induction records generalizing vertices graph mapping with
  | nil => exact ⟨rfl, numbered⟩
  | cons record records ih =>
      rw [List.length_cons] at room
      rw [List.map_cons, List.nodup_cons, List.mem_map] at distinct
      have later : ∀ other ∈ records, other.identifier ≠ record.identifier :=
        fun other member same => distinct.1 ⟨other, member, same⟩
      rcases numbered.createVertex (by omega) record.attributes with ⟨id, grown⟩
      have rest := ih grown distinct.2 (by omega)
        (mapping.insert record.identifier (graph.createVertex record.attributes).1)
      -- No later record of the document has the same identifier and takes its place.
      have own := getD_storeVertices later
        (mapping.insert record.identifier (graph.createVertex record.attributes).1)
        (graph.createVertex record.attributes).2
      have given := own.trans (Std.TreeMap.getD_insert_self.trans id)
      rw [List.foldl_cons, List.length_cons, List.range'_succ, List.map_cons, List.map_cons]
      refine ⟨?_, ?_⟩
      · exact congr_arg₂ List.cons given rest.1
      · rw [Nat.add_comm records.length 1, ← Nat.add_assoc]
        exact rest.2

/-- The edges of a document get the next ids in the order of the document. -/
theorem IsNumbered.storeEdges (numbered : IsNumbered vertices edges graph) {mapping : Mapping}
    {records : List EdgeRecord} (room : edges.length + records.length ≤ UInt64.size)
    (stored : records.foldlM (GraphStore.storeEdge mapping) graph = .ok next) :
    IsNumbered vertices (edges ++ numberedEdges mapping edges.length records) next := by
  induction records generalizing edges graph with
  | nil =>
      cases stored
      rwa [numberedEdges, List.append_nil]
  | cons record records ih =>
      rw [List.length_cons] at room
      rw [List.foldlM_cons] at stored
      rcases first : GraphStore.storeEdge mapping graph record with error | result
      · simp [first, bind, Except.bind] at stored
      · simp only [first, bind, Except.bind] at stored
        rcases GraphStore.storeEdge_eq_ok first with
          ⟨source, destination, id, sourceFound, destinationFound, created⟩
        rcases numbered.createEdge (by omega) created with ⟨rfl, grown⟩
        have rest := ih grown (by simp; omega) stored
        have ends : mapping.getD record.source 0 = source ∧
            mapping.getD record.destination 0 = destination := by
          simp [Std.TreeMap.getD_eq_getD_getElem?, sourceFound, destinationFound]
        rw [List.length_append, List.length_singleton, List.append_assoc,
          List.singleton_append] at rest
        rwa [numberedEdges, ends.1, ends.2]

end Documents

section Runs

/-- A call creates what its reply says, with the next ids. -/
theorem IsNumbered.perform (numbered : IsNumbered vertices edges graph) {call : StoreCall}
    {result : StoreReply × MemoryGraph} (performs : DocumentStore.Performs graph call result)
    (vertexRoom : vertices + (newVertices call result.1).length ≤ UInt64.size)
    (edgeRoom : edges.length + (newEdges edges.length call result.1).length ≤ UInt64.size) :
    newVertices call result.1 =
        (List.range' vertices (newVertices call result.1).length).map UInt64.ofNat ∧
      IsNumbered (vertices + (newVertices call result.1).length)
        (edges ++ newEdges edges.length call result.1) result.2 := by
  cases performs with
  | createVertex attributes =>
      rcases numbered.createVertex (Nat.lt_of_succ_le vertexRoom) attributes with ⟨id, grown⟩
      exact ⟨congrArg (fun id => [id]) id, (List.append_nil edges).symm ▸ grown⟩
  | addAttribute changed =>
      exact ⟨rfl, (List.append_nil edges).symm ▸ numbered.addAttribute changed⟩
  | createEdge created =>
      exact ⟨rfl, (numbered.createEdge (Nat.lt_of_succ_le edgeRoom) created).2⟩
  | @ingest document mapping _ stored =>
      rcases GraphStore.ingest_eq_ok stored with ⟨accepted, mapped, edgesStored⟩
      have distinct := GraphDocument.nodup_identifiers accepted
      rw [newVertices, List.length_map] at vertexRoom ⊢
      rw [newEdges, DocumentStore.length_numberedEdges] at edgeRoom
      rcases numbered.storeVertices distinct vertexRoom ∅ with ⟨ids, grown⟩
      rw [← mapped] at ids
      exact ⟨ids, grown.storeEdges edgeRoom edgesStored⟩
  | failure call error =>
      have nothing : newVertices call (.failure error) = [] ∧
          newEdges edges.length call (.failure error) = [] := by
        cases call <;> exact ⟨rfl, rfl⟩
      rw [nothing.1, nothing.2, List.append_nil]
      exact ⟨rfl, numbered⟩

/-- Calls create what their replies say, with the next ids in the order of the calls. -/
theorem IsNumbered.after (numbered : IsNumbered vertices edges graph) (events : List StoreEvent)
    (vertexRoom :
      vertices + (createdVertices (transcript graph events)).length ≤ UInt64.size)
    (edgeRoom :
      edges.length + (createdEdges edges.length (transcript graph events)).length ≤ UInt64.size) :
    createdVertices (transcript graph events) =
        (List.range' vertices (createdVertices (transcript graph events)).length).map
          UInt64.ofNat ∧
      IsNumbered (vertices + (createdVertices (transcript graph events)).length)
        (edges ++ createdEdges edges.length (transcript graph events))
        (DocumentStore.after graph events) := by
  induction events generalizing vertices edges graph with
  | nil => exact ⟨rfl, (List.append_nil edges).symm ▸ numbered⟩
  | cons event events ih =>
      cases event with
      | reopen => exact ih numbered vertexRoom edgeRoom
      | call call =>
          simp only [transcript, createdVertices, createdEdges, List.length_append]
            at vertexRoom edgeRoom ⊢
          rcases numbered.perform (DocumentStore.performs graph call) (by omega) (by omega) with
            ⟨ids, grown⟩
          have later := ih grown (by omega) (by rw [List.length_append]; omega)
          rw [List.length_append] at later
          refine ⟨?_, ?_⟩
          · rw [← List.range'_append_1, List.map_append, ← ids, ← later.1]
          · rw [← Nat.add_assoc, ← List.append_assoc]
            exact later.2

end Runs

section Reads

theorem ofNat_range_ascending {number : Nat} (room : number ≤ UInt64.size) :
    ((List.range number).map UInt64.ofNat).Pairwise (· < ·) := by
  rw [List.pairwise_map]
  refine List.pairwise_lt_range.imp_of_mem ?_
  intro left right leftMember rightMember before
  rw [List.mem_range] at leftMember rightMember
  rw [UInt64.lt_iff_toNat_lt, UInt64.toNat_ofNat_of_lt' (by omega),
    UInt64.toNat_ofNat_of_lt' (by omega)]
  exact before

theorem IsNumbered.vertexIds_eq (numbered : IsNumbered vertices edges graph)
    (room : vertices ≤ UInt64.size) :
    GraphStore.vertexIds graph = (List.range vertices).map UInt64.ofNat := by
  have ascending : (GraphStore.vertexIds graph).Pairwise (· < ·) :=
    Std.TreeMap.ordered_keys.imp Std.compare_eq_lt.mp
  have irreflexive : Std.Irrefl fun left right : VertexId => left < right :=
    ⟨UInt64.lt_irrefl⟩
  have asymmetric : Std.Asymm fun left right : VertexId => left < right :=
    ⟨fun _ _ => UInt64.lt_asymm⟩
  refine ascending.eq_of_mem_iff (ofNat_range_ascending room) ?_
  intro id
  rw [mem_vertexIds_iff, numbered.mem_vertices_iff, List.mem_map]
  constructor
  · intro below
    exact ⟨id.toNat, List.mem_range.mpr below, UInt64.ofNat_toNat⟩
  · rintro ⟨number, member, rfl⟩
    rw [List.mem_range] at member
    rwa [UInt64.toNat_ofNat_of_lt' (by omega)]

theorem IsNumbered.map_id_eq (numbered : IsNumbered vertices edges graph) (sound : graph.IsSound)
    (room : edges.length ≤ UInt64.size) :
    edges.map (·.id) = (List.range edges.length).map UInt64.ofNat := by
  refine List.ext_getElem (by simp) ?_
  intro place placed _
  rw [List.length_map] at placed
  have filed := numbered.getElem?_edges (UInt64.ofNat place)
  rw [UInt64.toNat_ofNat_of_lt' (by omega), List.getElem?_eq_getElem placed] at filed
  rw [List.getElem_map, List.getElem_map, List.getElem_range]
  exact sound.edge_id filed

theorem IsNumbered.edges_eq (numbered : IsNumbered vertices edges graph) (sound : graph.IsSound)
    (room : edges.length ≤ UInt64.size) : GraphStore.edges graph = edges := by
  have ids := numbered.map_id_eq sound room
  have ascending : edges.Pairwise (·.id < ·.id) := by
    have listed := ofNat_range_ascending room
    rwa [← ids, List.pairwise_map] at listed
  refine edges_eq_of_mem_iff (edges_ascending sound) ascending ?_
  intro edge
  rw [mem_edges_iff sound, numbered.getElem?_edges]
  constructor
  · exact List.mem_of_getElem?
  · intro member
    rcases List.getElem_of_mem member with ⟨place, placed, rfl⟩
    have id : edges[place].id = UInt64.ofNat place := by
      have same := congrArg (fun ids => ids[place]?) ids
      simpa [placed] using same
    rw [id, UInt64.toNat_ofNat_of_lt' (by omega), List.getElem?_eq_getElem placed]

end Reads

end MemoryGraph

namespace DocumentStore

open MemoryGraph (isSound_after isIndexed_after)

section Chronicles

variable {σ τ : Type} [DocumentStore σ] [DocumentStore τ] {calls : List (StoreCall × StoreReply)}

/-- A store that reads like another one holds what that one does. -/
theorem IsChronicle.congr {left : σ} {right : τ} (chronicle : IsChronicle calls left)
    (alike : GraphStore.ReadAlike left right) : IsChronicle calls right where
  vertices_numbered := chronicle.vertices_numbered
  edges_numbered := chronicle.edges_numbered
  vertexIds_eq := alike.vertexIds ▸ chronicle.vertexIds_eq
  edges_eq := alike.edges ▸ chronicle.edges_eq
  edges_ascending := alike.edges ▸ chronicle.edges_ascending
  ends_stored := by
    simp only [← alike.edges, ← alike.contains]
    exact chronicle.ends_stored
  incidentEdges_eq vertex := by
    rw [← alike.incidentEdges, ← alike.edges]
    exact chronicle.incidentEdges_eq vertex
  edgesBetween_eq vertices := by
    rw [← alike.edgesBetween, ← alike.edges]
    exact chronicle.edgesBetween_eq vertices

variable {events : List StoreEvent}

theorem HaveIds.isChronicle (room : HaveIds (transcript MemoryGraph.empty events)) :
    IsChronicle (transcript MemoryGraph.empty events) (after MemoryGraph.empty events) := by
  have sound := isSound_after events
  have coherent := sound.isCoherent
  have indexed := (isIndexed_after
    ((length_createdEdges MemoryGraph.empty 0 events).symm.trans_le room.edges)).isIndexed sound
  rcases MemoryGraph.isNumbered_empty.after events (by simpa using room.vertices)
    (by simpa using room.edges) with ⟨vertexIds, numbered⟩
  simp only [Nat.zero_add, List.nil_append, List.length_nil, ← List.range_eq_range']
    at vertexIds numbered
  have edges := numbered.edges_eq sound room.edges
  exact
    { vertices_numbered := vertexIds
      edges_numbered := numbered.map_id_eq sound room.edges
      vertexIds_eq := (numbered.vertexIds_eq room.vertices).trans vertexIds.symm
      edges_eq := edges
      edges_ascending := coherent.edges_ascending
      ends_stored := by
        simp only [coherent.contains_iff]
        exact coherent.ends
      incidentEdges_eq := indexed
      edgesBetween_eq := GraphStore.edgesBetween_eq coherent indexed }

end Chronicles

end DocumentStore

theorem TableGraph.Represents.transcript_eq {stored : TableGraph} {graph : MemoryGraph}
    (same : stored.Represents graph) (events : List StoreEvent) :
    DocumentStore.transcript graph events = DocumentStore.transcript stored events := by
  induction events generalizing stored graph with
  | nil => rfl
  | cons event events ih =>
      cases event with
      | call call =>
          rcases same.perform call with ⟨reply, agrees⟩
          simp only [DocumentStore.transcript, reply, ih agrees]
      | reopen => exact ih same.reopen

namespace DocumentStore

/-- Whatever happens to a new store, and whether its graph is in memory or in tables: as long as
there are ids for what is created, the store holds the vertices and the edges that its calls have
created, numbered from zero on in the order of their creation; the ends of every edge are stored;
the edges at a vertex are the edges that start or end there; and the edges between vertices are
those with both ends among them. -/
theorem isChronicle_after (events : List StoreEvent) :
    (HaveIds (transcript MemoryGraph.empty events) →
      IsChronicle (transcript MemoryGraph.empty events) (after MemoryGraph.empty events)) ∧
    (HaveIds (transcript TableGraph.empty events) →
      IsChronicle (transcript TableGraph.empty events) (after TableGraph.empty events)) := by
  refine ⟨HaveIds.isChronicle, ?_⟩
  rw [← TableGraph.represents_empty.transcript_eq]
  exact fun room => room.isChronicle.congr (TableGraph.readAlike_after events)

/-- A vertex with a loop, an edge that is refused, and a document, on tables that are closed in
between. -/
theorem isChronicle_loop_and_document :
    let events : List StoreEvent := [
      .call (.createVertex [⟨"word", "oak"⟩]), .call (.createEdge 0 "same" 0),
      .call (.createEdge 0 "next" 7), .reopen,
      .call (.ingest ⟨[⟨5, []⟩, ⟨3, []⟩], [⟨3, 5, "next"⟩]⟩), .call (.createEdge 0 "next" 2)]
    HaveIds (transcript MemoryGraph.empty events) ∧ HaveIds (transcript TableGraph.empty events) ∧
      GraphStore.vertexIds (after TableGraph.empty events) = [0, 1, 2] ∧
      GraphStore.edges (after TableGraph.empty events) =
        [⟨0, 0, 0, "same"⟩, ⟨1, 2, 1, "next"⟩, ⟨2, 0, 2, "next"⟩] ∧
      GraphStore.incidentEdges (after MemoryGraph.empty events) 0 =
        (GraphStore.edges (after MemoryGraph.empty events)).filter (GraphStore.isEnd 0) := by
  intro events
  have inMemory : HaveIds (transcript MemoryGraph.empty events) :=
    ⟨by decide +kernel, by decide +kernel⟩
  have inTables : HaveIds (transcript TableGraph.empty events) :=
    ⟨by decide +kernel, by decide +kernel⟩
  have memory := (isChronicle_after events).1 inMemory
  have tables := (isChronicle_after events).2 inTables
  exact ⟨inMemory, inTables, tables.vertexIds_eq.trans (by decide +kernel),
    tables.edges_eq.trans (by decide +kernel), memory.incidentEdges_eq 0⟩

end DocumentStore

end MotifVote
