import MotifVote.Proofs.Store.Growth

/-!
# Documents are copied or refused

A document can be written to any store record by record, with nothing to take the writes back once
one of them fails. None does: the document has been checked before, so the ends of its edges are
among its vertices, the vertices have been created by then, and a store takes every edge between
vertices that it has. Whatever the store holds, a document is therefore refused as a whole before
the first write, or written as a whole.

What has been written is a copy of the document under the next ids. Tables that take the document in
one transaction end with the same copy.
-/

namespace MotifVote

namespace GraphStore

section InPlace

variable {σ : Type} [GraphStore σ]

/-- The edges of a document are written one after another, up to the first that fails. -/
def writeEdges (mapping : Mapping) (store : σ) : List EdgeRecord → Option Error × σ
  | [] => (none, store)
  | record :: records =>
    match storeEdge mapping store record with
    | .ok next => writeEdges mapping next records
    | .error error => (some error, store)

/-- A document is written in place. What has been written stays, also if a later write fails. -/
def write (store : σ) (document : GraphDocument) : Except Error Mapping × σ :=
  match document.check with
  | .error fault => (.error (.graph fault), store)
  | .ok () =>
    let filled := document.vertices.foldl storeVertex (∅, store)
    let written := writeEdges filled.1 filled.2 document.edges
    (written.1.elim (.ok filled.1) .error, written.2)

theorem foldlM_storeEdge_eq (mapping : Mapping) (store : σ) (records : List EdgeRecord) :
    records.foldlM (storeEdge mapping) store =
      match writeEdges mapping store records with
      | (none, next) => .ok next
      | (some error, _) => .error error := by
  induction records generalizing store with
  | nil => rfl
  | cons record records ih =>
      rw [List.foldlM_cons, writeEdges]
      rcases storeEdge mapping store record with error | next
      · rfl
      · exact ih next

/-- Storing a document gives what writing it in place does, less what a failure leaves behind. -/
theorem ingest_eq_map_write (store : σ) (document : GraphDocument) :
    ingest store document =
      (write store document).1.map fun mapping => (mapping, (write store document).2) := by
  rcases checked : document.check with fault | ⟨⟩
  · simp [ingest, write, checked, Except.mapError, Except.map, bind, Except.bind]
  · simp only [ingest, write, checked, Except.mapError, bind, Except.bind, foldlM_storeEdge_eq]
    rcases writeEdges (document.vertices.foldl storeVertex (∅, store)).1
      (document.vertices.foldl storeVertex (∅, store)).2 document.edges with ⟨_ | error, next⟩
    · rfl
    · rfl

end InPlace

section Mapping

variable {σ : Type} [GraphStore σ] {identifier : UInt64}

theorem storeVertex_fst (state : Mapping × σ) (record : VertexRecord) :
    (storeVertex state record).1 =
      state.1.insert record.identifier (createVertex state.2 record.attributes).1 :=
  rfl

theorem mem_mapping_storeVertices_iff (state : Mapping × σ) (records : List VertexRecord) :
    identifier ∈ (records.foldl storeVertex state).1 ↔
      identifier ∈ state.1 ∨ identifier ∈ records.map (·.identifier) := by
  induction records generalizing state with
  | nil => simp
  | cons record records ih =>
      rw [List.foldl_cons, ih, storeVertex_fst, Std.TreeMap.mem_insert,
        Std.LawfulEqCmp.compare_eq_iff_eq, List.map_cons, List.mem_cons, eq_comm (a := identifier),
        or_assoc, or_left_comm]

/-- What a mapping leads to is in the graph. -/
def Knows (state : Mapping × MemoryGraph) : Prop :=
  ∀ {identifier : UInt64} {id : VertexId}, state.1[identifier]? = some id →
    id ∈ state.2.vertices

variable {state : Mapping × MemoryGraph}

theorem Knows.storeVertex (knows : Knows state) (record : VertexRecord) :
    Knows (storeVertex state record) := by
  intro identifier id found
  have vertices : (GraphStore.storeVertex state record).2.vertices =
      state.2.vertices.insert (createVertex state.2 record.attributes).1 record.attributes := rfl
  rw [vertices]
  rw [storeVertex_fst, getElem?_insert_eq] at found
  split at found
  next =>
    cases found
    exact Std.TreeMap.mem_insert_self
  next => exact Std.TreeMap.mem_insert.mpr (Or.inr (knows found))

theorem Knows.storeVertices (knows : Knows state) (records : List VertexRecord) :
    Knows (records.foldl GraphStore.storeVertex state) := by
  induction records generalizing state with
  | nil => exact knows
  | cons record records ih => exact ih (knows.storeVertex record)

theorem Knows.exists_writeEdges_eq {mapping : Mapping} {graph : MemoryGraph}
    (knows : Knows (mapping, graph)) {records : List EdgeRecord}
    (mapped : ∀ record ∈ records, record.source ∈ mapping ∧ record.destination ∈ mapping) :
    ∃ next, writeEdges mapping graph records = (none, next) := by
  induction records generalizing graph with
  | nil => exact ⟨graph, rfl⟩
  | cons record records ih =>
      rcases List.forall_mem_cons.mp mapped with ⟨⟨sourceMapped, destinationMapped⟩, others⟩
      rw [Std.TreeMap.mem_iff_isSome_getElem?, Option.isSome_iff_exists]
        at sourceMapped destinationMapped
      rcases sourceMapped with ⟨source, sourceFound⟩
      rcases destinationMapped with ⟨destination, destinationFound⟩
      rcases MemoryGraph.exists_createEdge_eq_ok record.label (knows sourceFound)
        (knows destinationFound) with ⟨id, next, created, kept⟩
      have stored : storeEdge mapping graph record = .ok next := by
        have shape : createEdge graph source record.label destination =
            graph.createEdge source record.label destination := rfl
        simp only [storeEdge, sourceFound, destinationFound, shape, created, Except.map]
      -- The ends of later edges are still in the graph, as no write takes a vertex away.
      rw [writeEdges, stored]
      apply ih
      · intro identifier vertex found
        rw [kept]
        exact knows found
      · exact others

variable {document : GraphDocument}

theorem write_of_check_eq_error {fault : GraphFault} (refused : document.check = .error fault)
    (store : σ) : write store document = (.error (.graph fault), store) := by
  simp only [write, refused]

/-- No write of a document that has been checked fails, whatever the graph holds. -/
theorem exists_write_eq_ok (accepted : document.check = .ok ()) (graph : MemoryGraph) :
    ∃ next, write graph document =
      (.ok (document.vertices.foldl storeVertex (∅, graph)).1, next) := by
  have start : Knows (∅, graph) := by
    intro identifier id found
    simp at found
  have mapped : ∀ record ∈ document.edges,
      record.source ∈ (document.vertices.foldl storeVertex (∅, graph)).1 ∧
        record.destination ∈ (document.vertices.foldl storeVertex (∅, graph)).1 := by
    intro record member
    simp only [mem_mapping_storeVertices_iff, List.mem_map]
    rcases GraphDocument.exists_vertices_of_check accepted member with ⟨source, destination⟩
    exact ⟨Or.inr source, Or.inr destination⟩
  rcases Knows.exists_writeEdges_eq (start.storeVertices document.vertices) mapped with
    ⟨next, written⟩
  exact ⟨next, by simp only [write, accepted, written, Option.elim_none]⟩

end Mapping

end GraphStore

namespace TableGraph

open GraphStore (write writeEdges)

variable {stored : TableGraph} {graph : MemoryGraph}

theorem Represents.storeVertices (same : stored.Represents graph) (records : List VertexRecord)
    (mapping : Mapping) :
    (records.foldl GraphStore.storeVertex (mapping, graph)).1 =
        (records.foldl GraphStore.storeVertex (mapping, stored)).1 ∧
      (records.foldl GraphStore.storeVertex (mapping, stored)).2.Represents
        (records.foldl GraphStore.storeVertex (mapping, graph)).2 := by
  induction records generalizing stored graph mapping with
  | nil => exact ⟨rfl, same⟩
  | cons record records ih =>
      rcases same.createVertex record.attributes with ⟨id, agrees⟩
      have first : GraphStore.storeVertex (mapping, graph) record =
          (mapping.insert record.identifier (stored.createVertex record.attributes).1,
            (graph.createVertex record.attributes).2) := by
        rw [← id]
        rfl
      rw [List.foldl_cons, List.foldl_cons, first]
      exact ih agrees _

theorem Represents.storeEdge (same : stored.Represents graph) (mapping : Mapping)
    (record : EdgeRecord) :
    (∃ error, GraphStore.storeEdge mapping graph record = .error error ∧
        GraphStore.storeEdge mapping stored record = .error error) ∨
      ∃ nextGraph nextStored, GraphStore.storeEdge mapping graph record = .ok nextGraph ∧
        GraphStore.storeEdge mapping stored record = .ok nextStored ∧
        nextStored.Represents nextGraph := by
  rw [GraphStore.storeEdge, GraphStore.storeEdge]
  split
  next source destination _ _ =>
    have inMemory : GraphStore.createEdge graph source record.label destination =
        graph.createEdge source record.label destination := rfl
    have inTables : GraphStore.createEdge stored source record.label destination =
        stored.createEdge source record.label destination := rfl
    rw [inMemory, inTables]
    rcases (same.createEdge source record.label destination).cases with
      ⟨error, left, right⟩ | ⟨id, nextGraph, nextStored, left, right, agrees⟩
    · rw [left, right]
      exact Or.inl ⟨error, rfl, rfl⟩
    · rw [left, right]
      exact Or.inr ⟨nextGraph, nextStored, rfl, rfl, agrees⟩
  next => exact Or.inl ⟨_, rfl, rfl⟩
  next => exact Or.inl ⟨_, rfl, rfl⟩

theorem Represents.writeEdges (same : stored.Represents graph) (mapping : Mapping)
    (records : List EdgeRecord) :
    (writeEdges mapping graph records).1 = (writeEdges mapping stored records).1 ∧
      (writeEdges mapping stored records).2.Represents (writeEdges mapping graph records).2 := by
  induction records generalizing stored graph with
  | nil => exact ⟨rfl, same⟩
  | cons record records ih =>
      rw [GraphStore.writeEdges, GraphStore.writeEdges]
      rcases same.storeEdge mapping record with ⟨error, left, right⟩ | ⟨_, _, left, right, agrees⟩
      · rw [left, right]
        exact ⟨rfl, same⟩
      · rw [left, right]
        exact ih agrees

/-- Tables that are written record by record end like a graph in memory. -/
theorem Represents.write (same : stored.Represents graph) (document : GraphDocument) :
    (write graph document).1 = (write stored document).1 ∧
      (write stored document).2.Represents (write graph document).2 := by
  rcases checked : document.check with fault | ⟨⟩
  · simp only [GraphStore.write, checked]
    exact ⟨trivial, same⟩
  · rcases same.storeVertices document.vertices ∅ with ⟨mappings, filled⟩
    have edges := filled.writeEdges
      (document.vertices.foldl GraphStore.storeVertex (∅, stored)).1 document.edges
    rw [← mappings] at edges
    simp only [GraphStore.write, checked, ← mappings, edges.1]
    exact ⟨trivial, edges.2⟩

end TableGraph

namespace DocumentStore

section Copies

variable {σ τ : Type} [GraphStore σ] [GraphStore τ]

/-- The ids of the vertices of a document, if some number of vertices was there before. -/
def nextIds (number : Nat) (records : List VertexRecord) : List VertexId :=
  (List.range' number records.length).map UInt64.ofNat

/-- A store holds a copy of a document besides what it held before. The identifiers of the document
have been mapped one by one, in its order, to ids that come after all others; the attributes are
those of the document, and so are the edges, in its order, with their ends mapped. -/
structure IsCopied (document : GraphDocument) (mapping : Mapping) (before after : σ) : Prop where
  nodup_identifiers : (document.vertices.map (·.identifier)).Nodup
  mem_mapping_iff : ∀ identifier,
    identifier ∈ mapping ↔ identifier ∈ document.vertices.map (·.identifier)
  mapping_eq : (document.vertices.map fun record => mapping[record.identifier]?) =
    (nextIds (GraphStore.vertexCount before) document.vertices).map some
  vertexIds_eq : GraphStore.vertexIds after =
    GraphStore.vertexIds before ++ nextIds (GraphStore.vertexCount before) document.vertices
  vertexIds_ascending : (GraphStore.vertexIds after).Pairwise (· < ·)
  copied : ∀ record ∈ document.vertices, ∀ id, mapping[record.identifier]? = some id →
    GraphStore.vertex? after id = some ⟨id, record.attributes⟩
  kept : ∀ id, GraphStore.contains before id = true →
    GraphStore.vertex? after id = GraphStore.vertex? before id
  ends_mapped : ∀ record ∈ document.edges, record.source ∈ mapping ∧ record.destination ∈ mapping
  edges_eq : GraphStore.edges after = GraphStore.edges before ++
    numberedEdges mapping (GraphStore.edgeCount before) document.edges
  edges_ascending : (GraphStore.edges after).Pairwise (·.id < ·.id)

theorem IsCopied.congr {document : GraphDocument} {mapping : Mapping} {before after : σ}
    {otherBefore otherAfter : τ} (copied : IsCopied document mapping before after)
    (alikeBefore : GraphStore.ReadAlike before otherBefore)
    (alikeAfter : GraphStore.ReadAlike after otherAfter) :
    IsCopied document mapping otherBefore otherAfter where
  nodup_identifiers := copied.nodup_identifiers
  mem_mapping_iff := copied.mem_mapping_iff
  mapping_eq := alikeBefore.vertexCount ▸ copied.mapping_eq
  vertexIds_eq := by
    rw [← alikeAfter.vertexIds, ← alikeBefore.vertexIds, ← alikeBefore.vertexCount]
    exact copied.vertexIds_eq
  vertexIds_ascending := alikeAfter.vertexIds ▸ copied.vertexIds_ascending
  copied := by
    simp only [← alikeAfter.vertex?]
    exact copied.copied
  kept := by
    simp only [← alikeAfter.vertex?, ← alikeBefore.vertex?, ← alikeBefore.contains]
    exact copied.kept
  ends_mapped := copied.ends_mapped
  edges_eq := by
    rw [← alikeAfter.edges, ← alikeBefore.edges, ← alikeBefore.edgeCount]
    exact copied.edges_eq
  edges_ascending := alikeAfter.edges ▸ copied.edges_ascending

end Copies

end DocumentStore

namespace MemoryGraph

open DocumentStore (IsCopied nextIds numberedEdges)

variable {graph next : MemoryGraph} {vertices : Nat} {edges : List Edge}

/-- The vertices of a document come behind those that were there, each with its attributes. -/
theorem IsNumbered.getElem?_storeVertices (numbered : IsNumbered vertices edges graph)
    (records : List VertexRecord) (room : vertices + records.length ≤ UInt64.size)
    (mapping : Mapping) (id : VertexId) :
    (records.foldl GraphStore.storeVertex (mapping, graph)).2.vertices[id]? =
      if id.toNat < vertices then graph.vertices[id]?
      else (records[id.toNat - vertices]?).map (·.attributes) := by
  induction records generalizing vertices graph mapping with
  | nil =>
      split
      next => rfl
      next outside =>
        apply Std.TreeMap.getElem?_eq_none
        exact fun member => outside ((numbered.mem_vertices_iff id).mp member)
  | cons record records ih =>
      rw [List.length_cons] at room
      rcases numbered.createVertex (by omega) record.attributes with ⟨-, grown⟩
      have filed : (graph.createVertex record.attributes).2.vertices =
          graph.vertices.insert graph.nextVertex record.attributes := rfl
      have nextNat : graph.nextVertex.toNat = vertices := by
        rw [numbered.nextVertex_eq]
        omega
      have isNext : graph.nextVertex = id ↔ id.toNat = vertices := by
        rw [← UInt64.toNat_inj, nextNat, eq_comm]
      have rest := ih grown (by omega)
        (mapping.insert record.identifier (graph.createVertex record.attributes).1)
      rw [List.foldl_cons]
      refine rest.trans ?_
      rw [filed, getElem?_insert_eq]
      simp only [isNext]
      -- The first vertex of the document takes the id between the old vertices and the later ones.
      rcases Nat.lt_trichotomy id.toNat vertices with before | here | behind
      · rw [if_pos (by omega), if_neg (by omega), if_pos before]
      · rw [if_pos (by omega), if_pos here, if_neg (by omega), here, Nat.sub_self]
        rfl
      · have place : id.toNat - vertices = (id.toNat - (vertices + 1)) + 1 := by omega
        rw [if_neg (by omega), if_neg (by omega), place, List.getElem?_cons_succ]

theorem IsNumbered.map_getElem?_storeVertices (numbered : IsNumbered vertices edges graph)
    {records : List VertexRecord} (distinct : (records.map (·.identifier)).Nodup)
    (room : vertices + records.length ≤ UInt64.size) :
    (records.map fun record =>
        (records.foldl GraphStore.storeVertex (∅, graph)).1[record.identifier]?) =
      (nextIds vertices records).map some := by
  have ids := (numbered.storeVertices distinct room ∅).1
  rw [nextIds, ← ids, List.map_map]
  apply List.map_congr_left
  intro record member
  have mapped : record.identifier ∈
      (records.foldl GraphStore.storeVertex ((∅ : Mapping), graph)).1 := by
    rw [GraphStore.mem_mapping_storeVertices_iff]
    exact Or.inr (List.mem_map_of_mem member)
  rw [Std.TreeMap.mem_iff_isSome_getElem?, Option.isSome_iff_exists] at mapped
  rcases mapped with ⟨id, found⟩
  simp only [Function.comp_apply, Std.TreeMap.getD_eq_getD_getElem?, found, Option.getD_some]

/-- A vertex of a document has its attributes, under the id that the mapping leads to. -/
theorem IsNumbered.getElem?_of_mapped (numbered : IsNumbered vertices edges graph)
    {records : List VertexRecord} (distinct : (records.map (·.identifier)).Nodup)
    (room : vertices + records.length ≤ UInt64.size) {record : VertexRecord}
    (member : record ∈ records) {id : VertexId}
    (found : (records.foldl GraphStore.storeVertex (∅, graph)).1[record.identifier]? = some id) :
    (records.foldl GraphStore.storeVertex (∅, graph)).2.vertices[id]? = some record.attributes := by
  rcases List.getElem_of_mem member with ⟨place, placed, rfl⟩
  have given :=
    congrArg (fun ids => ids[place]?) (numbered.map_getElem?_storeVertices distinct room)
  simp only [nextIds, List.getElem?_map, List.getElem?_range', placed, List.getElem?_eq_getElem,
    Option.map_some, found, Option.some.injEq] at given
  have idNat : id.toNat = vertices + place := by
    rw [given, UInt64.toNat_ofNat_of_lt' (by omega)]
    omega
  rw [numbered.getElem?_storeVertices records room ∅ id, idNat, if_neg (by omega),
    Nat.add_sub_cancel_left, List.getElem?_eq_getElem placed, Option.map_some]

/-- A document that a graph has taken has been copied. -/
theorem IsNumbered.isCopied (numbered : IsNumbered vertices edges graph) (sound : graph.IsSound)
    {document : GraphDocument} (vertexRoom : vertices + document.vertices.length ≤ UInt64.size)
    (edgeRoom : edges.length + document.edges.length ≤ UInt64.size) {mapping : Mapping}
    (stored : GraphStore.ingest graph document = .ok (mapping, next)) :
    IsCopied document mapping graph next := by
  have soundNext : next.IsSound := @IsKept.ingest _ 0 _ _ isKept_isSound _ _ sound stored
  rcases GraphStore.ingest_eq_ok stored with ⟨accepted, rfl, edgesStored⟩
  have distinct := GraphDocument.nodup_identifiers accepted
  have grown := (numbered.storeVertices distinct vertexRoom ∅).2.storeEdges edgeRoom edgesStored
  have listed := numbered.vertexIds_eq (by omega)
  have vertexCount : GraphStore.vertexCount graph = vertices := by
    rw [sound.isCoherent.vertexCount_eq, listed, List.length_map, List.length_range]
  have edgesBefore := numbered.edges_eq sound (by omega)
  have known : ∀ identifier, identifier ∈ (document.vertices.foldl GraphStore.storeVertex
      ((∅ : Mapping), graph)).1 ↔ identifier ∈ document.vertices.map (·.identifier) := by
    intro identifier
    rw [GraphStore.mem_mapping_storeVertices_iff]
    exact or_iff_right Std.TreeMap.not_mem_emptyc
  -- Edges leave the vertices as they are, so these are in place once they have been stored.
  have vertex? : ∀ {id : VertexId} {found : Option (List Attribute)},
      (document.vertices.foldl GraphStore.storeVertex ((∅ : Mapping), graph)).2.vertices[id]? =
        found → GraphStore.vertex? next id = found.map fun attributes => ⟨id, attributes⟩ := by
    rintro id _ rfl
    rw [← vertices_storeEdges edgesStored]
    rfl
  exact
    { nodup_identifiers := distinct
      mem_mapping_iff := known
      mapping_eq := by
        rw [vertexCount]
        exact numbered.map_getElem?_storeVertices distinct vertexRoom
      vertexIds_eq := by
        rw [grown.vertexIds_eq vertexRoom, listed, vertexCount, nextIds, ← List.map_append,
          List.range_eq_range', List.range_eq_range', ← List.range'_append_1, Nat.zero_add]
      vertexIds_ascending := soundNext.isCoherent.vertexIds_ascending
      copied := fun record member id found =>
        vertex? (numbered.getElem?_of_mapped distinct vertexRoom member found)
      kept := by
        intro id contained
        have below := (numbered.mem_vertices_iff id).mp contained
        exact vertex? ((numbered.getElem?_storeVertices _ vertexRoom ∅ id).trans (if_pos below))
      ends_mapped := by
        intro record member
        simp only [known, List.mem_map]
        exact GraphDocument.exists_vertices_of_check accepted member
      edges_eq := by
        rw [grown.edges_eq soundNext _, sound.isCoherent.edgeCount_eq, edgesBefore]
        rwa [List.length_append, DocumentStore.length_numberedEdges]
      edges_ascending := soundNext.isCoherent.edges_ascending }

end MemoryGraph

namespace DocumentStore

section Outcomes

variable {σ : Type} [DocumentStore σ]

/-- A store refuses a document and stays as it was, whether the document is written in place or
taken as a whole. -/
structure Refuses (store : σ) (document : GraphDocument) (fault : GraphFault) : Prop where
  write_eq : GraphStore.write store document = (.error (.graph fault), store)
  perform_eq : perform store (.ingest document) = (.failure (.graph fault), store)

/-- A store gives a mapping for a document, and what it becomes when the document is written in
place and when it is taken as a whole. -/
structure Takes (store : σ) (document : GraphDocument) (mapping : Mapping)
    (inPlace atOnce : σ) : Prop where
  write_eq : GraphStore.write store document = (.ok mapping, inPlace)
  perform_eq : perform store (.ingest document) = (.document mapping, atOnce)

end Outcomes

variable {events : List StoreEvent} {document : GraphDocument} {mapping : Mapping}
  {grown : MemoryGraph}

theorem Takes.ingest_eq {graph : MemoryGraph} (takes : Takes graph document mapping grown grown) :
    GraphStore.ingest graph document = .ok (mapping, grown) := by
  rw [GraphStore.ingest_eq_map_write, takes.write_eq]
  rfl

theorem exists_takes_memory (accepted : document.check = .ok ()) (graph : MemoryGraph) :
    ∃ mapping grown, Takes graph document mapping grown grown := by
  rcases GraphStore.exists_write_eq_ok accepted graph with ⟨grown, written⟩
  refine ⟨_, grown, written, ?_⟩
  have ingested : DocumentStore.ingest graph document = GraphStore.ingest graph document := rfl
  rw [perform, ingested, GraphStore.ingest_eq_map_write, written]
  rfl

theorem refuses_of_check {fault : GraphFault} (refused : document.check = .error fault)
    (graph : MemoryGraph) (tables : TableGraph) :
    Refuses graph document fault ∧ Refuses tables document fault := by
  have failed := GraphDocument.mapError_check_of_error refused
  have inMemory : DocumentStore.ingest graph document = .error (.graph fault) := by
    simp only [DocumentStore.ingest, GraphStore.ingest, failed, bind, Except.bind]
  have inTables : DocumentStore.ingest tables document = .error (.graph fault) := by
    simp only [DocumentStore.ingest, TableGraph.ingest, failed, bind, Except.bind]
  refine ⟨⟨GraphStore.write_of_check_eq_error refused graph, ?_⟩,
    ⟨GraphStore.write_of_check_eq_error refused tables, ?_⟩⟩
  · rw [perform, inMemory, settle]
  · rw [perform, inTables, settle]

theorem HaveIds.isCopied
    (room : HaveIds (transcript MemoryGraph.empty (events ++ [.call (.ingest document)])))
    (takes : Takes (after MemoryGraph.empty events) document mapping grown grown) :
    IsCopied document mapping (after MemoryGraph.empty events) grown := by
  rw [transcript_append] at room
  have roomBefore := room.of_append
  rcases MemoryGraph.isNumbered_empty.after events (by simpa using roomBefore.vertices)
    (by simpa using roomBefore.edges) with ⟨-, numbered⟩
  rcases room with ⟨vertexRoom, edgeRoom⟩
  simp only [createdVertices_append, createdEdges_append, transcript, takes.perform_eq,
    createdVertices, createdEdges, newVertices, newEdges, length_numberedEdges, List.append_nil,
    List.length_append, List.length_map, Nat.zero_add] at vertexRoom edgeRoom
  simp only [Nat.zero_add, List.nil_append, List.length_nil] at numbered
  exact numbered.isCopied (MemoryGraph.isSound_after events) vertexRoom edgeRoom takes.ingest_eq

/-- Whatever has happened to a store, and whether its graph is in memory or in tables that are
closed and opened again: a document that the check refuses is refused for the same reason, and
nothing has been written, also when the document is written record by record with nothing to undo
it. Any other document is taken. Memory and tables give the same mapping and end with the same
contents and the same next ids, whichever way the document has been written; as long as there are
ids for it, it has been copied besides what was there. -/
theorem refuses_or_copies (events : List StoreEvent) (document : GraphDocument) :
    let graph := after MemoryGraph.empty events
    let tables := after TableGraph.empty events
    (∀ fault, document.check = .error fault →
      Refuses graph document fault ∧ Refuses tables document fault) ∧
    (document.check = .ok () → ∃ mapping grown inPlace atOnce,
      Takes graph document mapping grown grown ∧ Takes tables document mapping inPlace atOnce ∧
      (inPlace.Represents grown ∧ atOnce.Represents grown) ∧
      (GraphStore.ReadAlike grown inPlace ∧ GraphStore.ReadAlike grown atOnce) ∧
      (HaveIds (transcript MemoryGraph.empty (events ++ [.call (.ingest document)])) →
        IsCopied document mapping graph grown) ∧
      (HaveIds (transcript TableGraph.empty (events ++ [.call (.ingest document)])) →
        IsCopied document mapping tables inPlace ∧ IsCopied document mapping tables atOnce)) := by
  intro graph tables
  refine ⟨fun fault refused => refuses_of_check refused graph tables, ?_⟩
  intro accepted
  have same : tables.Represents graph := (TableGraph.represents_empty.after events).2
  rcases exists_takes_memory accepted graph with ⟨mapping, grown, takes⟩
  have written := same.write document
  have performed := same.perform (.ingest document)
  rw [takes.write_eq] at written
  rw [takes.perform_eq] at performed
  refine ⟨mapping, grown, _, _, takes, ⟨Prod.ext written.1.symm rfl, Prod.ext performed.1.symm rfl⟩,
    ⟨written.2, performed.2⟩, ⟨written.2.readAlike, performed.2.readAlike⟩,
    fun room => room.isCopied takes, ?_⟩
  rw [← TableGraph.represents_empty.transcript_eq]
  intro room
  have copied := room.isCopied takes
  exact ⟨copied.congr same.readAlike written.2.readAlike,
    copied.congr same.readAlike performed.2.readAlike⟩

/-- Tables with two vertices and an edge, closed and opened again. A document whose last edge has an
end that it does not declare is refused as a whole; one with a loop and two equal edges is copied.
-/
theorem refuses_or_copies_parallel_edges :
    let events : List StoreEvent := [.call (.createVertex [⟨"word", "oak"⟩]),
      .call (.createVertex []), .call (.createEdge 0 "next" 1), .reopen]
    let vertices : List VertexRecord := [⟨9, [⟨"word", "elm"⟩, ⟨"word", "ash"⟩]⟩, ⟨4, []⟩]
    let document : GraphDocument := ⟨vertices, [⟨4, 9, "next"⟩, ⟨9, 9, "same"⟩, ⟨4, 9, "next"⟩]⟩
    let refused : GraphDocument := ⟨vertices, [⟨4, 9, "next"⟩, ⟨4, 0, "next"⟩]⟩
    let graph := after MemoryGraph.empty events
    let tables := after TableGraph.empty events
    refused.check = .error (.undeclaredVertex 0) ∧ document.check = .ok () ∧
      HaveIds (transcript MemoryGraph.empty (events ++ [.call (.ingest document)])) ∧
      HaveIds (transcript TableGraph.empty (events ++ [.call (.ingest document)])) ∧
      Refuses graph refused (.undeclaredVertex 0) ∧ Refuses tables refused (.undeclaredVertex 0) ∧
      ∃ mapping grown inPlace atOnce,
        Takes graph document mapping grown grown ∧ Takes tables document mapping inPlace atOnce ∧
        mapping[(9 : UInt64)]? = some 2 ∧ mapping[(4 : UInt64)]? = some 3 ∧
        GraphStore.edges atOnce =
          [⟨0, 0, 1, "next"⟩, ⟨1, 3, 2, "next"⟩, ⟨2, 2, 2, "same"⟩, ⟨3, 3, 2, "next"⟩] ∧
        IsCopied document mapping graph grown ∧ IsCopied document mapping tables inPlace ∧
        IsCopied document mapping tables atOnce := by
  intro events vertices document refused graph tables
  have unfit : refused.check = .error (.undeclaredVertex 0) := by decide +kernel
  have accepted : document.check = .ok () := by decide +kernel
  have inMemory : HaveIds (transcript MemoryGraph.empty (events ++ [.call (.ingest document)])) :=
    ⟨by decide +kernel, by decide +kernel⟩
  have inTables : HaveIds (transcript TableGraph.empty (events ++ [.call (.ingest document)])) :=
    ⟨by decide +kernel, by decide +kernel⟩
  have refusals := (refuses_or_copies events refused).1 (.undeclaredVertex 0) unfit
  rcases (refuses_or_copies events document).2 accepted with
    ⟨mapping, grown, inPlace, atOnce, takes, taken, -, -, copied, copies⟩
  have mapped : (GraphStore.write graph document).1.map
      (fun mapping => (mapping[(9 : UInt64)]?, mapping[(4 : UInt64)]?)) = .ok (some 2, some 3) := by
    decide +kernel
  rw [takes.write_eq, Except.map, Except.ok.injEq, Prod.mk.injEq] at mapped
  have ended : atOnce = (perform tables (.ingest document)).2 :=
    (congrArg Prod.snd taken.perform_eq).symm
  refine ⟨unfit, accepted, inMemory, inTables, refusals.1, refusals.2, mapping, grown, inPlace,
    atOnce, takes, taken, mapped.1, mapped.2, ?_, copied inMemory, copies inTables⟩
  rw [ended]
  decide +kernel

end DocumentStore

end MotifVote
