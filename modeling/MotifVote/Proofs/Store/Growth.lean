import MotifVote.Proofs.Motif.Homomorphism
import MotifVote.Proofs.Store.Numbering

/-!
# Stores only grow

Nothing that a store holds is ever lost: its vertices keep their ids and their attributes, in the
same order and before any further ones, and its edges stay as they are. What is added gets ids that
were not in use. So a homomorphism from a motif into a store is one into every later state of the
store, and the motif selects no less there.

The step that could fail is a new vertex: it takes the place of whatever has its id. As long as
there are ids left, no vertex has the next one.
-/

namespace MotifVote

namespace GraphStore

variable {σ τ : Type} [GraphStore σ] [GraphStore τ]

/-- What a store holds is held by another one too: vertices under their ids and with their
attributes, and edges, in front of whatever there is besides. -/
structure GrowsTo (before after : σ) : Prop where
  vertices : ∀ {id : VertexId} {found : Vertex}, vertex? before id = some found →
    ∃ now, vertex? after id = some now ∧ now.id = found.id ∧
      found.attributes <+: now.attributes
  edges : GraphStore.edges before <+: GraphStore.edges after

theorem GrowsTo.congr {before after : σ} {otherBefore otherAfter : τ}
    (grows : GrowsTo before after) (alikeBefore : ReadAlike before otherBefore)
    (alikeAfter : ReadAlike after otherAfter) : GrowsTo otherBefore otherAfter where
  vertices := by
    simp only [← alikeBefore.vertex?, ← alikeAfter.vertex?]
    exact grows.vertices
  edges := alikeBefore.edges ▸ alikeAfter.edges ▸ grows.edges

end GraphStore

namespace Motif

variable {σ : Type} [GraphStore σ] {before after : σ} {motif : Motif} {image : UInt64 → VertexId}

theorem IsHomomorphism.mono (homomorphism : motif.IsHomomorphism before image)
    (grows : GraphStore.GrowsTo before after) : motif.IsHomomorphism after image where
  carries vertex member := by
    rcases homomorphism.carries vertex member with ⟨found, stored, carried⟩
    rcases grows.vertices stored with ⟨now, still, -, kept⟩
    exact ⟨now, still, fun predicate required => kept.subset (carried predicate required)⟩
  connects edge member := by
    rcases List.mem_map.mp (homomorphism.connects edge member) with ⟨stored, known, same⟩
    exact List.mem_map.mpr ⟨stored, grows.edges.subset known, same⟩

/-- A motif selects no less in a store that has grown. -/
theorem exists_evaluate_subset (coherentBefore : GraphStore.IsCoherent before)
    (coherentAfter : GraphStore.IsCoherent after) (grows : GraphStore.GrowsTo before after)
    (motif : Motif) :
    ∃ found later, motif.evaluate before = .ok found ∧ motif.evaluate after = .ok later ∧
      found ⊆ later := by
  rcases motif.selectsImages_of_isCoherent coherentBefore with ⟨found, ran, -, selected⟩
  rcases motif.selectsImages_of_isCoherent coherentAfter with ⟨later, ranLater, -, selectedLater⟩
  refine ⟨found, later, ran, ranLater, ?_⟩
  intro vertex member
  rcases (selected vertex).mp member with ⟨image, homomorphism, sent⟩
  exact (selectedLater vertex).mpr ⟨image, homomorphism.mono grows, sent⟩

end Motif

namespace DocumentStore

variable {σ τ : Type} [DocumentStore σ] [DocumentStore τ]

theorem after_append (store : σ) (before later : List StoreEvent) :
    after store (before ++ later) = after (after store before) later := by
  induction before generalizing store with
  | nil => rfl
  | cons event before ih =>
      cases event with
      | call call => exact ih (perform store call).2
      | reopen => exact ih (reopen store)

theorem transcript_append (store : σ) (before later : List StoreEvent) :
    transcript store (before ++ later) =
      transcript store before ++ transcript (after store before) later := by
  induction before generalizing store with
  | nil => rfl
  | cons event before ih =>
      cases event with
      | call call =>
          simp only [List.cons_append, transcript, ih]
          rfl
      | reopen => exact ih (reopen store)

theorem createdVertices_append (calls later : List (StoreCall × StoreReply)) :
    createdVertices (calls ++ later) = createdVertices calls ++ createdVertices later := by
  induction calls with
  | nil => rfl
  | cons call calls ih =>
      simp only [List.cons_append, createdVertices, ih, List.append_assoc]

theorem createdEdges_append (number : Nat) (calls later : List (StoreCall × StoreReply)) :
    createdEdges number (calls ++ later) = createdEdges number calls ++
      createdEdges (number + (createdEdges number calls).length) later := by
  induction calls generalizing number with
  | nil => rfl
  | cons call calls ih =>
      simp only [List.cons_append, createdEdges, ih, List.append_assoc, List.length_append,
        Nat.add_assoc]

/-- What calls make of a store: it still holds what it held, what they have created has come behind
it under ids that were free, and every motif still selects what it selected. -/
structure Grows (calls : List (StoreCall × StoreReply)) (before after : σ) : Prop where
  keeps : GraphStore.GrowsTo before after
  vertexIds_eq : GraphStore.vertexIds after = GraphStore.vertexIds before ++ createdVertices calls
  edges_eq : GraphStore.edges after =
    GraphStore.edges before ++ createdEdges (GraphStore.edges before).length calls
  vertices_free : ∀ id ∈ createdVertices calls, GraphStore.contains before id = false
  edges_free : ∀ created ∈ createdEdges (GraphStore.edges before).length calls,
    ∀ stored ∈ GraphStore.edges before, stored.id ≠ created.id
  selects : ∀ motif : Motif, ∃ found later,
    motif.evaluate before = .ok found ∧ motif.evaluate after = .ok later ∧ found ⊆ later

variable {calls : List (StoreCall × StoreReply)}

/-- As ids are ascending, those at the end have not been used before. -/
theorem Grows.of_growsTo {before after : σ} (coherentBefore : GraphStore.IsCoherent before)
    (coherentAfter : GraphStore.IsCoherent after) (keeps : GraphStore.GrowsTo before after)
    (vertexIds : GraphStore.vertexIds after =
      GraphStore.vertexIds before ++ createdVertices calls)
    (edges : GraphStore.edges after =
      GraphStore.edges before ++ createdEdges (GraphStore.edges before).length calls) :
    Grows calls before after where
  keeps := keeps
  vertexIds_eq := vertexIds
  edges_eq := edges
  vertices_free := by
    have ascending := coherentAfter.vertexIds_ascending
    rw [vertexIds, List.pairwise_append] at ascending
    intro id created
    rw [← Bool.not_eq_true, coherentBefore.contains_iff]
    intro stored
    exact UInt64.lt_irrefl id (ascending.2.2 id stored id created)
  edges_free := by
    have ascending := coherentAfter.edges_ascending
    rw [edges, List.pairwise_append] at ascending
    intro created member stored known
    exact UInt64.ne_of_lt (ascending.2.2 stored known created member)
  selects := Motif.exists_evaluate_subset coherentBefore coherentAfter keeps

theorem Grows.congr {before after : σ} {otherBefore otherAfter : τ}
    (grows : Grows calls before after) (coherentBefore : GraphStore.IsCoherent before)
    (coherentAfter : GraphStore.IsCoherent after)
    (alikeBefore : GraphStore.ReadAlike before otherBefore)
    (alikeAfter : GraphStore.ReadAlike after otherAfter) :
    Grows calls otherBefore otherAfter := by
  apply Grows.of_growsTo (coherentBefore.congr alikeBefore) (coherentAfter.congr alikeAfter)
  · exact grows.keeps.congr alikeBefore alikeAfter
  · rw [← alikeBefore.vertexIds, ← alikeAfter.vertexIds]
    exact grows.vertexIds_eq
  · rw [← alikeBefore.edges, ← alikeAfter.edges]
    exact grows.edges_eq

end DocumentStore

namespace MemoryGraph

open DocumentStore (newVertices newEdges createdVertices createdEdges transcript HaveIds)

/-- The vertices of a graph are still there, with their attributes in front of any further ones. -/
def KeepsVertices (graph next : MemoryGraph) : Prop :=
  ∀ (id : VertexId) (attributes : List Attribute), graph.vertices[id]? = some attributes →
    ∃ now, next.vertices[id]? = some now ∧ attributes <+: now

variable {graph middle next : MemoryGraph} {vertices : Nat} {edges : List Edge}

theorem KeepsVertices.of_eq (same : next.vertices = graph.vertices) : graph.KeepsVertices next := by
  intro id attributes found
  exact ⟨attributes, same ▸ found, List.prefix_rfl⟩

theorem KeepsVertices.trans (first : graph.KeepsVertices middle)
    (second : middle.KeepsVertices next) : graph.KeepsVertices next := by
  intro id attributes found
  rcases first id attributes found with ⟨between, stored, kept⟩
  rcases second id between stored with ⟨now, still, keptAgain⟩
  exact ⟨now, still, kept.trans keptAgain⟩

/-- Filing attributes for a vertex keeps what is there if they continue its attributes. -/
theorem KeepsVertices.insert {vertex : VertexId} {now : List Attribute}
    (continues : ∀ attributes, graph.vertices[vertex]? = some attributes → attributes <+: now)
    (filed : next.vertices = graph.vertices.insert vertex now) : graph.KeepsVertices next := by
  intro id attributes found
  rw [filed, getElem?_insert_eq]
  by_cases same : vertex = id
  · subst same
    exact ⟨now, if_pos rfl, continues attributes found⟩
  · exact ⟨attributes, (if_neg same).trans found, List.prefix_rfl⟩

section Steps

/-- While there are ids left, no vertex has the next one. -/
theorem IsNumbered.getElem?_nextVertex (numbered : IsNumbered vertices edges graph)
    (room : vertices < UInt64.size) : graph.vertices[graph.nextVertex]? = none := by
  apply Std.TreeMap.getElem?_eq_none
  rw [numbered.mem_vertices_iff, numbered.nextVertex_eq]
  omega

theorem IsNumbered.keepsVertices_createVertex (numbered : IsNumbered vertices edges graph)
    (room : vertices < UInt64.size) (attributes : List Attribute) :
    graph.KeepsVertices (graph.createVertex attributes).2 := by
  refine .insert ?_ rfl
  intro old found
  rw [numbered.getElem?_nextVertex room] at found
  cases found

theorem keepsVertices_addAttribute {vertex : VertexId} {added : Attribute}
    (changed : graph.addAttribute vertex added = .ok next) : graph.KeepsVertices next := by
  rcases addAttribute_eq_ok changed with ⟨attributes, stored, rfl⟩
  refine .insert ?_ rfl
  intro old found
  rw [stored] at found
  cases found
  exact List.prefix_append attributes [added]

theorem vertices_createEdge {source destination : VertexId} {label : String} {id : EdgeId}
    (created : graph.createEdge source label destination = .ok (id, next)) :
    next.vertices = graph.vertices := by
  rcases createEdge_eq_ok created with ⟨-, -, -, rfl⟩
  rfl

theorem IsNumbered.keepsVertices_storeVertices (numbered : IsNumbered vertices edges graph)
    (records : List VertexRecord) (room : vertices + records.length ≤ UInt64.size)
    (mapping : Mapping) :
    graph.KeepsVertices (records.foldl GraphStore.storeVertex (mapping, graph)).2 := by
  induction records generalizing vertices graph mapping with
  | nil => exact .of_eq rfl
  | cons record records ih =>
      rw [List.length_cons] at room
      rcases numbered.createVertex (by omega) record.attributes with ⟨-, grown⟩
      exact (numbered.keepsVertices_createVertex (by omega) record.attributes).trans
        (ih grown (by omega) _)

theorem vertices_storeEdges {mapping : Mapping} {records : List EdgeRecord}
    (stored : records.foldlM (GraphStore.storeEdge mapping) graph = .ok next) :
    next.vertices = graph.vertices := by
  induction records generalizing graph with
  | nil =>
      cases stored
      rfl
  | cons record records ih =>
      rw [List.foldlM_cons] at stored
      rcases first : GraphStore.storeEdge mapping graph record with error | result
      · simp [first, bind, Except.bind] at stored
      · simp only [first, bind, Except.bind] at stored
        rcases GraphStore.storeEdge_eq_ok first with ⟨_, _, _, -, -, created⟩
        exact (ih stored).trans (vertices_createEdge created)

end Steps

section Runs

theorem IsNumbered.keepsVertices_perform (numbered : IsNumbered vertices edges graph)
    {call : StoreCall} {result : StoreReply × MemoryGraph}
    (performs : DocumentStore.Performs graph call result)
    (room : vertices + (newVertices call result.1).length ≤ UInt64.size) :
    graph.KeepsVertices result.2 := by
  cases performs with
  | createVertex attributes =>
      exact numbered.keepsVertices_createVertex (Nat.lt_of_succ_le room) attributes
  | addAttribute changed => exact keepsVertices_addAttribute changed
  | createEdge created => exact .of_eq (vertices_createEdge created)
  | @ingest document mapping _ stored =>
      rcases GraphStore.ingest_eq_ok stored with ⟨-, -, edgesStored⟩
      rw [newVertices, List.length_map] at room
      exact (numbered.keepsVertices_storeVertices document.vertices room ∅).trans
        (.of_eq (vertices_storeEdges edgesStored))
  | failure call error => exact .of_eq rfl

theorem IsNumbered.keepsVertices_after (numbered : IsNumbered vertices edges graph)
    (events : List StoreEvent)
    (vertexRoom :
      vertices + (createdVertices (transcript graph events)).length ≤ UInt64.size)
    (edgeRoom :
      edges.length + (createdEdges edges.length (transcript graph events)).length ≤ UInt64.size) :
    graph.KeepsVertices (DocumentStore.after graph events) := by
  induction events generalizing vertices edges graph with
  | nil => exact .of_eq rfl
  | cons event events ih =>
      cases event with
      | reopen => exact ih numbered vertexRoom edgeRoom
      | call call =>
          simp only [transcript, createdVertices, createdEdges, List.length_append]
            at vertexRoom edgeRoom
          have performs := DocumentStore.performs graph call
          rcases numbered.perform performs (by omega) (by omega) with ⟨-, grown⟩
          have later := ih grown (by omega) (by rw [List.length_append]; omega)
          exact (numbered.keepsVertices_perform performs (by omega)).trans later

end Runs

end MemoryGraph

namespace DocumentStore

/-- Where there are ids for all calls, there are ids for the first ones. -/
theorem HaveIds.of_append {calls later : List (StoreCall × StoreReply)}
    (room : HaveIds (calls ++ later)) : HaveIds calls := by
  rcases room with ⟨vertexRoom, edgeRoom⟩
  rw [createdVertices_append, List.length_append] at vertexRoom
  rw [createdEdges_append, List.length_append] at edgeRoom
  exact ⟨by omega, by omega⟩

variable {before later : List StoreEvent}

theorem HaveIds.keepsVertices (room : HaveIds (transcript MemoryGraph.empty (before ++ later))) :
    (after MemoryGraph.empty before).KeepsVertices
      (after (after MemoryGraph.empty before) later) := by
  rw [transcript_append] at room
  have roomBefore := room.of_append
  rcases MemoryGraph.isNumbered_empty.after before (by simpa using roomBefore.vertices)
    (by simpa using roomBefore.edges) with ⟨-, numbered⟩
  rcases room with ⟨vertexRoom, edgeRoom⟩
  simp only [createdVertices_append, createdEdges_append, List.length_append, Nat.zero_add]
    at vertexRoom edgeRoom
  simp only [Nat.zero_add, List.nil_append, List.length_nil] at numbered
  exact numbered.keepsVertices_after later vertexRoom edgeRoom

/-- A graph in memory grows by what calls create, wherever its history is divided. -/
theorem grows_memory (room : HaveIds (transcript MemoryGraph.empty (before ++ later))) :
    Grows (transcript (after MemoryGraph.empty before) later) (after MemoryGraph.empty before)
      (after (after MemoryGraph.empty before) later) := by
  have keepsVertices := room.keepsVertices
  have chronicleAfter := room.isChronicle
  rw [transcript_append] at room chronicleAfter
  have chronicleBefore := room.of_append.isChronicle
  have coherentAfter := (MemoryGraph.isSound_after (before ++ later)).isCoherent
  rw [after_append] at chronicleAfter coherentAfter
  have edges : GraphStore.edges (after (after MemoryGraph.empty before) later) =
      GraphStore.edges (after MemoryGraph.empty before) ++
        createdEdges (GraphStore.edges (after MemoryGraph.empty before)).length
          (transcript (after MemoryGraph.empty before) later) := by
    rw [chronicleAfter.edges_eq, createdEdges_append, chronicleBefore.edges_eq, Nat.zero_add]
  refine .of_growsTo (MemoryGraph.isSound_after before).isCoherent coherentAfter ⟨?_, ?_⟩ ?_ edges
  · intro id found stored
    rcases Option.map_eq_some_iff.mp stored with ⟨attributes, filed, rfl⟩
    rcases keepsVertices id attributes filed with ⟨now, still, kept⟩
    exact ⟨⟨id, now⟩, Option.map_eq_some_iff.mpr ⟨now, still, rfl⟩, rfl, kept⟩
  · rw [edges]
    exact List.prefix_append _ _
  · rw [chronicleAfter.vertexIds_eq, createdVertices_append, chronicleBefore.vertexIds_eq]

/-- Whatever happens to a new store, and whether its graph is in memory or in tables that are closed
and opened again: as long as there are ids for what is created, further calls only add to what is
there, under ids that were free, and no motif selects less than before. -/
theorem grows_after (before later : List StoreEvent) :
    (HaveIds (transcript MemoryGraph.empty (before ++ later)) →
      Grows (transcript (after MemoryGraph.empty before) later) (after MemoryGraph.empty before)
        (after (after MemoryGraph.empty before) later)) ∧
    (HaveIds (transcript TableGraph.empty (before ++ later)) →
      Grows (transcript (after TableGraph.empty before) later) (after TableGraph.empty before)
        (after (after TableGraph.empty before) later)) := by
  refine ⟨grows_memory, ?_⟩
  rw [← TableGraph.represents_empty.transcript_eq]
  intro room
  have same := (TableGraph.represents_empty.after before).2
  have grows := grows_memory room
  rw [same.transcript_eq] at grows
  have coherentAfter := (MemoryGraph.isSound_after (before ++ later)).isCoherent
  rw [after_append] at coherentAfter
  exact grows.congr (MemoryGraph.isSound_after before).isCoherent coherentAfter same.readAlike
    (same.after later).2.readAlike

/-- Two vertices and an edge between them in tables. Opened again, the tables take an attribute, an
edge that is refused, and a document, after which a motif selects one vertex more. -/
theorem grows_reopened_tables :
    let before : List StoreEvent := [.call (.createVertex [⟨"word", "oak"⟩]),
      .call (.createVertex [⟨"word", "elm"⟩]), .call (.createEdge 0 "next" 1)]
    let later : List StoreEvent := [.reopen, .call (.addAttribute 0 ⟨"word", "ash"⟩),
      .call (.createEdge 0 "next" 9),
      .call (.ingest ⟨[⟨7, []⟩, ⟨5, []⟩], [⟨5, 7, "next"⟩]⟩)]
    let store := after TableGraph.empty before
    let motif : Motif := ⟨0, [⟨0, .empty⟩, ⟨1, .empty⟩], [⟨0, 1, "next"⟩], by simp [declaredBy],
      by simp [declaredBy], by simp [declaredBy]⟩
    HaveIds (transcript MemoryGraph.empty (before ++ later)) ∧
      HaveIds (transcript TableGraph.empty (before ++ later)) ∧
      GraphStore.vertexIds (after store later) = [0, 1] ++ [2, 3] ∧
      GraphStore.edges (after store later) = [⟨0, 0, 1, "next"⟩] ++ [⟨1, 3, 2, "next"⟩] ∧
      GraphStore.vertex? (after store later) 0 = some ⟨0, [⟨"word", "oak"⟩, ⟨"word", "ash"⟩]⟩ ∧
      motif.evaluate store = .ok [0] ∧ motif.evaluate (after store later) = .ok [0, 3] ∧
      Grows (transcript store later) store (after store later) ∧
      Grows (transcript (after MemoryGraph.empty before) later) (after MemoryGraph.empty before)
        (after (after MemoryGraph.empty before) later) := by
  intro before later store motif
  have inMemory : HaveIds (transcript MemoryGraph.empty (before ++ later)) :=
    ⟨by decide +kernel, by decide +kernel⟩
  have inTables : HaveIds (transcript TableGraph.empty (before ++ later)) :=
    ⟨by decide +kernel, by decide +kernel⟩
  have tables := (grows_after before later).2 inTables
  have memory := (grows_after before later).1 inMemory
  exact ⟨inMemory, inTables, tables.vertexIds_eq.trans (by decide +kernel),
    tables.edges_eq.trans (by decide +kernel), by decide +kernel, by decide +kernel,
    by decide +kernel, tables, memory⟩

end DocumentStore

end MotifVote
