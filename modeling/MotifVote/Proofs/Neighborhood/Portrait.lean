import MotifVote.Proofs.Neighborhood.Record

/-!
# What the motif of a neighbourhood says

The motif that is written for a vertex shows the neighbourhood of this vertex and nothing else: the
vertices that walks reach and the vertex itself, all edges between them, and of every kind of
attribute the one that was added last. How vertices have been judged is not shown. The motif selects
the vertex in the store that it comes from.
-/

namespace MotifVote.Neighborhood

variable {σ α : Type} [GraphStore σ] [Scalar α]

/-- A vertex of a motif shows a vertex of a store: it requires one attribute of each kind that the
vertex carries, the last one, but no judgement. -/
structure Shows (store : σ) (vertex : MotifVertex) : Prop where
  nodup_kinds : (vertex.filter.predicates.map (·.kind)).Nodup
  requires : ∃ stored, GraphStore.vertex? store vertex.identifier = some stored ∧
    ∀ kind value, ⟨kind, value⟩ ∈ vertex.filter.predicates ↔
      kind ≠ Attribute.judgementKind ∧
        stored.attributes.findRev? (·.kind == kind) = some ⟨kind, value⟩

/-- A motif shows the neighbourhood of a vertex, and selects this vertex. -/
structure IsPortrait (store : σ) (origin : VertexId) (found : Neighborhood) (motif : Motif) :
    Prop where
  selector : motif.selector = origin
  vertices_ascending : (declaredBy motif.vertices).Pairwise (· < ·)
  mem_vertices_iff : ∀ vertex, vertex ∈ declaredBy motif.vertices ↔
    vertex = origin ∨ vertex ∈ found.vertices
  edges_eq : motif.edges =
    found.edges.map fun edge => ⟨edge.source, edge.destination, edge.label⟩
  shows : ∀ vertex ∈ motif.vertices, Shows store vertex
  selects : ∃ selected, motif.evaluate store = .ok selected ∧ origin ∈ selected

section Portrait

variable {store : σ} {origin : VertexId} {distance : α} {weights : EdgeWeights α}

theorem shows_storedVertex (coherent : GraphStore.IsCoherent store) {vertex : VertexId}
    (present : vertex ∈ GraphStore.vertexIds store) : Shows store (storedVertex store vertex) := by
  rcases (coherent.mem_vertexIds_iff vertex).mp present with ⟨stored, found⟩
  refine ⟨Filter.nodup_kinds _, stored, found, ?_⟩
  intro kind value
  have filter : (storedVertex store vertex).filter =
      .ofAttributes stored.attributes [Attribute.judgementKind] := by
    simp only [storedVertex, found, Option.map_some, Option.getD_some]
  rw [filter, Filter.mem_ofAttributes_iff, List.mem_singleton]

theorem isPortrait_motifOf (coherent : GraphStore.IsCoherent store) {found : Neighborhood}
    (within : found.IsWithin store origin) :
    IsPortrait store origin found (motifOf within) := by
  have vertices : declaredBy (motifOf within).vertices = (found.vertices.insert origin).toList :=
    declaredBy_map_storedVertex store _
  refine ⟨rfl, ?_, ?_, rfl, ?_, ?_⟩
  · rw [vertices]
    exact toList_ascending _
  · intro vertex
    rw [vertices, Std.TreeSet.mem_toList, Std.TreeSet.mem_insert,
      Std.LawfulEqCmp.compare_eq_iff_eq, eq_comm]
  · intro vertex member
    rcases List.mem_map.mp member with ⟨stored, inside, rfl⟩
    exact shows_storedVertex coherent
      (within.vertices stored (Std.TreeSet.mem_toList.mp inside))
  · exact selector_mem_of_isHomomorphism_id coherent (isHomomorphism_motifOf coherent within)

/-- What walks reach from a vertex is found, and written as a motif that shows it. -/
def IsPortrayed (store : σ) (origin : VertexId) (distance : α) (weights : EdgeWeights α) : Prop :=
  ∃ found motif, around store origin distance weights = .ok found ∧
    IsInduced store origin (WithinBudget store weights origin distance) found ∧
    record store origin distance weights = .ok motif ∧ IsPortrait store origin found motif

theorem isPortrayed_of_isIndexed [Scalar.IsMonotone α] (coherent : GraphStore.IsCoherent store)
    (indexed : GraphStore.IsIndexed store) (positive : weights.ArePositive)
    (valid : IsDistance distance) (present : origin ∈ GraphStore.vertexIds store) :
    IsPortrayed store origin distance weights := by
  have known : GraphStore.KnowsIncident store := by
    intro vertex edge member
    rw [indexed vertex] at member
    exact List.mem_of_mem_filter member
  rcases (isReach_of_isIndexed coherent indexed positive).2.2 valid present with
    ⟨found, ran, induced, -⟩
  rcases exists_around_eq_ok coherent known valid present weights with ⟨same, ranAgain, within⟩
  rw [ran] at ranAgain
  cases ranAgain
  exact ⟨found, motifOf within, ran, induced, record_eq_ok coherent ran within,
    isPortrait_motifOf coherent within⟩

end Portrait

section Stores

variable [Scalar.IsMonotone α] {distance : α} {weights : EdgeWeights α}

/-- After any events that create no more edges than there are ids for, on either kind of store, and
with any accepted weights, every vertex of the store is written as a motif of its neighbourhood. -/
theorem isPortrayed_after {given : Std.TreeMap String α} {default : α}
    (accepted : EdgeWeights.make given default = .ok weights) (valid : IsDistance distance)
    (events : List StoreEvent) :
    (DocumentStore.edgesCreated MemoryGraph.empty events ≤ UInt64.size →
      ∀ origin ∈ GraphStore.vertexIds (DocumentStore.after MemoryGraph.empty events),
        IsPortrayed (DocumentStore.after MemoryGraph.empty events) origin distance weights) ∧
    (DocumentStore.edgesCreated TableGraph.empty events ≤ UInt64.size →
      ∀ origin ∈ GraphStore.vertexIds (DocumentStore.after TableGraph.empty events),
        IsPortrayed (DocumentStore.after TableGraph.empty events) origin distance weights) := by
  have positive := EdgeWeights.arePositive_of_make_eq_ok accepted
  have sound := MemoryGraph.isSound_after events
  have alike := TableGraph.readAlike_after events
  constructor
  · intro room origin present
    have indexed := (MemoryGraph.isIndexed_after room).isIndexed sound
    exact isPortrayed_of_isIndexed sound.isCoherent indexed positive valid present
  · intro room origin present
    rw [← TableGraph.represents_empty.edgesCreated_eq] at room
    have indexed := (MemoryGraph.isIndexed_after room).isIndexed sound
    exact isPortrayed_of_isIndexed (sound.isCoherent.congr alike) (indexed.congr alike) positive
      valid present

/-- Two words, the first of which is a positive, has two lemmas and a loop, and is joined to the
second by two edges of one label. A third word is too far away. -/
theorem isPortrayed_two_lemmas :
    let events : List StoreEvent := [
      .call (.createVertex [⟨"lemma", "saw"⟩, ⟨"user:label", "positive"⟩, ⟨"lemma", "see"⟩]),
      .call (.createVertex []), .call (.createVertex []), .call (.createEdge 0 "self" 0),
      .call (.createEdge 1 "next" 0), .call (.createEdge 1 "next" 0), .reopen,
      .call (.createEdge 1 "next" 2)]
    let memory := DocumentStore.after MemoryGraph.empty events
    let tables := DocumentStore.after TableGraph.empty events
    EdgeWeights.make ∅ (1 : Rat) = .ok ⟨∅, 1⟩ ∧ IsDistance (1 : Rat) ∧
      DocumentStore.edgesCreated MemoryGraph.empty events ≤ UInt64.size ∧
      DocumentStore.edgesCreated TableGraph.empty events ≤ UInt64.size ∧
      IsPortrayed memory 0 (1 : Rat) ⟨∅, 1⟩ ∧ IsPortrayed tables 0 (1 : Rat) ⟨∅, 1⟩ ∧
      (record tables 0 (1 : Rat) ⟨∅, 1⟩).toOption.map
          (fun motif => (motif.vertices.map fun vertex =>
            (vertex.identifier, vertex.filter.predicates), motif.edges)) =
        some ([(0, [⟨"lemma", "see"⟩]), (1, [])],
          [⟨0, 0, "self"⟩, ⟨1, 0, "next"⟩, ⟨1, 0, "next"⟩]) := by
  intro events memory tables
  have accepted : EdgeWeights.make ∅ (1 : Rat) = .ok ⟨∅, 1⟩ := by cbv
  have valid : IsDistance (1 : Rat) := ⟨rfl, by decide⟩
  have inMemory : DocumentStore.edgesCreated MemoryGraph.empty events ≤ UInt64.size := by
    decide +kernel
  have inTables : DocumentStore.edgesCreated TableGraph.empty events ≤ UInt64.size := by
    decide +kernel
  exact ⟨accepted, valid, inMemory, inTables,
    (isPortrayed_after accepted valid events).1 inMemory 0 (by decide +kernel),
    (isPortrayed_after accepted valid events).2 inTables 0 (by decide +kernel),
    by decide +kernel⟩

end Stores

end MotifVote.Neighborhood
