import MotifVote.Graph.Store
import MotifVote.Proofs.Ascending

/-!
# What can be read from a store

Two stores of different kinds are alike if every read gives the same on both, in the same order.
A store is coherent if its reads tell one story: all of them follow from the vertices, which are
listed in ascending order, and from the edges, which are listed likewise and end at vertices of the
store. It is indexed if the edges at a vertex are found without a gap.
-/

namespace MotifVote

/-- An edge between two vertices, in either direction. -/
def Edge.Joins (edge : Edge) (vertex other : VertexId) : Prop :=
  (edge.source = vertex ∧ edge.destination = other) ∨
    (edge.source = other ∧ edge.destination = vertex)

theorem Edge.otherEnd?_eq_some_iff {edge : Edge} {vertex other : VertexId} :
    edge.otherEnd? vertex = some other ↔ edge.Joins vertex other := by
  by_cases leaves : edge.source = vertex
  · simp only [otherEnd?, Joins, leaves, if_true, Option.some.injEq, true_and]
    constructor
    · exact Or.inl
    · rintro (across | ⟨loop, closed⟩)
      · exact across
      · exact closed.trans loop
  · by_cases enters : edge.destination = vertex
    · simp [otherEnd?, Joins, leaves, enters]
    · simp [otherEnd?, Joins, leaves, enters]

namespace GraphStore

variable {σ τ : Type} [GraphStore σ] [GraphStore τ]

/-- Every read gives the same on two stores. -/
structure ReadAlike (left : σ) (right : τ) : Prop where
  vertex? : ∀ id, vertex? left id = vertex? right id
  contains : ∀ id, contains left id = contains right id
  vertexIds : vertexIds left = vertexIds right
  attributes : ∀ vertex, attributes left vertex = attributes right vertex
  selectVertices : ∀ kind value, selectVertices left kind value = selectVertices right kind value
  selectEdges : ∀ label, selectEdges left label = selectEdges right label
  incidentEdges : ∀ vertex, incidentEdges left vertex = incidentEdges right vertex
  edges : edges left = edges right
  vertexCount : vertexCount left = vertexCount right
  edgeCount : edgeCount left = edgeCount right
  weightedNeighbors : ∀ (α : Type) [Scalar α] (weights : EdgeWeights α) (vertex : VertexId),
    weightedNeighbors left weights vertex = weightedNeighbors right weights vertex
  edgesBetween : ∀ vertices : Std.TreeSet VertexId,
    edgesBetween left vertices = edgesBetween right vertices
  positives : positives left = positives right

/-- The derived reads give the same where the others do. -/
theorem ReadAlike.of_reads {left : σ} {right : τ}
    (sameVertex : ∀ id, GraphStore.vertex? left id = GraphStore.vertex? right id)
    (sameContains : ∀ id, GraphStore.contains left id = GraphStore.contains right id)
    (sameVertexIds : GraphStore.vertexIds left = GraphStore.vertexIds right)
    (sameSelectVertices : ∀ kind value,
      GraphStore.selectVertices left kind value = GraphStore.selectVertices right kind value)
    (sameSelectEdges : ∀ label,
      GraphStore.selectEdges left label = GraphStore.selectEdges right label)
    (sameIncident : ∀ vertex,
      GraphStore.incidentEdges left vertex = GraphStore.incidentEdges right vertex)
    (sameEdges : GraphStore.edges left = GraphStore.edges right)
    (sameVertexCount : GraphStore.vertexCount left = GraphStore.vertexCount right)
    (sameEdgeCount : GraphStore.edgeCount left = GraphStore.edgeCount right) :
    ReadAlike left right where
  vertex? := sameVertex
  contains := sameContains
  vertexIds := sameVertexIds
  attributes vertex := by simp only [GraphStore.attributes, sameVertex]
  selectVertices := sameSelectVertices
  selectEdges := sameSelectEdges
  incidentEdges := sameIncident
  edges := sameEdges
  vertexCount := sameVertexCount
  edgeCount := sameEdgeCount
  weightedNeighbors α _ weights vertex := by
    simp only [GraphStore.weightedNeighbors, sameIncident]
  edgesBetween vertices := by simp only [GraphStore.edgesBetween, sameIncident]
  positives := by simp only [GraphStore.positives, sameSelectVertices]

/-- All reads follow from the vertices and the edges, which are listed in ascending order. -/
structure IsCoherent (store : σ) : Prop where
  vertexIds_ascending : (GraphStore.vertexIds store).Pairwise (· < ·)
  edges_ascending : (GraphStore.edges store).Pairwise (·.id < ·.id)
  ends : ∀ edge ∈ GraphStore.edges store,
    edge.source ∈ GraphStore.vertexIds store ∧ edge.destination ∈ GraphStore.vertexIds store
  contains_iff : ∀ id, GraphStore.contains store id = true ↔ id ∈ GraphStore.vertexIds store
  mem_vertexIds_iff : ∀ id,
    id ∈ GraphStore.vertexIds store ↔ ∃ found, GraphStore.vertex? store id = some found
  mem_selectVertices_iff : ∀ kind value id,
    id ∈ GraphStore.selectVertices store kind value ↔
      ∃ found, GraphStore.vertex? store id = some found ∧ found.has kind value = true
  selectEdges_eq : ∀ label,
    GraphStore.selectEdges store label =
      (GraphStore.edges store).filter fun edge => edge.label == label
  vertexCount_eq : GraphStore.vertexCount store = (GraphStore.vertexIds store).length
  edgeCount_eq : GraphStore.edgeCount store = (GraphStore.edges store).length

/-- Whether a vertex is an end of an edge. -/
def isEnd (vertex : VertexId) (edge : Edge) : Bool :=
  edge.source == vertex || edge.destination == vertex

/-- The edges at a vertex are all edges that end there. -/
def IsIndexed (store : σ) : Prop :=
  ∀ vertex, GraphStore.incidentEdges store vertex = (GraphStore.edges store).filter (isEnd vertex)

/-- The edges that are met at a vertex are edges of the store. Without an index there may be others
of them that are not met. -/
def KnowsIncident (store : σ) : Prop :=
  ∀ vertex, ∀ edge ∈ GraphStore.incidentEdges store vertex, edge ∈ GraphStore.edges store

theorem IsCoherent.congr {left : σ} {right : τ} (coherent : IsCoherent left)
    (alike : ReadAlike left right) : IsCoherent right where
  vertexIds_ascending := alike.vertexIds ▸ coherent.vertexIds_ascending
  edges_ascending := alike.edges ▸ coherent.edges_ascending
  ends := alike.edges ▸ alike.vertexIds ▸ coherent.ends
  contains_iff id := alike.contains id ▸ alike.vertexIds ▸ coherent.contains_iff id
  mem_vertexIds_iff id := alike.vertex? id ▸ alike.vertexIds ▸ coherent.mem_vertexIds_iff id
  mem_selectVertices_iff kind value id := by
    rw [← alike.selectVertices, ← alike.vertex?]
    exact coherent.mem_selectVertices_iff kind value id
  selectEdges_eq label := by
    rw [← alike.selectEdges, ← alike.edges]
    exact coherent.selectEdges_eq label
  vertexCount_eq := alike.vertexCount ▸ alike.vertexIds ▸ coherent.vertexCount_eq
  edgeCount_eq := alike.edgeCount ▸ alike.edges ▸ coherent.edgeCount_eq

theorem IsIndexed.congr {left : σ} {right : τ} (indexed : IsIndexed left)
    (alike : ReadAlike left right) : IsIndexed right := by
  intro vertex
  rw [← alike.incidentEdges, ← alike.edges]
  exact indexed vertex

theorem KnowsIncident.congr {left : σ} {right : τ} (known : KnowsIncident left)
    (alike : ReadAlike left right) : KnowsIncident right := by
  intro vertex
  rw [← alike.incidentEdges, ← alike.edges]
  exact known vertex

section Derived

variable {store : σ}

theorem IsCoherent.edge_unique (coherent : IsCoherent store) {left right : Edge}
    (leftStored : left ∈ GraphStore.edges store) (rightStored : right ∈ GraphStore.edges store)
    (same : left.id = right.id) : left = right := by
  have distinct : ((GraphStore.edges store).map (·.id)).Nodup := by
    rw [List.Nodup, List.pairwise_map]
    exact coherent.edges_ascending.imp UInt64.ne_of_lt
  exact List.inj_on_of_nodup_map distinct leftStored rightStored same

theorem mem_weightedNeighbors (indexed : IsIndexed store) {α : Type} [Scalar α]
    (weights : EdgeWeights α) (vertex : VertexId) (step : Edge × VertexId × α) :
    step ∈ weightedNeighbors store weights vertex ↔
      step.1 ∈ GraphStore.edges store ∧ step.1.Joins vertex step.2.1 ∧
        step.2.2 = weights.weight step.1.label := by
  rcases step with ⟨edge, other, weight⟩
  simp only [weightedNeighbors, indexed vertex, List.mem_filterMap, List.mem_filter,
    Option.map_eq_some_iff, Prod.mk.injEq, Edge.otherEnd?_eq_some_iff]
  constructor
  · rintro ⟨found, ⟨stored, -⟩, across, joins, rfl, rfl, rfl⟩
    exact ⟨stored, joins, rfl⟩
  · rintro ⟨stored, joins, rfl⟩
    refine ⟨edge, ⟨stored, ?_⟩, other, joins, rfl, rfl, rfl⟩
    rcases joins with ⟨leaves, -⟩ | ⟨-, enters⟩
    · simp [isEnd, leaves]
    · simp [isEnd, enters]

/-- Every edge at a vertex is met once. -/
theorem nodup_weightedNeighbors (coherent : IsCoherent store) (indexed : IsIndexed store)
    {α : Type} [Scalar α] (weights : EdgeWeights α) (vertex : VertexId) :
    ((weightedNeighbors store weights vertex).map (·.1)).Nodup := by
  rw [List.Nodup, List.pairwise_map, weightedNeighbors, List.pairwise_filterMap, indexed vertex]
  refine (coherent.edges_ascending.filter _).imp ?_
  intro left right before leftStep leftMet rightStep rightMet same
  rcases Option.map_eq_some_iff.mp leftMet with ⟨_, -, rfl⟩
  rcases Option.map_eq_some_iff.mp rightMet with ⟨_, -, rfl⟩
  have equal : left = right := same
  exact UInt64.lt_irrefl _ (equal ▸ before)

/-- In an indexed store the edges between some vertices are all edges with both ends there. -/
theorem edgesBetween_eq (coherent : IsCoherent store) (indexed : IsIndexed store)
    (vertices : Std.TreeSet VertexId) :
    edgesBetween store vertices = (GraphStore.edges store).filter fun edge =>
      vertices.contains edge.source && vertices.contains edge.destination := by
  have met : ∀ edge, edge ∈ (vertices.toList.flatMap fun vertex =>
        (incidentEdges store vertex).filter fun edge =>
          vertices.contains edge.source && vertices.contains edge.destination) ↔
      edge ∈ GraphStore.edges store ∧
        (vertices.contains edge.source && vertices.contains edge.destination) = true := by
    intro edge
    simp only [List.mem_flatMap, List.mem_filter, indexed _, Std.TreeSet.mem_toList]
    constructor
    · rintro ⟨vertex, -, ⟨stored, -⟩, inside⟩
      exact ⟨stored, inside⟩
    · rintro ⟨stored, inside⟩
      exact ⟨edge.source, (Bool.and_eq_true_iff.mp inside).1, ⟨stored, by simp [isEnd]⟩, inside⟩
  have listed := values_ofList_edges fun edge member other otherMember same =>
    coherent.edge_unique ((met edge).mp member).1 ((met other).mp otherMember).1 same
  apply edges_eq_of_mem_iff listed.1 (coherent.edges_ascending.filter _)
  intro edge
  rw [listed.2, met, List.mem_filter]

/-- What lies across an edge at a vertex is a vertex of the store. -/
theorem mem_vertexIds_of_mem_weightedNeighbors (coherent : IsCoherent store)
    (known : KnowsIncident store) {α : Type} [Scalar α] {weights : EdgeWeights α}
    {vertex : VertexId} {step : Edge × VertexId × α}
    (member : step ∈ weightedNeighbors store weights vertex) :
    step.2.1 ∈ GraphStore.vertexIds store := by
  rcases List.mem_filterMap.mp member with ⟨edge, met, across⟩
  rcases Option.map_eq_some_iff.mp across with ⟨other, found, rfl⟩
  have ends := coherent.ends edge (known vertex edge met)
  rcases Edge.otherEnd?_eq_some_iff.mp found with ⟨-, destination⟩ | ⟨source, -⟩
  · exact destination ▸ ends.2
  · exact source ▸ ends.1

/-- The edges between some vertices are edges of the store with both ends among them. -/
theorem mem_edgesBetween (coherent : IsCoherent store) (known : KnowsIncident store)
    {vertices : Std.TreeSet VertexId} {edge : Edge} (member : edge ∈ edgesBetween store vertices) :
    edge ∈ GraphStore.edges store ∧ edge.source ∈ vertices ∧ edge.destination ∈ vertices := by
  have met : ∀ edge, edge ∈ (vertices.toList.flatMap fun vertex =>
        (incidentEdges store vertex).filter fun edge =>
          vertices.contains edge.source && vertices.contains edge.destination) →
      edge ∈ GraphStore.edges store ∧ edge.source ∈ vertices ∧ edge.destination ∈ vertices := by
    intro edge found
    rcases List.mem_flatMap.mp found with ⟨vertex, -, kept⟩
    rcases List.mem_filter.mp kept with ⟨incident, inside⟩
    exact ⟨known vertex edge incident, Bool.and_eq_true_iff.mp inside⟩
  have listed := values_ofList_edges fun edge found other otherFound same =>
    coherent.edge_unique (met edge found).1 (met other otherFound).1 same
  exact met edge ((listed.2 edge).mp member)

end Derived

end GraphStore

end MotifVote
