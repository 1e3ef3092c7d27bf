import MotifVote.Proofs.Motif.Filter
import MotifVote.Proofs.Motif.Homomorphism
import MotifVote.Proofs.Motif.Record
import MotifVote.Proofs.Neighborhood.Reach

/-!
# Neighbourhoods select their origins

The neighbourhood of a vertex of a store can be written as a motif, because all that is found around
the vertex is in the store. The store itself is an image of this motif, under the map that leaves
every vertex where it is: a vertex carries what has been taken from its own attributes, and the
edges have been taken from the store. So the motif selects the vertex that it has been made for.

Nothing of this needs the neighbourhood to be complete, so it does not matter how the search ends.
-/

namespace MotifVote

variable {σ α : Type} [GraphStore σ] {store : σ}

namespace Search

variable [Scalar α] {search : Search α}

theorem mem_reached_take {budget : α} {step : Edge × VertexId × α} {vertex : VertexId}
    (member : vertex ∈ (search.take budget step).reached) :
    vertex = step.2.1 ∨ vertex ∈ search.reached := by
  rcases step with ⟨edge, other, weight⟩
  have inserted : vertex ∈ search.reached.insert other →
      vertex = other ∨ vertex ∈ search.reached := by
    rw [Std.TreeSet.mem_insert, Std.LawfulEqCmp.compare_eq_iff_eq, eq_comm]
    exact id
  rcases take_cases search budget weight edge other with
    ⟨-, same⟩ | ⟨-, -, reached⟩ | ⟨-, -, -, reached⟩
  · rw [same] at member
    exact Or.inr member
  · rw [reached] at member
    exact inserted member
  · rw [reached] at member
    exact inserted member

theorem mem_reached_foldl_take {budget : α} {steps : List (Edge × VertexId × α)}
    {vertex : VertexId} (member : vertex ∈ (steps.foldl (take budget) search).reached) :
    (∃ step ∈ steps, vertex = step.2.1) ∨ vertex ∈ search.reached := by
  induction steps generalizing search with
  | nil => exact Or.inr member
  | cons step steps ih =>
      rcases ih member with ⟨later, inSteps, same⟩ | taken
      · exact Or.inl ⟨later, List.mem_cons_of_mem _ inSteps, same⟩
      · exact (mem_reached_take taken).imp_left fun same => ⟨step, List.mem_cons_self, same⟩

/-- A search reaches vertices of its store only. -/
theorem reached_explore_subset (coherent : GraphStore.IsCoherent store)
    (known : GraphStore.KnowsIncident store) (weights : EdgeWeights α) (fuel : Nat)
    {search : Search α}
    (start : ∀ vertex ∈ search.reached, vertex ∈ GraphStore.vertexIds store) :
    ∀ vertex ∈ (explore store weights fuel search).reached,
      vertex ∈ GraphStore.vertexIds store := by
  induction fuel generalizing search with
  | zero => exact start
  | succ fuel ih =>
      rw [explore_succ]
      apply ih
      intro vertex member
      rcases ended : search.frontier with _ | ⟨⟨current, budget⟩, frontier⟩
      · simp only [advance, ended] at member
        exact start vertex member
      · -- Only neighbours are added, and these are ends of stored edges wherever the search is.
        simp only [advance, ended] at member
        rcases mem_reached_foldl_take member with ⟨step, inSteps, rfl⟩ | before
        · exact GraphStore.mem_vertexIds_of_mem_weightedNeighbors coherent known inSteps
        · exact start vertex before

end Search

namespace Neighborhood

variable [Scalar α] {origin : VertexId} {distance : α} {weights : EdgeWeights α}

/-- What is found around a vertex is in the store, and its edges end there or at the vertex. -/
structure IsWithin (store : σ) (origin : VertexId) (found : Neighborhood) : Prop where
  vertices : ∀ vertex ∈ found.vertices.insert origin, vertex ∈ GraphStore.vertexIds store
  edges : ∀ edge ∈ found.edges, edge ∈ GraphStore.edges store ∧
    edge.source ∈ found.vertices.insert origin ∧ edge.destination ∈ found.vertices.insert origin

theorem exists_around_eq_ok [Scalar.IsOrdered α] (coherent : GraphStore.IsCoherent store)
    (known : GraphStore.KnowsIncident store) (valid : IsDistance distance)
    (present : origin ∈ GraphStore.vertexIds store) (weights : EdgeWeights α) :
    ∃ found, around store origin distance weights = .ok found ∧ found.IsWithin store origin := by
  have holds : GraphStore.contains store origin = true := (coherent.contains_iff origin).mpr present
  have atStart : ∀ vertex ∈ (Search.start origin distance).reached,
      vertex ∈ GraphStore.vertexIds store := by
    simp [Search.start]
  have reached := Search.reached_explore_subset coherent known weights (Search.bound store) atStart
  simp only [around, isDistance_iff.mpr valid, holds, Bool.false_eq_true, if_false, Bool.not_true]
  refine ⟨_, rfl, ?_, ?_⟩
  · intro vertex member
    rw [Std.TreeSet.mem_insert, Std.LawfulEqCmp.compare_eq_iff_eq] at member
    rcases member with rfl | member
    · exact present
    · exact reached vertex member
  · intro edge member
    split at member
    · cases member
    · exact GraphStore.mem_edgesBetween coherent known member

/-- A vertex of a store as a vertex of a motif. -/
def storedVertex (store : σ) (vertex : VertexId) : MotifVertex :=
  let attributes := ((GraphStore.vertex? store vertex).map (·.attributes)).getD []
  ⟨vertex, .ofAttributes attributes [Attribute.judgementKind]⟩

theorem declaredBy_map_storedVertex (store : σ) (vertices : List VertexId) :
    declaredBy (vertices.map (storedVertex store)) = vertices := by
  rw [declaredBy, List.map_map]
  exact List.map_id vertices

theorem motifVertex_eq_ok (coherent : GraphStore.IsCoherent store) {vertex : VertexId}
    (present : vertex ∈ GraphStore.vertexIds store) :
    motifVertex store vertex = .ok (storedVertex store vertex) := by
  rcases (coherent.mem_vertexIds_iff vertex).mp present with ⟨found, stored⟩
  simp [motifVertex, storedVertex, GraphStore.attributes, stored, bind, Except.bind, pure,
    Except.pure]

theorem exists_carried (coherent : GraphStore.IsCoherent store) {vertex : VertexId}
    (present : vertex ∈ GraphStore.vertexIds store) :
    ∃ found, GraphStore.vertex? store vertex = some found ∧
      ∀ predicate ∈ (storedVertex store vertex).filter.predicates,
        ⟨predicate.kind, predicate.value⟩ ∈ found.attributes := by
  rcases (coherent.mem_vertexIds_iff vertex).mp present with ⟨found, stored⟩
  refine ⟨found, stored, ?_⟩
  intro predicate required
  have carried := Filter.mem_of_mem_ofAttributes required
  simpa [stored] using carried

/-- The motif of a neighbourhood within a store. -/
def motifOf {found : Neighborhood} (within : found.IsWithin store origin) : Motif where
  selector := origin
  vertices := (found.vertices.insert origin).toList.map (storedVertex store)
  edges := found.edges.map fun edge => ⟨edge.source, edge.destination, edge.label⟩
  distinct := by
    rw [declaredBy_map_storedVertex]
    exact nodup_toList _
  selectorDeclared := by
    rw [declaredBy_map_storedVertex]
    simp
  endsDeclared := by
    intro edge member
    rcases List.mem_map.mp member with ⟨stored, inside, rfl⟩
    rw [declaredBy_map_storedVertex, Std.TreeSet.mem_toList, Std.TreeSet.mem_toList]
    exact (within.edges stored inside).2

/-- What is found within a store is written as a motif. -/
theorem record_eq_ok (coherent : GraphStore.IsCoherent store) {found : Neighborhood}
    (ran : around store origin distance weights = .ok found)
    (within : found.IsWithin store origin) :
    record store origin distance weights = .ok (motifOf within) := by
  have vertices : (found.vertices.insert origin).toList.mapM (motifVertex store) =
      .ok ((found.vertices.insert origin).toList.map (storedVertex store)) :=
    mapM_eq_ok_map fun vertex member =>
      motifVertex_eq_ok coherent (within.vertices vertex (Std.TreeSet.mem_toList.mp member))
  have made := (motifOf within).make_eq_ok
  simp only [record, ran, vertices, bind, Except.bind]
  exact congrArg _ made

/-- The store is an image of this motif in place. -/
theorem isHomomorphism_motifOf (coherent : GraphStore.IsCoherent store) {found : Neighborhood}
    (within : found.IsWithin store origin) : (motifOf within).IsHomomorphism store id where
  carries vertex member := by
    rcases List.mem_map.mp member with ⟨stored, inside, rfl⟩
    exact exists_carried coherent (within.vertices stored (Std.TreeSet.mem_toList.mp inside))
  connects edge member := by
    rcases List.mem_map.mp member with ⟨stored, inside, rfl⟩
    exact List.mem_map.mpr ⟨stored, (within.edges stored inside).1, rfl⟩

/-- A motif that a store is an image of in place selects its selector there. -/
theorem selector_mem_of_isHomomorphism_id (coherent : GraphStore.IsCoherent store) {motif : Motif}
    (inPlace : motif.IsHomomorphism store id) :
    ∃ selected, motif.evaluate store = .ok selected ∧ motif.selector ∈ selected := by
  rcases motif.selectsImages_of_isCoherent coherent with ⟨selected, evaluated, -, values⟩
  exact ⟨selected, evaluated, (values motif.selector).mpr ⟨id, inPlace, rfl⟩⟩

/-- What is found for each element of a list is found for the list, in its order. -/
theorem exists_mapM_eq_ok {β γ ε : Type} {f : β → Except ε γ} {key : γ → β} {property : γ → Prop}
    {list : List β} (each : ∀ x ∈ list, ∃ y, f x = .ok y ∧ key y = x ∧ property y) :
    ∃ found, list.mapM f = .ok found ∧ found.map key = list ∧ ∀ y ∈ found, property y := by
  induction list with
  | nil => exact ⟨[], rfl, rfl, by simp⟩
  | cons x list ih =>
      rcases List.forall_mem_cons.mp each with ⟨⟨y, first, same, holds⟩, others⟩
      rcases ih others with ⟨found, rest, keys, hold⟩
      refine ⟨y :: found, ?_, by rw [List.map_cons, same, keys],
        List.forall_mem_cons.mpr ⟨holds, hold⟩⟩
      simp [first, rest, bind, Except.bind, pure, Except.pure]

/-- The neighbourhoods of all positives are extracted, in their order. Each of them is evaluated to
vertices among which its own origin is. -/
theorem exists_extract_eq_ok [Scalar.IsOrdered α] (coherent : GraphStore.IsCoherent store)
    (known : GraphStore.KnowsIncident store) (valid : IsDistance distance)
    (weights : EdgeWeights α) :
    ∃ motifs, extract store distance weights = .ok motifs ∧
      motifs.map (·.selector) = GraphStore.positives store ∧
      ∀ motif ∈ motifs, ∃ selected, motif.evaluate store = .ok selected ∧
        motif.selector ∈ selected := by
  refine exists_mapM_eq_ok ?_
  intro origin positive
  rcases (coherent.mem_selectVertices_iff _ _ origin).mp positive with ⟨found, stored, -⟩
  have present := (coherent.mem_vertexIds_iff origin).mpr ⟨found, stored⟩
  rcases exists_around_eq_ok coherent known valid present weights with ⟨found, ran, within⟩
  exact ⟨motifOf within, record_eq_ok coherent ran within, rfl,
    selector_mem_of_isHomomorphism_id coherent (isHomomorphism_motifOf coherent within)⟩

end Neighborhood

end MotifVote
