import MotifVote.Motif.Basic
import MotifVote.Proofs.Query.Evaluation
import MotifVote.Proofs.Store.Persistence

/-!
# Motifs select by homomorphisms

A homomorphism sends the vertices of a motif to vertices of a store that carry what is required of
them, and every edge of the motif to an edge with its label. The vertices that a motif selects are
the ones that its selector is sent to by homomorphisms.

The answers to the selection of one vertex or edge of the motif are a condition on assignments of
vertices to columns. In a coherent store it is the condition that a homomorphism meets there, so the
assignments that satisfy all selections are the homomorphisms.
-/

namespace MotifVote

variable {σ : Type} [GraphStore σ] {store : σ}

/-- A map from the vertices of a motif to vertices of a store that respects filters and edges. -/
structure Motif.IsHomomorphism (store : σ) (motif : Motif) (image : UInt64 → VertexId) :
    Prop where
  carries : ∀ vertex ∈ motif.vertices,
    ∃ found, GraphStore.vertex? store (image vertex.identifier) = some found ∧
      ∀ predicate ∈ vertex.filter.predicates,
        ⟨predicate.kind, predicate.value⟩ ∈ found.attributes
  connects : ∀ edge ∈ motif.edges,
    ⟨image edge.source, edge.label, image edge.destination⟩ ∈
      (GraphStore.edges store).map fun stored => (stored.source, stored.label, stored.destination)

/-- A motif finds, in ascending order, the vertices that homomorphisms send its selector to. -/
def Motif.SelectsImages (store : σ) (motif : Motif) : Prop :=
  ∃ found, motif.evaluate store = .ok found ∧ found.Pairwise (· < ·) ∧
    ∀ vertex, vertex ∈ found ↔
      ∃ image, motif.IsHomomorphism store image ∧ image motif.selector = vertex

namespace Selection

/-- Each further predicate keeps the candidates that a store selects for it. -/
theorem mem_foldl_filter (predicates : List Predicate) (found : List VertexId)
    (vertex : VertexId) :
    vertex ∈ predicates.foldl
        (fun found predicate =>
          found.filter (Std.TreeSet.ofList
            (GraphStore.selectVertices store predicate.kind predicate.value)).contains) found ↔
      vertex ∈ found ∧ ∀ predicate ∈ predicates,
        vertex ∈ GraphStore.selectVertices store predicate.kind predicate.value := by
  induction predicates generalizing found with
  | nil => simp
  | cons predicate predicates ih =>
      simp only [List.foldl_cons, ih, List.mem_filter, Std.TreeSet.contains_ofList,
        List.contains_iff_mem, List.forall_mem_cons, and_assoc]

theorem mem_candidates (coherent : GraphStore.IsCoherent store) (predicates : List Predicate)
    (vertex : VertexId) :
    vertex ∈ candidates store predicates ↔
      ∃ found, GraphStore.vertex? store vertex = some found ∧
        ∀ predicate ∈ predicates, ⟨predicate.kind, predicate.value⟩ ∈ found.attributes := by
  have selected : ∀ predicate : Predicate,
      vertex ∈ GraphStore.selectVertices store predicate.kind predicate.value ↔
        ∃ found, GraphStore.vertex? store vertex = some found ∧
          ⟨predicate.kind, predicate.value⟩ ∈ found.attributes := by
    intro predicate
    rw [coherent.mem_selectVertices_iff]
    simp [Vertex.has]
  cases predicates with
  | nil =>
      simp only [candidates, coherent.mem_vertexIds_iff]
      simp
  | cons predicate predicates =>
      simp only [candidates, mem_foldl_filter, selected, List.forall_mem_cons]
      constructor
      · rintro ⟨⟨found, stored, first⟩, others⟩
        refine ⟨found, stored, first, ?_⟩
        intro other member
        rcases others other member with ⟨same, storedAgain, carried⟩
        rw [stored] at storedAgain
        cases storedAgain
        exact carried
      · rintro ⟨found, stored, first, others⟩
        refine ⟨⟨found, stored, first⟩, ?_⟩
        intro other member
        exact ⟨found, stored, others other member⟩

theorem holds_answers_vertices (coherent : GraphStore.IsCoherent store) (column : Column)
    (predicates : List Predicate) (assignment : Column → VertexId) :
    ((vertices column predicates).answers store).Holds assignment ↔
      ∃ found, GraphStore.vertex? store (assignment column) = some found ∧
        ∀ predicate ∈ predicates, ⟨predicate.kind, predicate.value⟩ ∈ found.attributes := by
  rw [← mem_candidates coherent]
  simp [Relation.Holds, answers, columns]

/-- The two columns of an edge take its ends, also if they are one column. -/
theorem edgeRow?_eq_some_iff {source destination : Column} {edge : Edge}
    {assignment : Column → VertexId} {label : String} :
    edgeRow? source destination edge =
        some ((edges label source destination).columns.map assignment) ↔
      edge.source = assignment source ∧ edge.destination = assignment destination := by
  by_cases loop : source = destination
  · subst loop
    by_cases closed : edge.source = edge.destination
    · simp [edgeRow?, columns, closed]
    · simp only [edgeRow?, columns, closed, if_true, if_false, reduceCtorEq, false_iff]
      rintro ⟨sourceImage, destinationImage⟩
      exact closed (sourceImage.trans destinationImage.symm)
  · simp [edgeRow?, columns, loop]

theorem holds_answers_edges (coherent : GraphStore.IsCoherent store) (label : String)
    (source destination : Column) (assignment : Column → VertexId) :
    ((edges label source destination).answers store).Holds assignment ↔
      (assignment source, label, assignment destination) ∈
        (GraphStore.edges store).map fun stored =>
          (stored.source, stored.label, stored.destination) := by
  have present : ((edges label source destination).answers store).Holds assignment ↔
      ∃ edge ∈ GraphStore.selectEdges store label, edgeRow? source destination edge =
        some ((edges label source destination).columns.map assignment) := by
    simp [Relation.Holds, answers]
  rw [present, coherent.selectEdges_eq]
  simp only [edgeRow?_eq_some_iff, List.mem_filter, beq_iff_eq, List.mem_map, Prod.mk.injEq]
  constructor
  · rintro ⟨edge, ⟨stored, labelled⟩, sourceImage, destinationImage⟩
    exact ⟨edge, stored, sourceImage, labelled, destinationImage⟩
  · rintro ⟨edge, stored, sourceImage, labelled, destinationImage⟩
    exact ⟨edge, ⟨stored, labelled⟩, sourceImage, destinationImage⟩

end Selection

namespace Motif

theorem bindsProjection_query (motif : Motif) : motif.query.BindsProjection := by
  rcases List.mem_map.mp motif.selectorDeclared with ⟨vertex, member, identified⟩
  refine ⟨.vertices vertex.identifier vertex.filter.predicates, ?_, ?_⟩
  · exact List.mem_append_left _ (List.mem_map_of_mem member)
  · simp [Selection.columns, query, identified]

/-- The assignments that satisfy all selections of a motif are its homomorphisms. -/
theorem holds_relations_iff (coherent : GraphStore.IsCoherent store) (motif : Motif)
    (image : UInt64 → VertexId) :
    (∀ relation ∈ motif.query.relations store, relation.Holds image) ↔
      motif.IsHomomorphism store image := by
  simp only [Query.relations, query, List.map_append, List.map_map, List.forall_mem_append,
    List.forall_mem_map, Function.comp_apply, Selection.holds_answers_vertices coherent,
    Selection.holds_answers_edges coherent]
  constructor
  · rintro ⟨carries, connects⟩
    exact ⟨carries, connects⟩
  · intro homomorphism
    exact ⟨homomorphism.carries, homomorphism.connects⟩

theorem selectsImages_of_isCoherent (coherent : GraphStore.IsCoherent store) (motif : Motif) :
    motif.SelectsImages store := by
  rcases Query.exists_run_eq_ok store motif.bindsProjection_query with
    ⟨found, run, ascending, values⟩
  refine ⟨found, ?_, ascending, ?_⟩
  · rw [evaluate, run]
    rfl
  · intro vertex
    simp only [values, Relation.Allow, holds_relations_iff coherent]
    rfl

/-- After any events, on either kind of store, every motif selects the vertices that homomorphisms
send its selector to. -/
theorem selectsImages_after (events : List StoreEvent) (motif : Motif) :
    motif.SelectsImages (DocumentStore.after MemoryGraph.empty events) ∧
      motif.SelectsImages (DocumentStore.after TableGraph.empty events) := by
  have coherent := (MemoryGraph.isSound_after events).isCoherent
  constructor
  · exact selectsImages_of_isCoherent coherent motif
  · exact selectsImages_of_isCoherent (coherent.congr (TableGraph.readAlike_after events)) motif

end Motif

end MotifVote
