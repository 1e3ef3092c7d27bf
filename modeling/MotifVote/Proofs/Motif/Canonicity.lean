import MotifVote.Proofs.Motif.Homomorphism
import MotifVote.Proofs.Motif.Label
import Mathlib.Tactic.TFAE

/-!
# Filters are canonical

A filter is nothing but what it requires: two filters that the same vertices satisfy are equal. For
one direction it is enough to look at a store with a single vertex that carries what one of the
filters requires and nothing else, because the other filter accepts this vertex only if it requires
no more. Since this holds both ways, the two require the same, and predicates in ascending order of
their kinds are determined by which there are.

For the same reason the order in which predicates are given to a filter does not matter.
-/

namespace MotifVote

namespace Filter

/-- Two filters are satisfied by the same vertices of a store. -/
def AgreeOn {σ : Type} [GraphStore σ] (store : σ) (left right : Filter) : Prop :=
  ∀ vertex, vertex ∈ Selection.candidates store left.predicates ↔
    vertex ∈ Selection.candidates store right.predicates

section Satisfaction

variable {filter left right : Filter}

theorem accepts_iff {vertex : Vertex} :
    filter.accepts vertex = true ↔
      ∀ predicate ∈ filter.predicates, ⟨predicate.kind, predicate.value⟩ ∈ vertex.attributes := by
  simp [accepts, Vertex.has]

/-- A query finds the vertices that a filter accepts. -/
theorem mem_candidates_iff {σ : Type} [GraphStore σ] {store : σ}
    (coherent : GraphStore.IsCoherent store) {vertex : VertexId} :
    vertex ∈ Selection.candidates store filter.predicates ↔
      ∃ found, GraphStore.vertex? store vertex = some found ∧ filter.accepts found = true := by
  simp only [Selection.mem_candidates coherent, accepts_iff]

/-- The attributes that a filter requires. -/
def required (filter : Filter) : List Attribute :=
  filter.predicates.map fun predicate => ⟨predicate.kind, predicate.value⟩

/-- What carries nothing but what is required by one filter is accepted by another only if that one
requires no more. -/
theorem accepts_required_iff {id : VertexId} :
    left.accepts ⟨id, right.required⟩ = true ↔
      ∀ predicate ∈ left.predicates, predicate ∈ right.predicates := by
  rw [accepts_iff]
  apply forall₂_congr
  intro predicate _
  constructor
  · intro carried
    rcases List.mem_map.mp carried with ⟨other, member, same⟩
    cases predicate
    cases other
    cases same
    exact member
  · intro member
    exact List.mem_map_of_mem member

theorem eq_of_accepts_eq
    (same : ∀ vertex : Vertex, left.accepts vertex = right.accepts vertex) : left = right := by
  apply eq_of_mem_iff
  intro predicate
  constructor
  · apply accepts_required_iff.mp
    rw [same ⟨0, right.required⟩]
    exact accepts_required_iff.mpr fun _ member => member
  · apply accepts_required_iff.mp
    rw [← same ⟨0, left.required⟩]
    exact accepts_required_iff.mpr fun _ member => member

end Satisfaction

section SingleVertex

variable {left right : Filter}

/-- A new store to which one vertex is added. -/
def addingVertex (attributes : List Attribute) : List StoreEvent :=
  [.call (.createVertex attributes)]

theorem vertex?_addingVertex (attributes : List Attribute) :
    GraphStore.vertex? (DocumentStore.after MemoryGraph.empty (addingVertex attributes)) 0 =
      some ⟨0, attributes⟩ := by
  have stored : (DocumentStore.after MemoryGraph.empty (addingVertex attributes)).vertices =
      (∅ : Std.TreeMap VertexId (List Attribute)).insert 0 attributes := rfl
  simp only [GraphStore.vertex?, stored, Std.TreeMap.getElem?_insert_self, Option.map_some]

/-- Where a vertex with some attributes is stored, filters that agree on the store agree on all
vertices with these attributes. -/
theorem AgreeOn.accepts_eq {σ : Type} [GraphStore σ] {store : σ} {vertex : Vertex}
    (agree : AgreeOn store left right) (coherent : GraphStore.IsCoherent store)
    (stored : GraphStore.vertex? store 0 = some ⟨0, vertex.attributes⟩) :
    left.accepts vertex = right.accepts vertex := by
  have satisfied : ∀ filter : Filter,
      0 ∈ Selection.candidates store filter.predicates ↔ filter.accepts vertex = true := by
    intro filter
    rw [mem_candidates_iff coherent, stored]
    simp [accepts, Vertex.has]
  rw [Bool.eq_iff_iff, ← satisfied left, ← satisfied right]
  exact agree 0

end SingleVertex

/-- A filter is read from its own text, so different filters have different texts. -/
theorem text_injective {left right : Filter} (same : left.toJson.text = right.toJson.text) :
    left = right := by
  have read : ∀ filter : Filter,
      decoder.run (filter.toJson.text.toList.map some) = .ok filter := by
    intro filter
    rw [Json.text, String.toList_ofList]
    exact inverts_decoder.run_compact (by decide) filter
  have both := read left
  rw [same, read right] at both
  cases both
  rfl

section Building

variable {predicates permuted : List Predicate} {filter : Filter}

theorem perm_collect (distinct : (predicates.map (·.kind)).Nodup) :
    (collect predicates).predicates.Perm predicates := by
  apply (List.perm_ext_iff_of_nodup ?_ ?_).mpr
  · intro predicate
    exact mem_collect_of_nodup distinct
  · exact (nodup_kinds (collect predicates)).of_map _
  · exact distinct.of_map _

/-- Predicates of different kinds are put in order; others are refused. -/
theorem ofPredicates_eq_ok_iff :
    ofPredicates predicates = .ok filter ↔
      (predicates.map (·.kind)).Nodup ∧ filter.predicates.Perm predicates := by
  rcases repeated : firstRepeat? [] (predicates.map (·.kind)) with _ | kind
  · have distinct := nodup_of_firstRepeat?_eq_none repeated
    simp only [ofPredicates, repeated, Except.ok.injEq]
    constructor
    · rintro rfl
      exact ⟨distinct, perm_collect distinct⟩
    · rintro ⟨-, ordered⟩
      apply eq_of_mem_iff
      intro predicate
      rw [mem_collect_of_nodup distinct, ordered.mem_iff]
  · have notDistinct : ¬(predicates.map (·.kind)).Nodup := by
      intro distinct
      have none := firstRepeat?_eq_none_iff.mpr ⟨distinct, fun _ _ => List.not_mem_nil⟩
      rw [repeated] at none
      cases none
    simp [ofPredicates, repeated, notDistinct]

theorem exists_ofPredicates_eq_ok_iff :
    (∃ filter, ofPredicates predicates = .ok filter) ↔ (predicates.map (·.kind)).Nodup := by
  simp only [ofPredicates_eq_ok_iff]
  constructor
  · rintro ⟨-, distinct, -⟩
    exact distinct
  · intro distinct
    exact ⟨collect predicates, distinct, perm_collect distinct⟩

/-- The same filter is made of the same predicates in any order. -/
theorem ofPredicates_eq_ok_of_perm (same : predicates.Perm permuted)
    (made : ofPredicates predicates = .ok filter) : ofPredicates permuted = .ok filter := by
  rw [ofPredicates_eq_ok_iff] at made ⊢
  rcases made with ⟨distinct, ordered⟩
  exact ⟨(same.map _).nodup_iff.mp distinct, ordered.trans same⟩

end Building

/-- Filters are equal exactly if the same text is written for them, and exactly if the same vertices
satisfy them in the stores of either kind. Their predicates are in ascending order, and a filter is
made again of its own predicates. Any predicates make one if they are of different kinds, and the
same one in every order. -/
theorem isCanonical (left right : Filter) :
    [left = right,
      left.toJson.text = right.toJson.text,
      ∀ vertex : Vertex, left.accepts vertex = right.accepts vertex,
      ∀ events, AgreeOn (DocumentStore.after MemoryGraph.empty events) left right,
      ∀ events, AgreeOn (DocumentStore.after TableGraph.empty events) left right].TFAE ∧
    left.predicates.Pairwise (·.kind < ·.kind) ∧
    ofPredicates left.predicates = .ok left ∧
    ∀ predicates : List Predicate,
      ((∃ filter, ofPredicates predicates = .ok filter) ↔ (predicates.map (·.kind)).Nodup) ∧
      ∀ filter, ofPredicates predicates = .ok filter → filter.predicates.Perm predicates ∧
        ∀ permuted, predicates.Perm permuted → ofPredicates permuted = .ok filter := by
  refine ⟨?_, left.ascending, left.ofPredicates_predicates, ?_⟩
  · tfae_have 1 → 2 := by
      rintro rfl
      rfl
    tfae_have 2 → 1 := text_injective
    tfae_have 1 → 4 := by
      rintro rfl events vertex
      rfl
    tfae_have 1 → 5 := by
      rintro rfl events vertex
      rfl
    tfae_have 4 → 3 := by
      intro agree vertex
      apply (agree (addingVertex vertex.attributes)).accepts_eq
      · exact (MemoryGraph.isSound_after _).isCoherent
      · exact vertex?_addingVertex vertex.attributes
    tfae_have 5 → 3 := by
      intro agree vertex
      have alike := TableGraph.readAlike_after (addingVertex vertex.attributes)
      apply (agree (addingVertex vertex.attributes)).accepts_eq
      · exact (MemoryGraph.isSound_after _).isCoherent.congr alike
      · rw [← alike.vertex?]
        exact vertex?_addingVertex vertex.attributes
    tfae_have 3 → 1 := eq_of_accepts_eq
    tfae_finish
  · intro predicates
    refine ⟨exists_ofPredicates_eq_ok_iff, ?_⟩
    intro filter made
    refine ⟨(ofPredicates_eq_ok_iff.mp made).2, ?_⟩
    intro permuted same
    exact ofPredicates_eq_ok_of_perm same made

end Filter

end MotifVote
