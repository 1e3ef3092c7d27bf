import MotifVote.Proofs.Store.History

/-!
# Ingestion step by step

What a successful ingestion consists of, read off the loops over the records of the document, and
why an ingestion into tables fails: only because the document is refused.
-/

namespace MotifVote

namespace GraphDocument

variable {document : GraphDocument}

theorem mapError_check_of_error {fault : GraphFault} (refused : document.check = .error fault) :
    document.check.mapError Error.graph = .error (.graph fault) := by
  rw [refused]
  rfl

theorem mapError_check_of_ok (accepted : document.check = .ok ()) :
    document.check.mapError Error.graph = .ok () := by
  rw [accepted]
  rfl

/-- The identifiers that are declared in the end are those of the vertices. -/
theorem mem_of_checkVertices {declared all : Std.TreeSet UInt64} {records : List VertexRecord}
    (accepted : checkVertices declared records = .ok all) {identifier : UInt64}
    (member : identifier ∈ all) :
    identifier ∈ declared ∨ ∃ record ∈ records, record.identifier = identifier := by
  induction records generalizing declared with
  | nil =>
      cases accepted
      exact Or.inl member
  | cons record records ih =>
      rw [checkVertices] at accepted
      split at accepted
      next => cases accepted
      next =>
        rcases attributes : record.attributes.forM (checkAttribute record.identifier) with
          fault | ⟨⟩
        · simp [attributes, bind, Except.bind] at accepted
        · simp only [attributes, bind, Except.bind] at accepted
          rcases ih accepted with before | ⟨other, later, same⟩
          · rw [Std.TreeSet.mem_insert, Std.LawfulEqCmp.compare_eq_iff_eq] at before
            rcases before with same | before
            · exact Or.inr ⟨record, List.mem_cons_self, same⟩
            · exact Or.inl before
          · exact Or.inr ⟨other, List.mem_cons_of_mem _ later, same⟩

theorem mem_of_checkEdges {declared : Std.TreeSet UInt64} {records : List EdgeRecord}
    (accepted : records.forM (checkEdge declared) = .ok ()) {record : EdgeRecord}
    (member : record ∈ records) : record.source ∈ declared ∧ record.destination ∈ declared := by
  induction records with
  | nil => cases member
  | cons first records ih =>
      rw [List.forM] at accepted
      rcases checked : checkEdge declared first with fault | ⟨⟩
      · simp [checked, bind, Except.bind] at accepted
      · simp only [checked, bind, Except.bind] at accepted
        rcases List.mem_cons.mp member with rfl | later
        · rw [checkEdge] at checked
          grind
        · exact ih accepted later

/-- The ends of the edges of an accepted document are vertices of it. -/
theorem exists_vertices_of_check (accepted : document.check = .ok ()) {record : EdgeRecord}
    (member : record ∈ document.edges) :
    (∃ vertex ∈ document.vertices, vertex.identifier = record.source) ∧
      ∃ vertex ∈ document.vertices, vertex.identifier = record.destination := by
  rw [check] at accepted
  split at accepted
  next => cases accepted
  next =>
    rcases vertices : checkVertices ∅ document.vertices with fault | declared
    · simp [vertices, bind, Except.bind] at accepted
    · simp only [vertices, bind, Except.bind] at accepted
      rcases mem_of_checkEdges accepted member with ⟨source, destination⟩
      have known : ∀ identifier ∈ declared,
          ∃ vertex ∈ document.vertices, vertex.identifier = identifier := by
        intro identifier inside
        rcases mem_of_checkVertices vertices inside with before | found
        · cases Std.TreeSet.not_mem_emptyc before
        · exact found
      exact ⟨known _ source, known _ destination⟩

end GraphDocument

namespace GraphStore

variable {σ : Type} [GraphStore σ]

/-- An edge of a document is stored between the ids that the mapping has for its ends. -/
theorem storeEdge_eq_ok {mapping : Mapping} {store next : σ} {record : EdgeRecord}
    (stored : storeEdge mapping store record = .ok next) :
    ∃ source destination id, mapping[record.source]? = some source ∧
      mapping[record.destination]? = some destination ∧
      createEdge store source record.label destination = .ok (id, next) := by
  rw [storeEdge] at stored
  split at stored
  next source destination sourceFound destinationFound =>
    rcases created : createEdge store source record.label destination with error | ⟨id, result⟩
    · simp [created, Except.map] at stored
    · simp only [created, Except.map, Except.ok.injEq] at stored
      subst stored
      exact ⟨source, destination, id, sourceFound, destinationFound, created⟩
  next => cases stored
  next => cases stored

/-- A stored document has been checked, its vertices have been stored, and then its edges. -/
theorem ingest_eq_ok {store next : σ} {document : GraphDocument} {mapping : Mapping}
    (stored : ingest store document = .ok (mapping, next)) :
    document.check = .ok () ∧ mapping = (document.vertices.foldl storeVertex (∅, store)).1 ∧
      document.edges.foldlM (storeEdge mapping)
        (document.vertices.foldl storeVertex (∅, store)).2 = .ok next := by
  rcases checked : document.check with fault | ⟨⟩
  · simp [ingest, GraphDocument.mapError_check_of_error checked, bind, Except.bind] at stored
  · have accepted := GraphDocument.mapError_check_of_ok checked
    rcases filled : document.vertices.foldl storeVertex (∅, store) with ⟨known, partly⟩
    rcases done : document.edges.foldlM (storeEdge known) partly with error | result
    · simp [ingest, accepted, filled, done, bind, Except.bind] at stored
    · simp only [ingest, accepted, filled, done, bind, Except.bind, pure, Except.pure,
        Except.ok.injEq, Prod.mk.injEq] at stored
      rcases stored with ⟨rfl, rfl⟩
      exact ⟨rfl, rfl, done⟩

end GraphStore

namespace TableGraph

variable {transaction : Transaction} {graph : TableGraph} {document : GraphDocument}

/-- The mapping knows the vertices that have been filed. -/
theorem mem_mapping_storeVertices {records : List VertexRecord} {record : VertexRecord}
    (known : record.identifier ∈ transaction.mapping ∨ record ∈ records) :
    record.identifier ∈ (records.foldl Transaction.storeVertex transaction).mapping := by
  induction records generalizing transaction with
  | nil => exact known.resolve_right List.not_mem_nil
  | cons first records ih =>
      apply ih
      rw [Transaction.storeVertex, Std.TreeMap.mem_insert, Std.LawfulEqCmp.compare_eq_iff_eq]
      rcases known with before | member
      · exact Or.inl (Or.inr before)
      · rcases List.mem_cons.mp member with rfl | later
        · exact Or.inl (Or.inl rfl)
        · exact Or.inr later

theorem exists_storeEdges_eq_ok {records : List EdgeRecord}
    (known : ∀ record ∈ records,
      record.source ∈ transaction.mapping ∧ record.destination ∈ transaction.mapping) :
    ∃ done, records.foldlM Transaction.storeEdge transaction = .ok done := by
  induction records generalizing transaction with
  | nil => exact ⟨transaction, rfl⟩
  | cons record records ih =>
      rcases List.forall_mem_cons.mp known with ⟨⟨source, destination⟩, others⟩
      have stored : ∃ next, transaction.storeEdge record = .ok next ∧
          next.mapping = transaction.mapping := by
        rw [Std.TreeMap.mem_iff_isSome_getElem?, Option.isSome_iff_exists] at source destination
        rcases source with ⟨source, sourceFound⟩
        rcases destination with ⟨destination, destinationFound⟩
        simp only [Transaction.storeEdge, sourceFound, destinationFound]
        exact ⟨_, rfl, rfl⟩
      rcases stored with ⟨next, stored, mapping⟩
      simp only [List.foldlM_cons, stored, bind, Except.bind]
      exact ih (by rwa [mapping])

/-- Tables refuse a document only if it is not fit to be stored anywhere. -/
theorem ingest_eq_error {error : Error} (refused : graph.ingest document = .error error) :
    ∃ fault, document.check = .error fault ∧ error = .graph fault := by
  rcases checked : document.check with fault | ⟨⟩
  · refine ⟨fault, rfl, ?_⟩
    simp only [ingest, GraphDocument.mapError_check_of_error checked, bind, Except.bind,
      Except.error.injEq] at refused
    exact refused.symm
  · have known : ∀ record ∈ document.edges,
        record.source ∈ (document.vertices.foldl Transaction.storeVertex
          ⟨∅, graph.tables, graph.nextVertex, graph.nextEdge⟩).mapping ∧
        record.destination ∈ (document.vertices.foldl Transaction.storeVertex
          ⟨∅, graph.tables, graph.nextVertex, graph.nextEdge⟩).mapping := by
      intro record member
      rcases GraphDocument.exists_vertices_of_check checked member with
        ⟨⟨source, sourceMember, sourceSame⟩, ⟨destination, destinationMember, destinationSame⟩⟩
      rw [← sourceSame, ← destinationSame]
      exact ⟨mem_mapping_storeVertices (Or.inr sourceMember),
        mem_mapping_storeVertices (Or.inr destinationMember)⟩
    rcases exists_storeEdges_eq_ok known with ⟨done, stored⟩
    simp [ingest, GraphDocument.mapError_check_of_ok checked, stored, bind, Except.bind, pure,
      Except.pure] at refused

end TableGraph

end MotifVote
