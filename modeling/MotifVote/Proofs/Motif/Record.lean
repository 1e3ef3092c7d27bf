import MotifVote.Motif.Record
import MotifVote.Proofs.Json.Decoding

/-!
# Motifs in JSON

Every motif is read back from what is written for it.
-/

namespace MotifVote

open Json (Decoder Field)

namespace Filter

theorem eq_of_predicates_eq {left right : Filter} (same : left.predicates = right.predicates) :
    left = right := by
  cases left
  cases right
  cases same
  rfl

theorem insertInto_of_forall_lt {predicate : Predicate} {before : List Predicate}
    (later : ∀ other ∈ before, other.kind < predicate.kind) :
    predicate.insertInto before = before ++ [predicate] := by
  induction before with
  | nil => rfl
  | cons first before ih =>
      rcases List.forall_mem_cons.mp later with ⟨less, others⟩
      have notBefore : ¬predicate.kind < first.kind :=
        fun again => String.lt_irrefl _ (String.lt_trans less again)
      have different : predicate.kind ≠ first.kind := fun same => String.lt_irrefl _ (same ▸ less)
      rw [Predicate.insertInto, if_neg notBefore, if_neg different, ih others, List.cons_append]

/-- Predicates that come in ascending order are collected as they come. -/
theorem predicates_foldl_insert {filter : Filter} {predicates : List Predicate}
    (ascending : (filter.predicates ++ predicates).Pairwise (·.kind < ·.kind)) :
    (predicates.foldl insert filter).predicates = filter.predicates ++ predicates := by
  induction predicates generalizing filter with
  | nil => simp
  | cons predicate predicates ih =>
      have later : ∀ other ∈ filter.predicates, other.kind < predicate.kind :=
        fun other member => (List.pairwise_append.mp ascending).2.2 other member predicate
          List.mem_cons_self
      have inserted : (filter.insert predicate).predicates = filter.predicates ++ [predicate] :=
        insertInto_of_forall_lt later
      have rest : ((filter.insert predicate).predicates ++ predicates).Pairwise
          (·.kind < ·.kind) := by
        rwa [inserted, List.append_assoc]
      rw [List.foldl_cons, ih rest, inserted, List.append_assoc, List.singleton_append]

theorem nodup_kinds (filter : Filter) : (filter.predicates.map (·.kind)).Nodup := by
  rw [List.Nodup, List.pairwise_map]
  refine filter.ascending.imp ?_
  intro first second less same
  exact String.lt_irrefl _ (same ▸ less)

theorem ofPredicates_predicates (filter : Filter) :
    ofPredicates filter.predicates = .ok filter := by
  have single : firstRepeat? [] (filter.predicates.map (·.kind)) = none :=
    firstRepeat?_eq_none_iff.mpr ⟨filter.nodup_kinds, by simp⟩
  have collected : (collect filter.predicates).predicates = filter.predicates :=
    predicates_foldl_insert filter.ascending
  simp only [ofPredicates, single, eq_of_predicates_eq collected]

/-- The entries of a filter are read as JSON texts. -/
theorem fieldsJson?_drafted (predicates : List Predicate) (depth : Nat) :
    Json.fieldsJson? (Json.draftedFields depth
        (predicates.map fun predicate => (predicate.kind, .string predicate.value))) =
      some (predicates.map fun predicate => (predicate.kind, .string predicate.value)) := by
  induction predicates with
  | nil => rfl
  | cons predicate predicates ih =>
      simp [Json.fieldsJson?, Json.drafted, Json.Draft.json?, ih]

theorem requirements_eq_ok (predicates : List Predicate) :
    requirements (predicates.map fun predicate => (predicate.kind, .string predicate.value)) =
      .ok predicates := by
  apply mapM_map_eq_ok
  intro predicate _
  rfl

theorem inverts_decoder : Filter.decoder.Inverts 1 Filter.toJson where
  plain filter := by
    refine .object ?_
    simp [Json.IsPlain.string]
  decodes filter depth shallow := by
    have distinct : ((filter.predicates.map fun predicate =>
        (predicate.kind, Json.string predicate.value)).map (·.1)).Nodup := by
      rw [List.map_map]
      exact filter.nodup_kinds
    -- The label is kept as JSON first, and a name that came twice would be merged there.
    have entries : entries? filter.toJson = some (filter.predicates.map fun predicate =>
        (predicate.kind, .string predicate.value)) :=
      congrArg some (Decoder.mergeFields_eq_self distinct)
    have json : Decoder.json (filter.toJson.drafted depth) = .ok filter.toJson := by
      simp [Decoder.json, Decoder.require, Filter.toJson, Json.drafted_object, Json.Draft.json?,
        shallow, fieldsJson?_drafted]
    simp [decoder, json, ofLabel, Decoder.require, entries, requirements_eq_ok,
      ofPredicates_predicates, Except.mapError, bind, Except.bind]

end Filter

theorem MotifVertex.inverts_decoder : MotifVertex.decoder.Inverts 2 MotifVertex.toJson where
  plain vertex := by
    refine .object ?_
    simp [Decoder.inverts_natural.plain, Filter.inverts_decoder.plain]
  decodes vertex depth shallow := by
    have identifier := Decoder.inverts_natural.decodes vertex.identifier (depth + 1) (by omega)
    have label := Filter.inverts_decoder.decodes vertex.filter (depth + 1) (by omega)
    refine Decoder.record_object (some vertex.identifier, some vertex.filter) (by omega) ?_ rfl
    exact Decoder.foldlM_readField_cons rfl rfl identifier
      (Decoder.foldlM_readField_cons rfl rfl label rfl)

theorem MotifEdge.inverts_decoder : MotifEdge.decoder.Inverts 1 MotifEdge.toJson where
  plain edge := GraphDocument.inverts_edgeDecoder.plain ⟨edge.source, edge.destination, edge.label⟩
  decodes edge depth shallow := by
    have record : GraphDocument.edgeDecoder (edge.toJson.drafted depth) =
        .ok ⟨edge.source, edge.destination, edge.label⟩ :=
      GraphDocument.inverts_edgeDecoder.decodes ⟨edge.source, edge.destination, edge.label⟩ depth
        shallow
    simp [MotifEdge.decoder, record, bind, Except.bind, pure, Except.pure]

namespace Motif

/-- The parts of a motif are fit to be one. -/
theorem make_eq_ok (motif : Motif) :
    make motif.selector motif.vertices motif.edges = .ok motif := by
  have single : firstRepeat? [] (declaredBy motif.vertices) = none :=
    firstRepeat?_eq_none_iff.mpr ⟨motif.distinct, by simp⟩
  have sound : motif.edges.find? (isDangling motif.vertices) = none := by
    rw [List.find?_eq_none]
    intro edge member
    simpa [isDangling] using motif.endsDeclared edge member
  rw [make]
  split
  next repeated =>
    rw [single] at repeated
    cases repeated
  next =>
    rw [dif_pos motif.selectorDeclared]
    split
    next dangling =>
      rw [sound] at dangling
      cases dangling
    next => rfl

theorem inverts_decoder : Motif.decoder.Inverts 5 Motif.toJson where
  plain motif := by
    have vertices : Json.IsPlain (.array (motif.vertices.map MotifVertex.toJson)) :=
      MotifVertex.inverts_decoder.list.plain motif.vertices
    have edges : Json.IsPlain (.array (motif.edges.map MotifEdge.toJson)) :=
      MotifEdge.inverts_decoder.list.plain motif.edges
    have parts : Json.IsPlain (.object [
        ("vertices", .array (motif.vertices.map MotifVertex.toJson)),
        ("edges", .array (motif.edges.map MotifEdge.toJson))]) := by
      refine .object ?_
      simp [vertices, edges]
    refine .object ?_
    simp [Decoder.inverts_natural.plain, parts]
  decodes motif depth shallow := by
    have selector := Decoder.inverts_natural.decodes motif.selector (depth + 1) (by omega)
    have vertices := MotifVertex.inverts_decoder.list.decodes motif.vertices (depth + 2) (by omega)
    have edges := MotifEdge.inverts_decoder.list.decodes motif.edges (depth + 2) (by omega)
    have structured : structureDecoder (Json.drafted (depth + 1) (.object [
        ("vertices", .array (motif.vertices.map MotifVertex.toJson)),
        ("edges", .array (motif.edges.map MotifEdge.toJson))])) =
          .ok (motif.vertices, motif.edges) := by
      refine Decoder.record_object (some motif.vertices, some motif.edges) (by omega) ?_ rfl
      exact Decoder.foldlM_readField_cons rfl rfl vertices
        (Decoder.foldlM_readField_cons rfl rfl edges rfl)
    have parts : partsDecoder (motif.toJson.drafted depth) =
        .ok (motif.selector, motif.vertices, motif.edges) := by
      refine Decoder.record_object (some motif.selector, some (motif.vertices, motif.edges))
        (by omega) ?_ rfl
      exact Decoder.foldlM_readField_cons rfl rfl selector
        (Decoder.foldlM_readField_cons rfl rfl structured rfl)
    simp [decoder, parts, make_eq_ok, Except.mapError, bind, Except.bind]

/-- A motif is read from its own text. There is no limit on this text. -/
theorem ofText_text (motif : Motif) : ofText motif.toJson.text = .ok motif := by
  have found : decoder.runText motif.toJson.text = .ok motif := by
    rw [Decoder.runText, Text.symbolsOfText, Json.text, String.toList_ofList]
    exact inverts_decoder.run_compact (by decide) motif
  rw [ofText, found]
  rfl

end Motif

end MotifVote
