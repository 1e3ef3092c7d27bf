import MotifVote.Graph.StoreFile
import MotifVote.Proofs.Json.Decoding
import MotifVote.Proofs.Store.Persistence
import MotifVote.Proofs.Text.Bytes

/-!
# Store files are read as what was written

The file of a store holds the rows of its tables. What is read from it are tables with the same
rows, though these may be different search trees. No call and no read tells such tables apart, so a
store that is opened from its file goes on like the one that was closed.

An edge is written without its own id, as it is filed under it. So this rests on every edge of a
store being filed under its own id.
-/

namespace MotifVote

namespace Tables

open Json (Decoder)

/-- Tables with the same rows. -/
structure Alike (left right : Tables) : Prop where
  vertices : left.vertices.Equiv right.vertices
  edges : left.edges.Equiv right.edges
  outgoing : left.outgoing.Equiv right.outgoing
  incoming : left.incoming.Equiv right.incoming
  counters : left.counters.Equiv right.counters

/-- Edges are filed under their own ids. -/
def FilesEdgesById (tables : Tables) : Prop :=
  ∀ {id : EdgeId} {edge : Edge}, tables.edges[id]? = some edge → edge.id = id

section Rows

/-- A table has the rows it is made from, if these are filed under different keys. -/
theorem ofList_toList_equiv {κ ν : Type} {order : κ → κ → Ordering} [Std.TransCmp order]
    [Std.LawfulEqCmp order] [BEq κ] [LawfulBEq κ] (table : Std.TreeMap κ ν order) :
    (Std.TreeMap.ofList table.toList order).Equiv table := by
  apply Std.TreeMap.Equiv.of_forall_constGet?_eq
  intro key
  rcases found : table[key]? with _ | value
  · apply Std.TreeMap.getElem?_ofList_of_contains_eq_false
    rw [List.contains_eq_mem, decide_eq_false_iff_not, List.mem_map]
    rintro ⟨row, listed, rfl⟩
    rw [Std.TreeMap.mem_toList_iff_getElem?_eq_some.mp listed] at found
    cases found
  · have row := Std.TreeMap.mem_toList_iff_getElem?_eq_some.mpr found
    exact Std.TreeMap.getElem?_ofList_of_mem Std.ReflCmp.compare_self
      Std.TreeMap.distinct_keys_toList row

end Rows

section Reading

variable {tables : Tables}

theorem inverts_vertexRows :
    (Decoder.list (Decoder.pair Decoder.natural
      (Decoder.list GraphDocument.attributeDecoder))).Inverts 4
        fun rows => .array (rows.map vertexToJson) :=
  ((Decoder.inverts_natural.mono (by decide)).pair
    GraphDocument.inverts_attributeDecoder.list).list

/-- An edge as it is written, with the id that it is filed under. -/
def edgeRecord (row : EdgeId × Edge) : EdgeId × EdgeRecord :=
  (row.1, ⟨row.2.source, row.2.destination, row.2.label⟩)

theorem inverts_edgeRows :
    (Decoder.list (Decoder.pair Decoder.natural GraphDocument.edgeDecoder)).Inverts 3
      fun records => .array (records.map fun record =>
        .array [GraphDocument.jsonOfId record.1, GraphDocument.edgeToJson record.2]) :=
  ((Decoder.inverts_natural.mono (by decide)).pair GraphDocument.inverts_edgeDecoder).list

theorem edgeRows_toJson (rows : List (EdgeId × Edge)) :
    rows.map edgeToJson = (rows.map edgeRecord).map fun record =>
      .array [GraphDocument.jsonOfId record.1, GraphDocument.edgeToJson record.2] := by
  rw [List.map_map]
  rfl

theorem inverts_endRows :
    (Decoder.list (Decoder.pair (Decoder.pair Decoder.natural Decoder.natural)
      Decoder.natural)).Inverts 3 fun rows => .array (rows.map endToJson) :=
  ((Decoder.inverts_natural.pair Decoder.inverts_natural).pair
    (Decoder.inverts_natural.mono (by decide))).list

/-- The tables that are read from the file of some tables: the same rows are filed once more, each
edge with the id that it has been filed under. -/
def reread (tables : Tables) : Tables where
  vertices := .ofList tables.vertices.toList
  edges := .ofList (tables.edges.toList.map fun row =>
    (row.1, (⟨row.1, row.2.source, row.2.destination, row.2.label⟩ : Edge)))
  outgoing := .ofList tables.outgoing.toList _
  incoming := .ofList tables.incoming.toList _
  counters := .ofList tables.counters.toList

/-- A table that has not been read yet is read, and its name is noted. -/
theorem foldlM_readField_table {α : Type} {fields : List (Json.Field (Tables × List String))}
    {built result : Tables × List String} {entries : List (Option String × Json.Draft)}
    {name : String} {decode : Decoder α} {put : α → Tables → Tables} {draft : Json.Draft}
    {value : α}
    (named : fields.find? (·.name == name) = some (tableField name decode put))
    (unset : built.2.contains name = false) (decoded : decode draft = .ok value)
    (rest : entries.foldlM (Decoder.readField fields) (put value built.1, name :: built.2) =
      .ok result) :
    ((some name, draft) :: entries).foldlM (Decoder.readField fields) built = .ok result := by
  have read : Decoder.readField fields built (some name, draft) =
      .ok (put value built.1, name :: built.2) := by
    simp only [Decoder.readField, Decoder.require, named, tableField, unset, decoded, bind,
      Except.bind, pure, Except.pure]
    rfl
  rw [List.foldlM_cons, read]
  exact rest

theorem isPlain_toJson (tables : Tables) : tables.toJson.IsPlain := by
  have edges := inverts_edgeRows.plain (tables.edges.toList.map edgeRecord)
  rw [← edgeRows_toJson] at edges
  refine .object ?_
  simp only [List.forall_mem_cons, List.not_mem_nil, false_implies, implies_true, and_true]
  refine ⟨inverts_vertexRows.plain _, edges, inverts_endRows.plain _, inverts_endRows.plain _,
    .object ?_⟩
  intro field listed
  rcases List.mem_map.mp listed with ⟨row, -, rfl⟩
  exact Decoder.inverts_natural.plain row.2

theorem verticesDecoder_drafted (tables : Tables) :
    verticesDecoder ((Json.array (tables.vertices.toList.map vertexToJson)).drafted 1) =
      .ok tables.reread.vertices := by
  rw [verticesDecoder, inverts_vertexRows.decodes _ 1 (by decide)]
  rfl

theorem edgesDecoder_drafted (tables : Tables) :
    edgesDecoder ((Json.array (tables.edges.toList.map edgeToJson)).drafted 1) =
      .ok tables.reread.edges := by
  rw [edgesDecoder, edgeRows_toJson, inverts_edgeRows.decodes _ 1 (by decide)]
  change Except.ok _ = Except.ok _
  rw [List.map_map]
  rfl

theorem endsDecoder_drafted (ends : EndTable) :
    endsDecoder ((Json.array (ends.toList.map endToJson)).drafted 1) =
      .ok (.ofList ends.toList _) := by
  rw [endsDecoder, inverts_endRows.decodes _ 1 (by decide)]
  rfl

theorem countersDecoder_drafted (tables : Tables) :
    countersDecoder ((Json.object (tables.counters.toList.map fun (name, next) =>
      (name, GraphDocument.jsonOfId next))).drafted 1) = .ok tables.reread.counters := by
  have distinct : (tables.counters.toList.map (·.1)).Nodup := by
    rw [List.Nodup, List.pairwise_map]
    exact Std.TreeMap.distinct_keys_toList.imp fun different same => different (by simp [same])
  have rows := Decoder.inverts_natural.table distinct (by decide : 1 + 0 < Json.depthLimit)
  rw [countersDecoder, rows]
  rfl

theorem decoder_drafted (tables : Tables) :
    decoder (tables.toJson.drafted 0) = .ok tables.reread := by
  refine Decoder.record_object
    (tables.reread, ["counters", "incoming", "outgoing", "edges", "vertices"]) (by decide) ?_ rfl
  refine foldlM_readField_table rfl rfl tables.verticesDecoder_drafted ?_
  refine foldlM_readField_table rfl rfl tables.edgesDecoder_drafted ?_
  refine foldlM_readField_table rfl rfl (endsDecoder_drafted tables.outgoing) ?_
  refine foldlM_readField_table rfl rfl (endsDecoder_drafted tables.incoming) ?_
  exact foldlM_readField_table rfl rfl tables.countersDecoder_drafted rfl

theorem toList_toBytes (tables : Tables) :
    tables.toBytes.toList = signature ++ tables.toJson.text.toUTF8.toList := by
  simp only [Text.toList_eq, toBytes, ByteArray.data_append, Array.toList_append]

theorem isEmpty_toBytes (tables : Tables) : tables.toBytes.isEmpty = false := by
  have size : tables.toBytes.size = signature.length + tables.toJson.text.toUTF8.size :=
    ByteArray.size_append
  have some : signature.length = 10 := rfl
  rw [ByteArray.isEmpty, size, some]
  exact beq_false_of_ne (by omega)

/-- What is read from the file of some tables. -/
theorem ofBytes?_toBytes_eq (tables : Tables) : ofBytes? tables.toBytes = some tables.reread := by
  have found : decoder.run (Text.symbolsFrom 0 tables.toJson.text.toUTF8.toList) =
      .ok tables.reread := by
    rw [← Text.symbolsOfBytes_eq, Text.symbolsOfBytes_toUTF8, Text.symbolsOfText, Json.text,
      String.toList_ofList, Decoder.run, Json.draft_compact tables.isPlain_toJson]
    simp only [tables.decoder_drafted, bind, Except.bind, pure, Except.pure]
    rfl
  rw [ofBytes?, tables.isEmpty_toBytes, if_neg (by simp), toList_toBytes, List.take_left, if_pos rfl,
    List.drop_left]
  simp only [found]
  rfl

/-- The tables that are read from a file have the rows that were written to it. -/
theorem reread_alike (filed : tables.FilesEdgesById) : tables.reread.Alike tables where
  vertices := ofList_toList_equiv tables.vertices
  edges := by
    have same : (tables.edges.toList.map fun row =>
        (row.1, (⟨row.1, row.2.source, row.2.destination, row.2.label⟩ : Edge))) =
          tables.edges.toList := by
      conv_rhs => rw [← List.map_id tables.edges.toList]
      apply List.map_congr_left
      rintro ⟨id, edge⟩ listed
      obtain rfl : edge.id = id := filed (Std.TreeMap.mem_toList_iff_getElem?_eq_some.mp listed)
      rfl
    rw [reread, same]
    exact ofList_toList_equiv tables.edges
  outgoing := ofList_toList_equiv tables.outgoing
  incoming := ofList_toList_equiv tables.incoming
  counters := ofList_toList_equiv tables.counters

end Reading

section Alike

variable {left right : Tables}

theorem Alike.insertVertex (same : left.Alike right) (vertex : VertexId)
    (attributes : List Attribute) :
    Alike { left with vertices := left.vertices.insert vertex attributes }
      { right with vertices := right.vertices.insert vertex attributes } :=
  { same with vertices := same.vertices.insert vertex attributes }

theorem Alike.fileEdge (same : left.Alike right) (edge : Edge) :
    (left.fileEdge edge).Alike (right.fileEdge edge) where
  vertices := same.vertices
  edges := same.edges.insert _ _
  outgoing := same.outgoing.insert _ _
  incoming := same.incoming.insert _ _
  counters := same.counters

theorem Alike.setCounter (same : left.Alike right) (name : String) (next : UInt64) :
    Alike { left with counters := left.counters.insert name next }
      { right with counters := right.counters.insert name next } :=
  { same with counters := same.counters.insert name next }

end Alike

end Tables

namespace TableGraph

/-- Open stores with the same rows and the same next ids. -/
structure Alike (left right : TableGraph) : Prop where
  tables : left.tables.Alike right.tables
  nextVertex : left.nextVertex = right.nextVertex
  nextEdge : left.nextEdge = right.nextEdge

variable {left right : TableGraph}

theorem alike_ofTables {first second : Tables} (same : first.Alike second) :
    (ofTables first).Alike (ofTables second) :=
  ⟨same, same.counters.getD_eq, same.counters.getD_eq⟩

section Writes

/-- A write fails on both stores for the same reason, or it gives the same value and stores that are
alike again. -/
inductive AlikeOutcome {α : Type} :
    Except Error (α × TableGraph) → Except Error (α × TableGraph) → Prop
  | error (error : Error) : AlikeOutcome (.error error) (.error error)
  | ok (value : α) {left right : TableGraph} (same : left.Alike right) :
      AlikeOutcome (.ok (value, left)) (.ok (value, right))

theorem AlikeOutcome.settle {α : Type} {first second : Except Error (α × TableGraph)}
    (outcome : AlikeOutcome first second) (same : left.Alike right) (reply : α → StoreReply) :
    (DocumentStore.settle left reply first).1 = (DocumentStore.settle right reply second).1 ∧
      (DocumentStore.settle left reply first).2.Alike
        (DocumentStore.settle right reply second).2 := by
  cases outcome with
  | error error => exact ⟨rfl, same⟩
  | ok value next => exact ⟨rfl, next⟩

theorem Alike.createVertex (same : left.Alike right) (attributes : List Attribute) :
    (left.createVertex attributes).1 = (right.createVertex attributes).1 ∧
      (left.createVertex attributes).2.Alike (right.createVertex attributes).2 := by
  simp only [TableGraph.createVertex, same.nextVertex, true_and]
  exact ⟨(same.tables.insertVertex _ _).setCounter _ _, rfl, same.nextEdge⟩

theorem Alike.addAttribute (same : left.Alike right) (vertex : VertexId) (added : Attribute) :
    AlikeOutcome ((left.addAttribute vertex added).map fun next => ((), next))
      ((right.addAttribute vertex added).map fun next => ((), next)) := by
  simp only [TableGraph.addAttribute, same.tables.vertices.getElem?_eq]
  rcases right.tables.vertices[vertex]? with _ | attributes
  · exact .error _
  · exact .ok () ⟨same.tables.insertVertex _ _, same.nextVertex, same.nextEdge⟩

theorem Alike.createEdge (same : left.Alike right) (source : VertexId) (label : String)
    (destination : VertexId) :
    AlikeOutcome (left.createEdge source label destination)
      (right.createEdge source label destination) := by
  simp only [TableGraph.createEdge, same.tables.vertices.contains_eq, same.nextEdge]
  split
  · exact .ok _ ⟨(same.tables.fileEdge _).setCounter _ _, same.nextVertex, rfl⟩
  · exact .error _

/-- Transactions that have come as far on stores that are alike. -/
structure Transaction.Alike (left right : Transaction) : Prop where
  mapping : left.mapping = right.mapping
  tables : left.tables.Alike right.tables
  nextVertex : left.nextVertex = right.nextVertex
  nextEdge : left.nextEdge = right.nextEdge

variable {first second : Transaction}

theorem Transaction.Alike.storeVertices (same : first.Alike second)
    (records : List VertexRecord) :
    (records.foldl Transaction.storeVertex first).Alike
      (records.foldl Transaction.storeVertex second) := by
  induction records generalizing first second with
  | nil => exact same
  | cons record records ih =>
      apply ih
      simp only [Transaction.storeVertex, same.mapping, same.nextVertex]
      exact ⟨rfl, same.tables.insertVertex _ _, rfl, same.nextEdge⟩

theorem Transaction.Alike.storeEdge (same : first.Alike second) (record : EdgeRecord) :
    (∃ error, first.storeEdge record = .error error ∧ second.storeEdge record = .error error) ∨
      ∃ next other, first.storeEdge record = .ok next ∧ second.storeEdge record = .ok other ∧
        next.Alike other := by
  simp only [Transaction.storeEdge, same.mapping, same.nextEdge]
  split
  · exact Or.inr ⟨_, _, rfl, rfl, rfl, same.tables.fileEdge _, same.nextVertex, rfl⟩
  · exact Or.inl ⟨_, rfl, rfl⟩
  · exact Or.inl ⟨_, rfl, rfl⟩

theorem Transaction.Alike.storeEdges (same : first.Alike second) (records : List EdgeRecord) :
    (∃ error, records.foldlM Transaction.storeEdge first = .error error ∧
        records.foldlM Transaction.storeEdge second = .error error) ∨
      ∃ next other, records.foldlM Transaction.storeEdge first = .ok next ∧
        records.foldlM Transaction.storeEdge second = .ok other ∧ next.Alike other := by
  induction records generalizing first second with
  | nil => exact Or.inr ⟨first, second, rfl, rfl, same⟩
  | cons record records ih =>
      simp only [List.foldlM_cons]
      rcases same.storeEdge record with ⟨error, left, right⟩ | ⟨_, _, left, right, later⟩
      · rw [left, right]
        exact Or.inl ⟨error, rfl, rfl⟩
      · rw [left, right]
        exact ih later

theorem Alike.ingest (same : left.Alike right) (document : GraphDocument) :
    AlikeOutcome (left.ingest document) (right.ingest document) := by
  rcases checked : document.check.mapError Error.graph with error | ⟨⟩
  · simp only [TableGraph.ingest, checked, bind, Except.bind]
    exact .error error
  have opened : Transaction.Alike ⟨∅, left.tables, left.nextVertex, left.nextEdge⟩
      ⟨∅, right.tables, right.nextVertex, right.nextEdge⟩ :=
    ⟨rfl, same.tables, same.nextVertex, same.nextEdge⟩
  rcases (opened.storeVertices document.vertices).storeEdges document.edges with
    ⟨error, failed, otherFailed⟩ | ⟨next, other, stored, otherStored, alike⟩
  · simp only [TableGraph.ingest, checked, failed, otherFailed, bind, Except.bind]
    exact .error error
  · simp only [TableGraph.ingest, checked, stored, otherStored, bind, Except.bind, pure,
      Except.pure, alike.mapping, alike.nextVertex, alike.nextEdge]
    exact .ok _ ⟨(alike.tables.setCounter _ _).setCounter _ _, rfl, rfl⟩

theorem Alike.perform (same : left.Alike right) (call : StoreCall) :
    (DocumentStore.perform left call).1 = (DocumentStore.perform right call).1 ∧
      (DocumentStore.perform left call).2.Alike (DocumentStore.perform right call).2 := by
  cases call with
  | createVertex attributes =>
      rcases same.createVertex attributes with ⟨id, next⟩
      exact ⟨congrArg StoreReply.vertex id, next⟩
  | addAttribute vertex added => exact (same.addAttribute vertex added).settle same _
  | createEdge source label destination =>
      exact (same.createEdge source label destination).settle same _
  | ingest document => exact (same.ingest document).settle same _

/-- Stores that are alike answer alike, and stay alike. -/
theorem Alike.after (same : left.Alike right) (events : List StoreEvent) :
    DocumentStore.replies left events = DocumentStore.replies right events ∧
      (DocumentStore.after left events).Alike (DocumentStore.after right events) := by
  induction events generalizing left right with
  | nil => exact ⟨rfl, same⟩
  | cons event events ih =>
      cases event with
      | call call =>
          rcases same.perform call with ⟨reply, next⟩
          rcases ih next with ⟨later, final⟩
          refine ⟨?_, final⟩
          simp only [DocumentStore.replies, reply, later]
      | reopen => exact ih (alike_ofTables same.tables)

end Writes

section Reads

theorem Alike.incidentIds_eq (same : left.Alike right) (vertex : VertexId) :
    left.incidentIds vertex = right.incidentIds vertex := by
  simp only [TableGraph.incidentIds, Tables.edgesUnder, same.tables.outgoing.keys_eq,
    same.tables.incoming.keys_eq]

theorem Alike.readAlike (same : left.Alike right) : GraphStore.ReadAlike left right := by
  have vertices := same.tables.vertices
  have edges := same.tables.edges
  apply GraphStore.ReadAlike.of_reads
  all_goals
    intros
    simp only [GraphStore.vertex?, GraphStore.contains, GraphStore.vertexIds,
      GraphStore.selectVertices, GraphStore.selectEdges, GraphStore.incidentEdges, GraphStore.edges,
      GraphStore.vertexCount, GraphStore.edgeCount, same.incidentIds_eq, vertices.getElem?_eq,
      vertices.contains_eq, vertices.keys_eq, vertices.toList_eq, vertices.size_eq,
      edges.getElem?_eq, edges.values_eq, edges.size_eq]

end Reads

/-- Edges are filed under their own ids, whatever has happened to a store. -/
theorem filesEdgesById_after (events : List StoreEvent) :
    (DocumentStore.after TableGraph.empty events).tables.FilesEdgesById := by
  intro id edge found
  have same := (represents_empty.after events).2.tables.edges
  rw [same] at found
  exact (MemoryGraph.isSound_after events).edge_id found

/-- At any time the file of a store can be read, and a store that is opened from it answers all
later calls like the one that has stayed open, and cannot be told from it by reading. -/
theorem exists_ofBytes?_toBytes (before later : List StoreEvent) :
    let stored := DocumentStore.after TableGraph.empty before
    ∃ read, Tables.ofBytes? stored.tables.toBytes = some read ∧
      DocumentStore.replies (ofTables read) later = DocumentStore.replies stored later ∧
      GraphStore.ReadAlike (DocumentStore.after (ofTables read) later)
        (DocumentStore.after stored later) := by
  intro stored
  have represents := (represents_empty.after before).2
  have opened : (ofTables stored.tables.reread).Alike stored := by
    have tables := Tables.reread_alike (filesEdgesById_after before)
    have reopened := alike_ofTables tables
    exact ⟨tables, reopened.nextVertex.trans (represents.vertexCounter.trans
        represents.nextVertex.symm),
      reopened.nextEdge.trans (represents.edgeCounter.trans represents.nextEdge.symm)⟩
  rcases opened.after later with ⟨replies, final⟩
  exact ⟨_, stored.tables.ofBytes?_toBytes_eq, replies, final.readAlike⟩

end TableGraph

end MotifVote
