import MotifVote.Graph.Document
import MotifVote.Graph.Store

/-!
# Storing graph documents

A document is stored as a whole or not at all. Its vertices get the next ids in record order; its
edges follow, with their ends sent to those ids.
-/

namespace MotifVote

/-- The ids that the vertices of a document got, by their identifiers in the document. -/
abbrev Mapping := Std.TreeMap UInt64 VertexId

namespace GraphStore

variable {σ : Type} [GraphStore σ]

/-- The store with one more vertex of a document, and the mapping with its id. -/
def storeVertex (state : Mapping × σ) (record : VertexRecord) : Mapping × σ :=
  let (id, store) := createVertex state.2 record.attributes
  (state.1.insert record.identifier id, store)

/-- The store with one more edge of a document. -/
def storeEdge (mapping : Mapping) (store : σ) (record : EdgeRecord) : Except Error σ :=
  match mapping[record.source]?, mapping[record.destination]? with
  | some source, some destination =>
    (createEdge store source record.label destination).map (·.2)
  | none, _ => .error (.graph (.undeclaredVertex record.source))
  | _, none => .error (.graph (.undeclaredVertex record.destination))

/-- The store with a whole document, one write for each of its records. -/
def ingest (store : σ) (document : GraphDocument) : Except Error (Mapping × σ) := do
  document.check.mapError .graph
  let (mapping, store) := document.vertices.foldl storeVertex (∅, store)
  let store ← document.edges.foldlM (storeEdge mapping) store
  return (mapping, store)

end GraphStore

end MotifVote
