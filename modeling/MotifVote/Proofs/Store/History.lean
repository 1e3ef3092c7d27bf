import MotifVote.Graph.Memory
import MotifVote.Graph.Tables

/-!
# Histories of stores

The calls that write to a store, what they answer, and what a sequence of them leads to. A graph in
memory takes a document record by record, tables take it in one transaction. Tables may be closed
and opened again between two calls; a graph in memory has nothing to close.

A call that fails leaves the store as it was.
-/

namespace MotifVote

/-- A store that also takes whole documents, and that can be closed and opened again. -/
class DocumentStore (σ : Type) extends GraphStore σ where
  ingest : σ → GraphDocument → Except Error (Mapping × σ)
  reopen : σ → σ

instance : DocumentStore MemoryGraph where
  ingest := GraphStore.ingest
  reopen := id

instance : DocumentStore TableGraph where
  ingest := TableGraph.ingest
  reopen := TableGraph.reopen

/-- The store of a new document file. -/
def TableGraph.empty : TableGraph := ofTables .empty

/-- A call that writes to a store. -/
inductive StoreCall where
  | createVertex (attributes : List Attribute)
  | addAttribute (vertex : VertexId) (added : Attribute)
  | createEdge (source : VertexId) (label : String) (destination : VertexId)
  | ingest (document : GraphDocument)

/-- What a call answers. -/
inductive StoreReply where
  | vertex (id : VertexId)
  | attribute
  | edge (id : EdgeId)
  | document (mapping : Mapping)
  | failure (error : Error)

/-- Something that happens to a store. -/
inductive StoreEvent where
  | call (call : StoreCall)
  | reopen

namespace DocumentStore

variable {σ : Type} [DocumentStore σ]

/-- The reply to a call that may fail, and the store after it. -/
def settle {α : Type} (store : σ) (reply : α → StoreReply) :
    Except Error (α × σ) → StoreReply × σ
  | .ok (value, next) => (reply value, next)
  | .error error => (.failure error, store)

/-- The reply to a call, and the store after it. -/
def perform (store : σ) : StoreCall → StoreReply × σ
  | .createVertex attributes =>
    let (id, next) := GraphStore.createVertex store attributes
    (.vertex id, next)
  | .addAttribute vertex added =>
    settle store (fun _ : Unit => .attribute)
      ((GraphStore.addAttribute store vertex added).map fun next => ((), next))
  | .createEdge source label destination =>
    settle store .edge (GraphStore.createEdge store source label destination)
  | .ingest document => settle store .document (ingest store document)

/-- What a call can do: it succeeds, or it fails and leaves the store as it was. -/
inductive Performs (store : σ) : StoreCall → StoreReply × σ → Prop
  | createVertex (attributes : List Attribute) :
      Performs store (.createVertex attributes)
        (.vertex (GraphStore.createVertex store attributes).1,
          (GraphStore.createVertex store attributes).2)
  | addAttribute {vertex : VertexId} {added : Attribute} {next : σ}
      (changed : GraphStore.addAttribute store vertex added = .ok next) :
      Performs store (.addAttribute vertex added) (.attribute, next)
  | createEdge {source destination : VertexId} {label : String} {id : EdgeId} {next : σ}
      (created : GraphStore.createEdge store source label destination = .ok (id, next)) :
      Performs store (.createEdge source label destination) (.edge id, next)
  | ingest {document : GraphDocument} {mapping : Mapping} {next : σ}
      (stored : DocumentStore.ingest store document = .ok (mapping, next)) :
      Performs store (.ingest document) (.document mapping, next)
  | failure (call : StoreCall) (error : Error) : Performs store call (.failure error, store)

theorem performs (store : σ) (call : StoreCall) : Performs store call (perform store call) := by
  cases call with
  | createVertex attributes => exact .createVertex attributes
  | addAttribute vertex added =>
      rw [perform]
      rcases result : GraphStore.addAttribute store vertex added with error | next
      · exact .failure _ error
      · exact .addAttribute result
  | createEdge source label destination =>
      rw [perform]
      rcases result : GraphStore.createEdge store source label destination with error | ⟨id, next⟩
      · exact .failure _ error
      · exact .createEdge result
  | ingest document =>
      rw [perform]
      rcases result : DocumentStore.ingest store document with error | ⟨mapping, next⟩
      · exact .failure _ error
      · exact .ingest result

/-- The store after some events. -/
def after (store : σ) : List StoreEvent → σ
  | [] => store
  | .call call :: events => after (perform store call).2 events
  | .reopen :: events => after (reopen store) events

/-- The replies to the calls among some events. -/
def replies (store : σ) : List StoreEvent → List StoreReply
  | [] => []
  | .call call :: events => (perform store call).1 :: replies (perform store call).2 events
  | .reopen :: events => replies (reopen store) events

/-- How many edges a call with some reply has created. -/
def edgesOfReply : StoreCall → StoreReply → Nat
  | .createEdge .., .edge _ => 1
  | .ingest document, .document _ => document.edges.length
  | _, _ => 0

/-- How many edges are created by some events. -/
def edgesCreated (store : σ) : List StoreEvent → Nat
  | [] => 0
  | .call call :: events =>
    edgesOfReply call (perform store call).1 + edgesCreated (perform store call).2 events
  | .reopen :: events => edgesCreated (reopen store) events

end DocumentStore

end MotifVote
