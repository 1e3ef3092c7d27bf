import MotifVote.Motif.Basic
import MotifVote.Motif.Label
import MotifVote.Graph.Document

/-!
# Motif records

How a motif is written in JSON, and what is read as one. A vertex may leave out its label, and a
structure its vertices or its edges.
-/

namespace MotifVote

open Json (Decoder)

/-- A vertex is read with its identifier and its label. -/
def MotifVertex.decoder : Decoder MotifVertex :=
  Decoder.record (σ := Option UInt64 × Option Filter)
    [.of "identifier" false (·.1) (fun identifier built => (some identifier, built.2))
      Decoder.natural,
     .of "label" true (·.2) (fun filter built => (built.1, some filter)) Filter.decoder]
    (none, none)
    fun (identifier, filter) => do return ⟨← identifier, filter.getD .empty⟩

/-- An edge is read like one of a graph document. -/
def MotifEdge.decoder : Decoder MotifEdge := fun draft => do
  let record ← GraphDocument.edgeDecoder draft
  return ⟨record.source, record.destination, record.label⟩

/-- A vertex of a motif as a JSON value. -/
def MotifVertex.toJson (vertex : MotifVertex) : Json :=
  .object [
    ("identifier", GraphDocument.jsonOfId vertex.identifier),
    ("label", vertex.filter.toJson)]

/-- An edge of a motif as a JSON value. -/
def MotifEdge.toJson (edge : MotifEdge) : Json :=
  .object [
    ("source", GraphDocument.jsonOfId edge.source),
    ("destination", GraphDocument.jsonOfId edge.destination),
    ("label", .string edge.label)]

namespace Motif

/-- The vertices and the edges of a motif. -/
def structureDecoder : Decoder (List MotifVertex × List MotifEdge) :=
  Decoder.record (σ := Option (List MotifVertex) × Option (List MotifEdge))
    [.of "vertices" true (·.1) (fun vertices built => (some vertices, built.2))
      (Decoder.list MotifVertex.decoder),
     .of "edges" true (·.2) (fun edges built => (built.1, some edges))
      (Decoder.list MotifEdge.decoder)]
    (none, none)
    fun (vertices, edges) => some (vertices.getD [], edges.getD [])

/-- A selector with a structure. -/
def partsDecoder : Decoder (UInt64 × List MotifVertex × List MotifEdge) :=
  Decoder.record (σ := Option UInt64 × Option (List MotifVertex × List MotifEdge))
    [.of "selector" false (·.1) (fun selector built => (some selector, built.2)) Decoder.natural,
     .of "structure" false (·.2) (fun parts built => (built.1, some parts)) structureDecoder]
    (none, none)
    fun (selector, parts) => do return (← selector, ← parts)

/-- A motif is refused as soon as its parts have been read. -/
def decoder : Decoder Motif := fun draft => do
  let (selector, vertices, edges) ← partsDecoder draft
  (make selector vertices edges).mapError fun fault => .refused (.motif fault)

/-- The motif that a text describes. -/
def ofText (text : String) : Except Error Motif :=
  (decoder.runText text).mapError fun fault => .motifText fault.refusal?

/-- A motif as a JSON value. -/
def toJson (motif : Motif) : Json :=
  .object [
    ("selector", GraphDocument.jsonOfId motif.selector),
    ("structure", .object [
      ("vertices", .array (motif.vertices.map MotifVertex.toJson)),
      ("edges", .array (motif.edges.map MotifEdge.toJson))])]

end Motif

end MotifVote
