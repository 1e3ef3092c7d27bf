import MotifVote.Graph.Tables

/-!
# Store files

How the tables of a store are kept in a file: a signature, and the tables in JSON. The signature
starts with a line of text that is no JSON and goes on with bytes that are no text, so that no other
reader takes a store for a file of its own kind. An empty file stands for tables without rows;
nothing else that lacks the signature is a store.
-/

namespace MotifVote.Tables

open Json (Decoder)

/-- What every store file starts with. -/
def signature : List UInt8 := [0x6D, 0x6F, 0x74, 0x69, 0x66, 0x1A, 0x0A, 0xA9, 0x0D, 0x0A]

/-- A vertex with its id in JSON. -/
def vertexToJson (row : VertexId × List Attribute) : Json :=
  .array [GraphDocument.jsonOfId row.1, .array (row.2.map GraphDocument.attributeToJson)]

/-- An edge with its id in JSON. -/
def edgeToJson (row : EdgeId × Edge) : Json :=
  .array [GraphDocument.jsonOfId row.1,
    GraphDocument.edgeToJson ⟨row.2.source, row.2.destination, row.2.label⟩]

/-- The other end of an edge, with the end and the edge that it is filed under, in JSON. -/
def endToJson (row : (VertexId × EdgeId) × VertexId) : Json :=
  .array [.array [GraphDocument.jsonOfId row.1.1, GraphDocument.jsonOfId row.1.2],
    GraphDocument.jsonOfId row.2]

/-- The tables in JSON. -/
def toJson (tables : Tables) : Json :=
  .object [
    ("vertices", .array (tables.vertices.toList.map vertexToJson)),
    ("edges", .array (tables.edges.toList.map edgeToJson)),
    ("outgoing", .array (tables.outgoing.toList.map endToJson)),
    ("incoming", .array (tables.incoming.toList.map endToJson)),
    ("counters", .object (tables.counters.toList.map fun (name, next) =>
      (name, GraphDocument.jsonOfId next)))]

/-- The tables as the bytes of a file. -/
def toBytes (tables : Tables) : ByteArray :=
  ⟨signature.toArray⟩ ++ tables.toJson.text.toUTF8

/-- A table of ends is read from its rows. -/
def endsDecoder : Decoder EndTable := fun draft => do
  return .ofList
    (← Decoder.list (Decoder.pair (Decoder.pair Decoder.natural Decoder.natural) Decoder.natural)
      draft) _

/-- The vertices are read from their rows. -/
def verticesDecoder : Decoder (Std.TreeMap VertexId (List Attribute)) := fun draft => do
  return .ofList
    (← Decoder.list
      (Decoder.pair Decoder.natural (Decoder.list GraphDocument.attributeDecoder)) draft)

/-- The edges are read from their rows. -/
def edgesDecoder : Decoder (Std.TreeMap EdgeId Edge) := fun draft => do
  let rows ← Decoder.list (Decoder.pair Decoder.natural GraphDocument.edgeDecoder) draft
  return .ofList (rows.map fun (id, record) =>
    (id, (⟨id, record.source, record.destination, record.label⟩ : Edge)))

/-- The counters are read by their names. -/
def countersDecoder : Decoder (Std.TreeMap String UInt64) := fun draft => do
  return .ofList (← Decoder.table Decoder.natural draft)

/-- A table as a field of the tables; the names of the tables found so far are kept. -/
def tableField {α : Type} (name : String) (decode : Decoder α) (put : α → Tables → Tables) :
    Json.Field (Tables × List String) where
  name
  optional := true
  isSet built := built.2.contains name
  read draft built := do return (put (← decode draft) built.1, name :: built.2)

/-- The tables that have been read; those that are missing have no rows. -/
def decoder : Decoder Tables :=
  Decoder.record (σ := Tables × List String)
    [tableField "vertices" verticesDecoder fun rows tables => { tables with vertices := rows },
     tableField "edges" edgesDecoder fun rows tables => { tables with edges := rows },
     tableField "outgoing" endsDecoder fun rows tables => { tables with outgoing := rows },
     tableField "incoming" endsDecoder fun rows tables => { tables with incoming := rows },
     tableField "counters" countersDecoder fun rows tables => { tables with counters := rows }]
    (empty, []) fun built => some built.1

/-- The tables that a file with some bytes holds. -/
def ofBytes? (bytes : ByteArray) : Option Tables :=
  if bytes.isEmpty then some empty
  else if bytes.toList.take signature.length = signature then
    let source := Text.symbolsFrom 0 (bytes.toList.drop signature.length)
    (decoder.run source).toOption
  else none

end MotifVote.Tables
