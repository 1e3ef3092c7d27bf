import MotifVote.Graph.Basic
import MotifVote.Json.Decode
import MotifVote.Json.Printer
import Std.Data.TreeSet

/-!
# Graph documents

A graph as it is handed over to a store: records of vertices and edges with identifiers of their
own. A document is checked as a whole before anything of it is stored.
-/

namespace MotifVote

/-- A vertex of a graph document. -/
structure VertexRecord where
  identifier : UInt64
  attributes : List Attribute
  deriving DecidableEq, Repr

/-- An edge of a graph document. -/
structure EdgeRecord where
  source : UInt64
  destination : UInt64
  label : String
  deriving DecidableEq, Repr

/-- A graph in the words of whoever made it. -/
structure GraphDocument where
  vertices : List VertexRecord
  edges : List EdgeRecord
  deriving DecidableEq, Repr

namespace GraphDocument

/-- Kinds of attributes and labels of edges have at most this many bytes. -/
def nameLimit : Nat := 256

/-- Values of attributes have at most this many bytes. -/
def valueLimit : Nat := 65536

/-- A document has at most this many vertices. -/
def vertexLimit : Nat := 1000000

/-- Whether a kind or a label has an allowed length. -/
def isName (name : String) : Bool := 0 < name.utf8ByteSize && name.utf8ByteSize ≤ nameLimit

/-- Refuses an attribute that is too long, or has no kind. -/
def checkAttribute (identifier : UInt64) (carried : Attribute) : Except GraphFault Unit :=
  if !isName carried.kind then .error (.kindLength identifier)
  else if carried.value.utf8ByteSize > valueLimit then .error (.valueLength identifier carried.kind)
  else .ok ()

/-- Refuses vertices whose identifiers are `declared` or repeated, and their attributes; says all
identifiers that are declared then. -/
def checkVertices (declared : Std.TreeSet UInt64) :
    List VertexRecord → Except GraphFault (Std.TreeSet UInt64)
  | [] => .ok declared
  | record :: records =>
    if declared.contains record.identifier then .error (.repeatedVertex record.identifier)
    else do
      record.attributes.forM (checkAttribute record.identifier)
      checkVertices (declared.insert record.identifier) records

/-- Refuses an edge whose label is too long or empty, or whose ends are not declared. -/
def checkEdge (declared : Std.TreeSet UInt64) (record : EdgeRecord) : Except GraphFault Unit :=
  if !isName record.label then .error (.labelLength record.source record.destination)
  else if !declared.contains record.source then .error (.undeclaredVertex record.source)
  else if !declared.contains record.destination then .error (.undeclaredVertex record.destination)
  else .ok ()

/-- Refuses a document that is not fit to be stored. -/
def check (document : GraphDocument) : Except GraphFault Unit := do
  if document.vertices.length > vertexLimit then
    throw (.tooManyVertices document.vertices.length vertexLimit)
  let declared ← checkVertices ∅ document.vertices
  document.edges.forM (checkEdge declared)

open Json (Decoder)

/-- An attribute is read from an array of its kind and its value. -/
def attributeDecoder : Decoder Attribute := fun draft => do
  let (kind, value) ← Decoder.pair Decoder.text Decoder.text draft
  return ⟨kind, value⟩

/-- Vertices may be read without attributes. -/
def vertexDecoder : Decoder VertexRecord :=
  Decoder.record (σ := Option UInt64 × Option (List Attribute))
    [.of "identifier" false (·.1) (fun identifier built => (some identifier, built.2))
      Decoder.natural,
     .of "attributes" true (·.2) (fun attributes built => (built.1, some attributes))
      (Decoder.list attributeDecoder)]
    (none, none)
    fun (identifier, attributes) => do return ⟨← identifier, attributes.getD []⟩

/-- All parts of an edge must be there. -/
def edgeDecoder : Decoder EdgeRecord :=
  Decoder.record (σ := Option UInt64 × Option UInt64 × Option String)
    [.of "source" false (·.1) (fun source built => (some source, built.2)) Decoder.natural,
     .of "destination" false (·.2.1)
      (fun destination built => (built.1, some destination, built.2.2)) Decoder.natural,
     .of "label" false (·.2.2) (fun label built => (built.1, built.2.1, some label)) Decoder.text]
    (none, none, none)
    fun (source, destination, label) => do return ⟨← source, ← destination, ← label⟩

/-- A document may leave out its vertices or its edges. -/
def decoder : Decoder GraphDocument :=
  Decoder.record (σ := Option (List VertexRecord) × Option (List EdgeRecord))
    [.of "vertices" true (·.1) (fun vertices built => (some vertices, built.2))
      (Decoder.list vertexDecoder),
     .of "edges" true (·.2) (fun edges built => (built.1, some edges))
      (Decoder.list edgeDecoder)]
    (none, none)
    fun (vertices, edges) => some ⟨vertices.getD [], edges.getD []⟩

/-- The document that a source describes. -/
def ofSource (source : List Text.Symbol) : Except Error GraphDocument :=
  (decoder.run source).mapError fun _ => .graphText

/-- The document that a text describes. -/
def ofText (text : String) : Except Error GraphDocument := ofSource (Text.symbolsOfText text)

/-- A number of 64 bits as a JSON value. -/
def jsonOfId (id : UInt64) : Json := .number (.integer id.toNat)

/-- An attribute as a JSON value. -/
def attributeToJson (carried : Attribute) : Json :=
  .array [.string carried.kind, .string carried.value]

/-- A vertex as a JSON value, with its attributes even if there are none. -/
def vertexToJson (record : VertexRecord) : Json :=
  .object [
    ("identifier", jsonOfId record.identifier),
    ("attributes", .array (record.attributes.map attributeToJson))]

/-- An edge as a JSON value. -/
def edgeToJson (record : EdgeRecord) : Json :=
  .object [
    ("source", jsonOfId record.source),
    ("destination", jsonOfId record.destination),
    ("label", .string record.label)]

/-- A document as a JSON value, with nothing left out. -/
def toJson (document : GraphDocument) : Json :=
  .object [
    ("vertices", .array (document.vertices.map vertexToJson)),
    ("edges", .array (document.edges.map edgeToJson))]

end GraphDocument

end MotifVote
