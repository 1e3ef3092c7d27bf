/-!
# Attributed graphs

The parts that document graphs consist of: vertices with attributes, and directed edges with labels.
Vertices and edges are named by 64-bit numbers, which the store that holds them hands out.
-/

namespace MotifVote

/-- The name of a vertex in its store. -/
abbrev VertexId := UInt64

/-- The name of an edge in its store. -/
abbrev EdgeId := UInt64

/-- A kind and a value that a vertex carries. -/
structure Attribute where
  kind : String
  value : String
  deriving DecidableEq, Repr

/-- A vertex with its attributes, the oldest first; a vertex may carry several of one kind. -/
structure Vertex where
  id : VertexId
  attributes : List Attribute
  deriving DecidableEq, Repr

/-- A directed edge. -/
structure Edge where
  id : EdgeId
  source : VertexId
  destination : VertexId
  label : String
  deriving DecidableEq, Repr

namespace Attribute

/-- The kind of the attributes by which an analyst judges vertices. -/
def judgementKind : String := "user:label"

/-- The value by which an analyst judges a vertex to be a positive. -/
def positiveValue : String := "positive"

end Attribute

/-- Whether a vertex carries an attribute. -/
def Vertex.has (vertex : Vertex) (kind value : String) : Bool :=
  vertex.attributes.contains ⟨kind, value⟩

/-- The end of an edge across from a vertex, if the vertex is one of its ends. -/
def Edge.otherEnd? (edge : Edge) (vertex : VertexId) : Option VertexId :=
  if edge.source = vertex then some edge.destination
  else if edge.destination = vertex then some edge.source
  else none

end MotifVote
