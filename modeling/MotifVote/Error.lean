/-!
# What can go wrong

Every failure of the library is a cause of its own; `Error.message` gives all causes their words.
-/

namespace MotifVote

/-- Why a motif or a query is refused. -/
inductive MotifFault where
  | repeatedKind (kind : String)
  /-- An attribute value that is an array, an object or null; `value` is its JSON text. -/
  | notScalar (kind value : String)
  | repeatedVertex (identifier : UInt64)
  | undeclaredSelector (selector : UInt64)
  | undeclaredEndpoint (source : UInt64) (label : String) (destination : UInt64)
  | unboundColumn (column : UInt64)
  deriving DecidableEq, Repr

/-- Why a graph document is refused. -/
inductive GraphFault where
  | tooManyVertices (count limit : Nat)
  | repeatedVertex (identifier : UInt64)
  | kindLength (identifier : UInt64)
  | valueLength (identifier : UInt64) (kind : String)
  | labelLength (source destination : UInt64)
  | undeclaredVertex (identifier : UInt64)
  deriving DecidableEq, Repr

/-- Why a setting is refused; the value stands as messages write it. -/
inductive SettingFault where
  | weight (label value : String)
  | notInUnitInterval (setting value : String)
  | notFiniteNonNegative (setting value : String)
  | negativeDistance (value : String)
  /-- The text of a configuration file does not describe settings. -/
  | unreadable
  deriving DecidableEq, Repr

/-- Why a well-formed record says something that is refused. -/
inductive Refusal where
  | motif (fault : MotifFault)
  | unknownSplit (name : String)
  deriving DecidableEq, Repr

/-- Why a line is no record. -/
inductive LineFault where
  /-- The line has more bytes than the limit of lines. -/
  | tooLong (limit : Nat)
  /-- The line cannot be read; there is a `refusal` if it is of the expected form. -/
  | unreadable (refusal : Option Refusal)
  deriving DecidableEq, Repr

/-- The failures of the library. A text may be unreadable because it is not of the expected form,
or because what it says is refused; in the second case there is a `refusal`. -/
inductive Error where
  | refused (refusal : Refusal)
  | motifText (refusal : Option Refusal)
  | pointWithoutDocument (identifier : UInt64)
  | graph (fault : GraphFault)
  | graphText
  | settingsText
  | recordLine (number : Nat) (fault : LineFault)
  | unknownEnsemble (name : String)
  | setting (fault : SettingFault)
  | vertexNotFound (identifier : UInt64)
  | endpointMissing (source destination : UInt64)
  | documentNotFound (locator : String)
  | pointNotInDomain (document : String) (identifier : UInt64)
  /-- A file or a directory cannot be used as asked. -/
  | files (reason : String)
  deriving DecidableEq, Repr

/-- The words for a refused motif. -/
def MotifFault.message : MotifFault → String
  | .repeatedKind kind => s!"attribute kind '{kind}' repeated in one filter"
  | .notScalar kind value => s!"value of '{kind}' must be a scalar, got {value}"
  | .repeatedVertex identifier => s!"vertex {identifier} declared twice"
  | .undeclaredSelector selector => s!"selector {selector} is not a motif vertex"
  | .undeclaredEndpoint source label destination =>
    s!"edge {source} --[{label}]-> {destination} references an undeclared vertex"
  | .unboundColumn column => s!"projected column {column} is not bound by any selection"

/-- The words for a refused graph document. -/
def GraphFault.message : GraphFault → String
  | .tooManyVertices count limit => s!"{count} vertices exceed the limit of {limit}"
  | .repeatedVertex identifier => s!"duplicate vertex identifier {identifier}"
  | .kindLength identifier => s!"vertex {identifier} has an attribute kind of invalid length"
  | .valueLength identifier kind => s!"vertex {identifier} attribute '{kind}' value too long"
  | .labelLength source destination =>
    s!"edge {source} -> {destination} has a label of invalid length"
  | .undeclaredVertex identifier => s!"edge references undeclared vertex {identifier}"

/-- The words for a refused setting. -/
def SettingFault.message : SettingFault → String
  | .weight label value => s!"edge weight for '{label}' must be positive, got {value}"
  | .notInUnitInterval setting value => s!"{setting} must lie in [0, 1], got {value}"
  | .notFiniteNonNegative setting value =>
    s!"{setting} must be finite and non-negative, got {value}"
  | .negativeDistance value => s!"neighborhood distance must be non-negative, got {value}"
  | .unreadable => "the text does not describe settings"

/-- The words for a refused record. -/
def Refusal.message : Refusal → String
  | .motif fault => "Invalid motif: " ++ fault.message
  | .unknownSplit name => "Unknown split: " ++ name

/-- What the words for a line that is no record end with. -/
def LineFault.message : LineFault → String
  | .tooLong limit => s!": record exceeds {limit} bytes"
  | .unreadable none => ""
  | .unreadable (some refusal) => ": " ++ refusal.message

/-- The words for every failure. -/
def Error.message : Error → String
  | .refused refusal => refusal.message
  | .motifText none => "Invalid motif: the text is no motif"
  | .motifText (some refusal) => "Invalid motif: " ++ refusal.message
  | .pointWithoutDocument identifier => s!"Invalid point: point {identifier} has no document"
  | .graph fault => "Invalid graph document: " ++ fault.message
  | .graphText => "Deserialization error: the text is no graph document"
  | .settingsText => "Deserialization error: the text does not describe settings"
  | .recordLine number fault => s!"Deserialization error: line {number}" ++ fault.message
  | .unknownEnsemble name => "Unknown ensemble: " ++ name
  | .setting fault => "Invalid configuration: " ++ fault.message
  | .vertexNotFound identifier => s!"Vertex not found: {identifier}"
  | .endpointMissing source destination => s!"Edge endpoint missing: {source} -> {destination}"
  | .documentNotFound locator => "Document not found: " ++ locator
  | .pointNotInDomain document identifier =>
    s!"Point not in ensemble domain: {document}#{identifier}"
  | .files reason => "I/O error: " ++ reason

end MotifVote
