import MotifVote.Point
import MotifVote.Motif.Record
import MotifVote.JsonLines

/-!
# Images

An image holds the points that motifs select: a row for each registered motif, with its points in
the order in which they were found. Evaluating a document appends to every row, so a document that
is evaluated twice is there twice.
-/

namespace MotifVote

/-- A motif with the points it selects. -/
structure ImageRow where
  motif : Motif
  points : List Point
  deriving DecidableEq, Repr

/-- The rows of the registered motifs, in the order of registration. -/
structure Image where
  rows : List ImageRow
  deriving DecidableEq, Repr

namespace Image

/-- The image without motifs. -/
def empty : Image := ⟨[]⟩

/-- The image with one more motif, which selects nothing yet. A motif may be registered twice. -/
def register (image : Image) (motif : Motif) : Image := ⟨image.rows ++ [⟨motif, []⟩]⟩

/-- The image with more motifs. -/
def registerAll (image : Image) (motifs : List Motif) : Image := motifs.foldl register image

/-- The registered motifs. -/
def motifs (image : Image) : List Motif := image.rows.map (·.motif)

/-- A row with the vertices of a document that its motif selects. -/
def extendRow (document : String) (row : ImageRow) (selected : List VertexId) : ImageRow :=
  { row with points := row.points ++ selected.map fun vertex => ⟨document, vertex⟩ }

/-- Evaluates every motif on the store of a document. The rows are extended once all motifs have
been evaluated. Says how many points are new. -/
def evaluate {σ : Type} [GraphStore σ] (image : Image) (store : σ) (document : String) :
    Except Error (Nat × Image) := do
  let selections ← image.rows.mapM fun row => row.motif.evaluate store
  return (selections.flatten.length,
    ⟨List.zipWith (extendRow document) image.rows selections⟩)

/-- All points of all rows. -/
def domain (image : Image) : List Point := image.rows.flatMap (·.points)

/-- Points without those that are `seen` or repeated. -/
def firstSeen (seen : PointSet) : List Point → List Point
  | [] => []
  | point :: points =>
    if seen.contains point then firstSeen seen points
    else point :: firstSeen (seen.insert point) points

/-- The points of all rows, each where it is found first. -/
def distinctDomain (image : Image) : List Point := firstSeen ∅ image.domain

/-- The points of the first row of a motif. -/
def motifDomain? (image : Image) (motif : Motif) : Option (List Point) :=
  (image.rows.find? fun row => row.motif = motif).map (·.points)

/-- The image of some rows. Every point must belong to a document. -/
def ofRows (rows : List ImageRow) : Except Error Image :=
  match (rows.flatMap (·.points)).find? fun point => point.document.isEmpty with
  | some point => .error (.pointWithoutDocument point.identifier)
  | none => .ok ⟨rows⟩

end Image

namespace Point

open Json (Decoder)

/-- A point is read with its document and its vertex. -/
def decoder : Decoder Point :=
  Decoder.record (σ := Option String × Option UInt64)
    [.of "file" false (·.1) (fun document built => (some document, built.2)) Decoder.text,
     .of "identifier" false (·.2) (fun identifier built => (built.1, some identifier))
      Decoder.natural]
    (none, none)
    fun (document, identifier) => do return ⟨← document, ← identifier⟩

/-- A point as a JSON value. -/
def toJson (point : Point) : Json :=
  .object [
    ("file", .string point.document),
    ("identifier", GraphDocument.jsonOfId point.identifier)]

end Point

namespace ImageRow

open Json (Decoder)

/-- A row is read with its motif and its points. -/
def decoder : Decoder ImageRow :=
  Decoder.record (σ := Option Motif × Option (List Point))
    [.of "motif" false (·.1) (fun motif built => (some motif, built.2)) Motif.decoder,
     .of "image" false (·.2) (fun points built => (built.1, some points))
      (Decoder.list Point.decoder)]
    (none, none)
    fun (motif, points) => do return ⟨← motif, ← points⟩

/-- A row as a JSON value. -/
def toJson (row : ImageRow) : Json :=
  .object [("motif", row.motif.toJson), ("image", .array (row.points.map Point.toJson))]

end ImageRow

namespace Image

/-- The image that a source holds, a row on each line. -/
def ofSource (source : List Text.Symbol) : Except Error Image := do
  ofRows (← JsonLines.read ImageRow.decoder source)

/-- An image as a text, a row on each line. -/
def text (image : Image) : String := JsonLines.write ImageRow.toJson image.rows

end Image

end MotifVote
