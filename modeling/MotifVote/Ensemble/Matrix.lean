import MotifVote.Image

/-!
# Inclusion matrices

Which motif of an image selects which point: a row for every distinct point, a column for every row
of the image. Rows of the image that share a motif share the points of the first of them. The
matrix stays as it is when the image grows.
-/

namespace MotifVote

/-- Points against motifs. -/
structure InclusionMatrix where
  points : List Point
  motifs : List Motif
  /-- For each point, whether the motifs select it. -/
  rows : List (List Bool)
  /-- For each motif, the number of its points in the image, repeated ones included. -/
  selectionSizes : List Nat
  deriving DecidableEq, Repr

namespace InclusionMatrix

/-- The points that each column of an image stands for. -/
def selections (image : Image) : List (List Point) :=
  image.motifs.map fun motif => (image.motifDomain? motif).getD []

/-- The matrix of an image. -/
def ofImage (image : Image) : InclusionMatrix :=
  let columns := selections image
  let points := image.distinctDomain
  { points
    motifs := image.motifs
    rows := points.map fun point => columns.map fun selected => selected.contains point
    selectionSizes := columns.map List.length }

/-- The row of a point. -/
def indexOf? (matrix : InclusionMatrix) (point : Point) : Option Nat :=
  matrix.points.idxOf? point

/-- The entries of a row; none out of range. -/
def row (matrix : InclusionMatrix) (index : Nat) : List Bool := (matrix.rows[index]?).getD []

/-- Whether a motif selects a point; false out of range. -/
def includes (matrix : InclusionMatrix) (row column : Nat) : Bool :=
  ((matrix.row row)[column]?).getD false

/-- Whether a motif selects no point. -/
def columnIsEmpty (matrix : InclusionMatrix) (column : Nat) : Bool :=
  !matrix.rows.any fun row => (row[column]?).getD false

/-- The row of a point that must have one. -/
def requireRow (matrix : InclusionMatrix) (point : Point) : Except Error Nat :=
  match matrix.indexOf? point with
  | some row => .ok row
  | none => .error (.pointNotInDomain point.document point.identifier)

end InclusionMatrix

end MotifVote
