import MotifVote.Graph.Basic
import Std.Data.TreeSet

/-!
# Relations

Sets of rows over named columns. A row stands for an assignment of vertices to the columns. The
natural join combines the rows that agree on every column that two relations share.
-/

namespace MotifVote

/-- The name of a column: a vertex of a motif. -/
abbrev Column := UInt64

/-- The values of a row, in the order of the columns. -/
abbrev Row := List VertexId

/-- A set of rows over columns. -/
structure Relation where
  columns : List Column
  rows : Std.TreeSet Row

namespace Relation

/-- The value that a row of some columns has in one of them. -/
def valueAt? (columns : List Column) (row : Row) (column : Column) : Option VertexId :=
  (columns.zip row).lookup column

/-- The values of a row in some of its columns. -/
def valuesAt (columns : List Column) (row : Row) (chosen : List Column) : Row :=
  chosen.filterMap (valueAt? columns row)

/-- The number of rows. -/
def size (relation : Relation) : Nat := relation.rows.size

/-- Whether there is no row. -/
def isEmpty (relation : Relation) : Bool := relation.rows.isEmpty

/-- The columns of the left relation that the right one has too. -/
def sharedColumns (left right : Relation) : List Column :=
  left.columns.filter fun column => right.columns.contains column

/-- The columns of the right relation that the left one lacks. -/
def extraColumns (left right : Relation) : List Column :=
  right.columns.filter fun column => !left.columns.contains column

/-- The rows of the right relation, each with its values in the shared columns and in the others. -/
def splitRows (left right : Relation) : List (Row × Row) :=
  right.rows.toList.map fun row =>
    (valuesAt right.columns row (sharedColumns left right),
      valuesAt right.columns row (extraColumns left right))

/-- The natural join: rows that agree on the shared columns are combined. Without shared columns
every two rows are. -/
def naturalJoin (left right : Relation) : Relation :=
  let shared := sharedColumns left right
  let others := splitRows left right
  { columns := left.columns ++ extraColumns left right
    rows := .ofList (left.rows.toList.flatMap fun row =>
      let key := valuesAt left.columns row shared
      (others.filter (·.1 == key)).map fun other => row ++ other.2) }

/-- The values of a column, ascending. -/
def project (relation : Relation) (column : Column) : List VertexId :=
  (Std.TreeSet.ofList
    (relation.rows.toList.filterMap fun row => valueAt? relation.columns row column)).toList

end Relation

end MotifVote
