import MotifVote.Graph.Basic
import Std.Data.TreeSet

/-!
# Points

A point is a vertex of a certain document: what is selected, judged and classified. Points are
ordered by document, then by vertex.
-/

namespace MotifVote

/-- A vertex of a document. -/
structure Point where
  document : String
  identifier : VertexId
  deriving DecidableEq, Repr

namespace Point

instance : Ord Point where
  compare := compareLex (compareOn (·.document)) (compareOn (·.identifier))

instance : Std.TransOrd Point :=
  inferInstanceAs
    (Std.TransCmp (compareLex (compareOn Point.document) (compareOn Point.identifier)))

instance : Std.LawfulEqOrd Point where
  eq_of_compare {left right} equal := by
    have both := Ordering.then_eq_eq.mp
      (show (compare left.document right.document).then
        (compare left.identifier right.identifier) = .eq from equal)
    have document := Std.LawfulEqOrd.eq_of_compare both.1
    have identifier := Std.LawfulEqOrd.eq_of_compare both.2
    cases left
    cases right
    simp_all

end Point

/-- A set of points. -/
abbrev PointSet := Std.TreeSet Point

end MotifVote
