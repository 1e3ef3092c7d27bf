import MotifVote.Ensemble.Basic

/-!
# Statistics

How good a set of predicted points is, measured against the true ones; how this changes along the
ranking of an ensemble; and which point an ensemble is least certain about.
-/

namespace MotifVote

variable {α : Type} [Scalar α]

/-- Precision, recall and their weighted harmonic mean. Recall goes by the name of sensitivity
here. -/
structure Score (α : Type) where
  precision : α
  sensitivity : α
  fBeta : α

namespace Score

/-- The number of predicted points that are true. -/
def hits (predicted truth : PointSet) : Nat := predicted.toList.countP truth.contains

/-- The part of the predicted points that are true; zero if nothing is predicted. -/
def precisionOf (predicted truth : PointSet) : α :=
  if predicted.isEmpty then 0
  else ((hits predicted truth : Nat) : α) / ((predicted.size : Nat) : α)

/-- The part of the true points that are predicted. -/
def sensitivityOf (predicted truth : PointSet) : α :=
  ((hits predicted truth : Nat) : α) / ((truth.size : Nat) : α)

/-- The mean of precision and recall in which recall counts `beta` times as much; zero if both are.
-/
def fBetaOf (beta precision sensitivity : α) : α :=
  if precision == 0 && sensitivity == 0 then 0
  else
    (1 + beta * beta) * precision * sensitivity / (beta * beta * precision + sensitivity)

/-- The score of a prediction. -/
def ofSets (predicted truth : PointSet) (beta : α) : Score α :=
  let precision := precisionOf predicted truth
  let sensitivity := sensitivityOf predicted truth
  ⟨precision, sensitivity, fBetaOf beta precision sensitivity⟩

end Score

/-- A point of a ranking, with the precision and the recall of all points up to it. -/
structure CurvePoint (α : Type) where
  ranking : α
  point : Point
  precision : α
  sensitivity : α
  isTrue : Bool

namespace Ensemble

variable {α : Type} [Exponential α]

/-- The curve along points in order, where those in `before` have been passed. Without a true point
precision and recall are zero. -/
def curveFrom (truth before : PointSet) : List (Point × α) → List (CurvePoint α)
  | [] => []
  | (point, ranking) :: rest =>
    let passed := before.insert point
    let (precision, sensitivity) :=
      if truth.isEmpty then (0, 0)
      else (Score.precisionOf passed truth, Score.sensitivityOf passed truth)
    ⟨ranking, point, precision, sensitivity, truth.contains point⟩ :: curveFrom truth passed rest

/-- The points of an ensemble, the most probable first; equally probable ones keep their order. -/
def ranked (ensemble : Ensemble α) : List (Point × α) :=
  ensemble.ranking.mergeSort fun left right => Scalar.sortsBefore right.2 left.2

/-- Precision and recall along the ranking of an ensemble. -/
def curve (ensemble : Ensemble α) (truth : PointSet) : List (CurvePoint α) :=
  curveFrom truth ∅ ensemble.ranked

/-- How far a probability and its complement lie apart. -/
def certainty (probability : α) : α := Scalar.abs (probability - (1 - probability))

/-- The less certain of the best candidate so far and the next point of the pool; of equals, the
next. -/
def lessCertain (pool : PointSet) (best : Option (Point × α)) (next : Point × α) :
    Option (Point × α) :=
  if !pool.contains next.1 then best
  else
    let certainty := certainty next.2
    match best with
    | none => some (next.1, certainty)
    | some (_, lowest) => if certainty ≤ lowest then some (next.1, certainty) else best

/-- The point of a pool that an ensemble is least certain about; of equals, the last. -/
def leastCertain? (ensemble : Ensemble α) (pool : PointSet) : Option Point :=
  (ensemble.ranking.foldl (lessCertain pool) none).map (·.1)

end Ensemble

end MotifVote
