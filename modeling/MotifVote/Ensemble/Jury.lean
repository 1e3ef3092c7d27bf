import MotifVote.Ensemble.Matrix
import MotifVote.Scalar

/-!
# Juries

Motifs as jurors of equal weight. Each has an accuracy: how often it has been right about the
points whose labels were revealed, smoothed so that no observation counts as full accuracy.
Relevant are the jurors whose accuracy reaches a threshold and who select any point at all.

A disjunction says yes to every point that a relevant juror selects. A majority vote says which
part of the relevant jurors selects a point.
-/

namespace MotifVote

/-- Motifs with what is known of their accuracy. -/
structure Jury (α : Type) where
  matrix : InclusionMatrix
  smoothing : α
  threshold : α
  /-- The points whose labels were revealed, by their rows, the oldest first. -/
  observations : List (Nat × Bool)
  /-- The accuracy of each motif. -/
  accuracies : List α

namespace Jury

variable {α : Type} [Scalar α]

/-- A jury without observations, in which every accuracy is one. -/
def ofMatrix (matrix : InclusionMatrix) (smoothing threshold : α) : Jury α :=
  ⟨matrix, smoothing, threshold, [], matrix.motifs.map fun _ => 1⟩

/-- Which motifs are relevant. -/
def relevant (jury : Jury α) : List Bool :=
  jury.accuracies.mapIdx fun column accuracy =>
    jury.threshold ≤ accuracy && !jury.matrix.columnIsEmpty column

/-- The number of relevant motifs. -/
def relevantCount (jury : Jury α) : Nat := jury.relevant.count true

/-- For each point, the number of relevant motifs that select it. -/
def votes (jury : Jury α) : List Nat :=
  jury.matrix.rows.map fun row => (List.zipWith and row jury.relevant).count true

/-- One for the points with a vote, zero for the others. -/
def disjunction (jury : Jury α) : List α :=
  jury.votes.map fun votes => if votes > 0 then 1 else 0

/-- For each point, the part of the relevant motifs that vote for it; zero if none is relevant. -/
def majority (jury : Jury α) : List α :=
  jury.votes.map fun votes =>
    if jury.relevantCount = 0 then 0
    else ((votes : Nat) : α) / ((jury.relevantCount : Nat) : α)

/-- The number of observations that a motif was right about: it selects the positives, and only
them. -/
def correct (matrix : InclusionMatrix) (observations : List (Nat × Bool)) (column : Nat) : Nat :=
  observations.countP fun (row, label) => matrix.includes row column == label

/-- The jury after one more label has been revealed. -/
def observe (jury : Jury α) (row : Nat) (label : Bool) : Jury α :=
  let observations := jury.observations ++ [(row, label)]
  let total : α := ((observations.length : Nat) : α)
  { jury with
    observations
    accuracies := (List.range jury.matrix.motifs.length).map fun column =>
      (((correct jury.matrix observations column : Nat) : α) + jury.smoothing) /
        (total + jury.smoothing) }

end Jury

end MotifVote
