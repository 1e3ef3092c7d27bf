import MotifVote.Ensemble.Matrix
import MotifVote.Scalar

/-!
# Weighted votes

Each motif has a coverage, which stays, and an estimate of its rate of false positives, which is
multiplied by a factor with every label revealed. Its weight is its coverage less twice its rate.
A point is judged by the sum of the weights of the motifs that select it against the sum of those
that do not, both in parts of the largest of all these sums.
-/

namespace MotifVote

/-- Motifs with weights. -/
structure WeightedVote (α : Type) where
  matrix : InclusionMatrix
  coverage : List α
  /-- The rate of false positives of each motif. -/
  rates : List α

namespace WeightedVote

variable {α : Type} [Exponential α]

/-- The part that each motif has in the motifs, by its points. -/
def coverageOf (matrix : InclusionMatrix) : List α :=
  matrix.selectionSizes.map fun size => ((size : Nat) : α) / ((matrix.motifs.length : Nat) : α)

/-- A vote without observations. Every rate starts at the one given, or else where the weight of
the motif is one. -/
def ofMatrix (matrix : InclusionMatrix) (rate : Option α) : WeightedVote α :=
  let coverage := coverageOf matrix
  let rates :=
    match rate with
    | some rate => coverage.map fun _ => rate
    | none => coverage.map fun covered => (covered - 1) / Scalar.two
  ⟨matrix, coverage, rates⟩

/-- The weight of each motif. -/
def weights (vote : WeightedVote α) : List α :=
  List.zipWith (fun covered rate => covered - Scalar.two * rate) vote.coverage vote.rates

/-- The sum of the weights of the motifs that select a point, and of those that do not. -/
def scores (weights : List α) (row : List Bool) : α × α :=
  (row.zip weights).foldl
    (fun (sums : α × α) (entry : Bool × α) =>
      if entry.1 then (sums.1 + entry.2, sums.2) else (sums.1, sums.2 + entry.2))
    (0, 0)

/-- What the sums are divided by: the largest of them, unless that is zero or no finite number. -/
def normalizer (scores : List (α × α)) : α :=
  match Scalar.largest? (scores.map (·.1) ++ scores.map (·.2)) with
  | some largest => if Scalar.isFinite largest && !(largest == 0) then largest else 1
  | none => 1

/-- The probability that belongs to the two sums of a point. -/
def probability (normalizer : α) (score : α × α) : α :=
  let plus := Exponential.exp (score.1 / normalizer)
  let minus := Exponential.exp (score.2 / normalizer)
  plus / (plus + minus)

/-- The probability of each point. -/
def probabilities (vote : WeightedVote α) : List α :=
  let scores := vote.matrix.rows.map (scores vote.weights)
  scores.map (probability (normalizer scores))

/-- What the rate of a motif is multiplied by when a label is revealed. -/
def factor (label : Bool) (learningRate discount scale : α) (selects : Bool) : α :=
  let vote : α := if selects then 1 else 0
  let signal := if label then vote * -scale else vote
  Exponential.exp (-learningRate * signal * discount)

/-- The vote after one more label has been revealed. -/
def observe (vote : WeightedVote α) (row : Nat) (label : Bool) (learningRate discount scale : α) :
    WeightedVote α :=
  { vote with
    rates := List.zipWith
      (fun rate selects => rate * factor label learningRate discount scale selects)
      vote.rates (vote.matrix.row row) }

end WeightedVote

end MotifVote
