import MotifVote.Config
import MotifVote.Ensemble.Jury
import MotifVote.Ensemble.WeightedVote
import MotifVote.Name.Vocabulary

/-!
# Ensembles

The motifs of an image, combined into one probability for every point of its domain by one of three
strategies. Points are classified by comparing their probabilities with a threshold. Labels that
are revealed refine the ensemble; the strategies of a jury learn from the label alone, the weighted
vote also from the settings of the update.
-/

namespace MotifVote

/-- What a strategy knows. -/
inductive Votes (α : Type) where
  | disjunction (jury : Jury α)
  | majorityVote (jury : Jury α)
  | weightedVote (vote : WeightedVote α)

/-- Motifs combined by a strategy. -/
structure Ensemble (α : Type) where
  votes : Votes α
  classificationThreshold : α
  learningRate : α

/-- How much an ensemble learns from a label. -/
structure UpdateSettings (α : Type) where
  /-- The learning rate, unless it is the one of the ensemble. -/
  learningRate : Option α
  /-- What learning is multiplied by with every step. -/
  decay : α
  step : Nat
  /-- How much more a positive counts than a negative. -/
  scale : α

namespace UpdateSettings

variable {α : Type} [Exponential α]

/-- The settings for which nothing is given. -/
def default : UpdateSettings α := ⟨none, 1, 0, 1⟩

/-- The same settings at another step. -/
def atStep (settings : UpdateSettings α) (step : Nat) : UpdateSettings α := { settings with step }

/-- What learning is multiplied by at the step of the settings. -/
def discount (settings : UpdateSettings α) : α :=
  Exponential.pow settings.decay ((settings.step : Nat) : α)

end UpdateSettings

namespace Ensemble

variable {α : Type} [Exponential α]

/-- The ensemble of an image. -/
def ofImage (strategy : Strategy) (image : Image) (config : Config α) : Ensemble α :=
  let matrix := InclusionMatrix.ofImage image
  let jury := Jury.ofMatrix matrix config.accuracySmoothing config.accuracyThreshold
  let votes : Votes α :=
    match strategy with
    | .disjunction => .disjunction jury
    | .majorityVote => .majorityVote jury
    | .weightedVote =>
      .weightedVote
        (.ofMatrix matrix (if config.approximateRates then none else some config.flatRate))
  ⟨votes, config.classificationThreshold, config.learningRate⟩

/-- The strategy of an ensemble. -/
def strategy (ensemble : Ensemble α) : Strategy :=
  match ensemble.votes with
  | .disjunction _ => .disjunction
  | .majorityVote _ => .majorityVote
  | .weightedVote _ => .weightedVote

/-- Which motif selects which point. -/
def matrix (ensemble : Ensemble α) : InclusionMatrix :=
  match ensemble.votes with
  | .disjunction jury => jury.matrix
  | .majorityVote jury => jury.matrix
  | .weightedVote vote => vote.matrix

/-- The points of an ensemble. -/
def domain (ensemble : Ensemble α) : List Point := ensemble.matrix.points

/-- The number of motifs that take part: the relevant ones of a jury, or all. -/
def size (ensemble : Ensemble α) : Nat :=
  match ensemble.votes with
  | .disjunction jury => jury.relevantCount
  | .majorityVote jury => jury.relevantCount
  | .weightedVote vote => vote.matrix.motifs.length

/-- The probability of each point to be a positive. -/
def probabilities (ensemble : Ensemble α) : List α :=
  match ensemble.votes with
  | .disjunction jury => jury.disjunction
  | .majorityVote jury => jury.majority
  | .weightedVote vote => vote.probabilities

/-- The points with their probabilities. -/
def ranking (ensemble : Ensemble α) : List (Point × α) :=
  ensemble.domain.zip ensemble.probabilities

/-- The points whose probability reaches a threshold; without one, the threshold of the ensemble. -/
def classified (ensemble : Ensemble α) (threshold : Option α) : List Point :=
  let threshold := threshold.getD ensemble.classificationThreshold
  (ensemble.ranking.filter fun (_, probability) => threshold ≤ probability).map (·.1)

/-- The points whose probability reaches a threshold, as a set. -/
def classifiedSet (ensemble : Ensemble α) (threshold : Option α) : PointSet :=
  .ofList (ensemble.classified threshold)

/-- Whether a point is classified as positive. -/
def classifies (ensemble : Ensemble α) (point : Point) : Bool :=
  (ensemble.classified none).contains point

/-- What a strategy knows after the label of the point of a row has been revealed. -/
def observe (votes : Votes α) (row : Nat) (label : Bool) (learningRate : α)
    (settings : UpdateSettings α) : Votes α :=
  match votes with
  | .disjunction jury => .disjunction (jury.observe row label)
  | .majorityVote jury => .majorityVote (jury.observe row label)
  | .weightedVote vote =>
    .weightedVote (vote.observe row label learningRate settings.discount settings.scale)

/-- The ensemble after the label of a point has been revealed. -/
def update (ensemble : Ensemble α) (point : Point) (label : Bool) (settings : UpdateSettings α) :
    Except Error (Ensemble α) := do
  let row ← ensemble.matrix.requireRow point
  let learningRate := settings.learningRate.getD ensemble.learningRate
  return { ensemble with votes := observe ensemble.votes row label learningRate settings }

end Ensemble

end MotifVote
