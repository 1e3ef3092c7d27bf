import MotifVote.Dataset
import MotifVote.Statistics

/-!
# Active learning

An ensemble is refined in steps. Each step scores it at every threshold; then the label of the
learnable point it is least certain about is revealed, and the ensemble learns from it. The last
step only scores, and so do steps for which no learnable point is left. Labels are revealed for
points that may be learned from, and scores count points of scored documents only.
-/

namespace MotifVote

/-- Which points may be learned from, and which documents are scored. -/
structure Partition where
  learnable : PointSet
  /-- The scored documents, unless all are. -/
  scored : Option (Std.TreeSet String)

namespace Partition

/-- Everything may be learned from, and everything is scored. -/
def whole (domain : List Point) : Partition := ⟨.ofList domain, none⟩

/-- What is in the training documents of a dataset may be learned from, and its test documents are
scored; without splits, everything is. -/
def ofDataset (domain : List Point) (dataset : Dataset) : Partition :=
  if !dataset.hasSplits then whole domain
  else
    let train := dataset.locatorsIn .train
    ⟨.ofList (domain.filter fun point => train.contains point.document),
      some (dataset.locatorsIn .test)⟩

/-- Whether a point counts for scores. -/
def isScored (partition : Partition) (point : Point) : Bool :=
  match partition.scored with
  | none => true
  | some documents => documents.contains point.document

/-- The points that count for scores. -/
def scoredPoints (partition : Partition) (points : List Point) : PointSet :=
  .ofList (points.filter partition.isScored)

end Partition

/-- A score of a strategy at a step and a threshold. -/
structure ResultRow (α : Type) where
  strategy : Strategy
  score : Score α
  step : Nat
  threshold : α

/-- A label that was revealed at a step. -/
structure Reveal where
  point : Point
  label : Bool
  step : Nat
  deriving DecidableEq, Repr

/-- What a run of active learning leads to. -/
structure Outcome (α : Type) where
  rows : List (ResultRow α)
  /-- The labels revealed, in order. -/
  reveals : List Reveal
  ensemble : Ensemble α
  partition : Partition

/-- The settings of a run. -/
structure LearningSettings (α : Type) where
  /-- The number of steps that are scored. -/
  steps : Nat
  /-- The thresholds that every step is scored at. -/
  thresholds : List α
  /-- How many times as much recall counts as precision. -/
  beta : α
  /-- How much is learned; the step is the one of the run. -/
  update : UpdateSettings α

namespace LearningSettings

variable {α : Type} [Exponential α]

/-- The number of steps for which nothing is given. -/
def defaultSteps : Nat := 10

/-- The score of an ensemble at one threshold of a step. -/
def resultRow (settings : LearningSettings α) (ensemble : Ensemble α) (partition : Partition)
    (truth : PointSet) (step : Nat) (threshold : α) : ResultRow α :=
  let predicted := partition.scoredPoints (ensemble.classified (some threshold))
  ⟨ensemble.strategy, .ofSets predicted truth settings.beta, step, threshold⟩

/-- The run from one of its steps on, with as many steps left as given. `scoredTruth` is what
counts for scores of the true points. -/
def runFrom (settings : LearningSettings α) (thresholds : List α) (truth scoredTruth : PointSet) :
    Nat → Nat → Ensemble α → Partition → Except Error (Outcome α)
  | 0, _, ensemble, partition => .ok ⟨[], [], ensemble, partition⟩
  | left + 1, step, ensemble, partition => do
    let rows := thresholds.map (settings.resultRow ensemble partition scoredTruth step)
    if left = 0 then return ⟨rows, [], ensemble, partition⟩
    match ensemble.leastCertain? partition.learnable with
    | none =>
      let outcome ← runFrom settings thresholds truth scoredTruth left (step + 1) ensemble partition
      return { outcome with rows := rows ++ outcome.rows }
    | some point =>
      let label := truth.contains point
      let learned ← ensemble.update point label (settings.update.atStep step)
      let rest := { partition with learnable := partition.learnable.erase point }
      let outcome ← runFrom settings thresholds truth scoredTruth left (step + 1) learned rest
      return { outcome with
        rows := rows ++ outcome.rows
        reveals := ⟨point, label, step⟩ :: outcome.reveals }

/-- A run of active learning. Without thresholds every step is scored at the default one. -/
def run (settings : LearningSettings α) (ensemble : Ensemble α) (truth : PointSet)
    (partition : Partition) (defaultThreshold : α) : Except Error (Outcome α) :=
  let thresholds := if settings.thresholds.isEmpty then [defaultThreshold] else settings.thresholds
  runFrom settings thresholds truth (partition.scoredPoints truth.toList) settings.steps 0 ensemble
    partition

end LearningSettings

end MotifVote
