import MotifVote.Graph.Weights
import MotifVote.Scalar.Double

/-!
# Settings

The numbers that the program can be tuned with, their defaults, and the ranges they must lie in.
-/

namespace MotifVote

/-- The settings of the program. -/
structure Config (α : Type) where
  /-- The probability from which on a point is classified as positive. -/
  classificationThreshold : α
  /-- The accuracy from which on a motif is relevant. -/
  accuracyThreshold : α
  /-- How fast rates of false positives move. -/
  learningRate : α
  /-- What is added to both sides of an accuracy. -/
  accuracySmoothing : α
  /-- Whether rates of false positives start at a value of their own for each motif. -/
  approximateRates : Bool
  /-- Where rates start otherwise. -/
  flatRate : α
  /-- The weight of edges for which none is given. -/
  defaultWeight : α
  /-- The weights of edges by label or by namespace. -/
  weights : Std.TreeMap String α
  /-- How far neighbourhoods reach. -/
  neighborhoodDistance : α

namespace Config

/-- The settings for which nothing is given. -/
def default : Config Float where
  classificationThreshold := 0.01
  accuracyThreshold := 0.7
  learningRate := 10.0
  accuracySmoothing := 1.0
  approximateRates := true
  flatRate := 0.1
  defaultWeight := 1.0
  weights := ∅
  neighborhoodDistance := 2.0

variable {α : Type} [Scalar α]

/-- The table of edge weights. -/
def edgeWeights (config : Config α) : Except SettingFault (EdgeWeights α) :=
  EdgeWeights.make config.weights config.defaultWeight

/-- Refuses a setting outside the unit interval. -/
def checkUnit (setting : String) (value : α) : Except SettingFault Unit :=
  if 0 ≤ value && value ≤ 1 then .ok () else .error (.notInUnitInterval setting (Scalar.text value))

/-- Refuses a setting that is negative or not finite. -/
def checkNonNegative (setting : String) (value : α) : Except SettingFault Unit :=
  if !Scalar.isFinite value || value < 0 then
    .error (.notFiniteNonNegative setting (Scalar.text value))
  else .ok ()

/-- Refuses settings that nothing can be computed with. Where rates start is not checked. -/
def check (config : Config α) : Except SettingFault Unit := do
  let _ ← config.edgeWeights
  checkUnit "classification_threshold" config.classificationThreshold
  checkUnit "accuracy_threshold" config.accuracyThreshold
  checkNonNegative "learning_rate" config.learningRate
  checkNonNegative "accuracy_smoothing" config.accuracySmoothing
  checkNonNegative "neighborhood_distance" config.neighborhoodDistance

end Config

end MotifVote
