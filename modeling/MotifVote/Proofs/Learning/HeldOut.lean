import MotifVote.Proofs.Learning.Course
import MotifVote.Proofs.Scalar.Order

/-!
# Labels that are held out

A run is handed all labels, but it learns only from those of the points that may be learned from,
and it scores only those of the documents that are scored. So two sets of true points that differ
elsewhere cannot be told apart by what a run leads to. With the splits of a dataset, what is learned
depends on the labels of the training documents alone.

Two runs on such sets are followed side by side: as long as both have the same learner, they ask
for the same point, get the same label, and so have the same learner again.
-/

namespace MotifVote

variable {α : Type} [Exponential α]

/-- Two sets have the same points of some documents. -/
def PointSet.AgreeIn (documents : Std.TreeSet String) (points others : PointSet) : Prop :=
  ∀ point, point.document ∈ documents → (point ∈ points ↔ point ∈ others)

namespace PointSet

variable {points others : PointSet}

/-- Sets that agree where a test holds cannot be told apart by what passes the test. -/
theorem filter_toList_eq_iff (keeps : Point → Bool) :
    points.toList.filter keeps = others.toList.filter keeps ↔
      ∀ point, keeps point = true → (point ∈ points ↔ point ∈ others) := by
  constructor
  · intro same point kept
    have both : point ∈ points.toList.filter keeps ↔ point ∈ others.toList.filter keeps := by
      rw [same]
    simpa [kept] using both
  · intro same
    rw [← Std.TreeSet.toList_filter, ← Std.TreeSet.toList_filter]
    apply toList_eq_of_mem_iff
    intro point
    rw [← Std.TreeSet.mem_toList, ← Std.TreeSet.mem_toList, Std.TreeSet.toList_filter,
      Std.TreeSet.toList_filter, List.mem_filter, List.mem_filter, Std.TreeSet.mem_toList,
      Std.TreeSet.mem_toList]
    exact and_congr_left (same point)

instance (documents : Std.TreeSet String) : Decidable (AgreeIn documents points others) :=
  decidable_of_iff _ (filter_toList_eq_iff fun point => documents.contains point.document)

end PointSet

namespace Learner

variable {learner : Learner α} {truth other : PointSet}

theorem reveal?_congr
    (agree : ∀ point ∈ learner.partition.learnable, (point ∈ truth ↔ point ∈ other)) (step : Nat) :
    learner.reveal? truth step = learner.reveal? other step := by
  refine Option.map_congr ?_
  intro point asked
  have same : truth.contains point = other.contains point := by
    rw [Bool.eq_iff_iff]
    exact agree point (Ensemble.leastCertain?_eq_some asked).1
  rw [same]

theorem advance_congr (settings : UpdateSettings α)
    (agree : ∀ point ∈ learner.partition.learnable, (point ∈ truth ↔ point ∈ other)) (step : Nat) :
    learner.advance settings truth step = learner.advance settings other step := by
  simp only [advance, reveal?_congr agree step]

theorem mem_learnable_of_mem_advance {settings : UpdateSettings α} {step : Nat} {point : Point}
    (member : point ∈ (learner.advance settings truth step).partition.learnable) :
    point ∈ learner.partition.learnable := by
  rcases asked : learner.reveal? truth step with _ | reveal
  · rwa [advance_of_reveal?_eq_none asked] at member
  · rw [advance_of_reveal?_eq_some asked, partition_learn, Std.TreeSet.mem_erase] at member
    exact member.2

/-- Sets that agree on all that may be learned from do so after a step. -/
theorem agree_advance {settings : UpdateSettings α} {step : Nat}
    (agree : ∀ point ∈ learner.partition.learnable, (point ∈ truth ↔ point ∈ other)) :
    ∀ point ∈ (learner.advance settings truth step).partition.learnable,
      (point ∈ truth ↔ point ∈ other) :=
  fun point member => agree point (mem_learnable_of_mem_advance member)

/-- Labels of points that may not be learned from have no part in the course of a learner. -/
theorem course_congr (settings : UpdateSettings α)
    (agree : ∀ point ∈ learner.partition.learnable, (point ∈ truth ↔ point ∈ other))
    (step left : Nat) :
    reveals settings truth step learner left = reveals settings other step learner left ∧
      course settings truth step learner left = course settings other step learner left := by
  induction left generalizing step learner with
  | zero => exact ⟨rfl, rfl⟩
  | succ left ih =>
      -- Both are at the same learner here, so both ask for the same point and get the same label.
      rcases ih (agree_advance agree) (step + 1) with ⟨sameReveals, sameCourse⟩
      rw [reveals_succ, reveals_succ, course_succ, course_succ, ← reveal?_congr agree,
        ← advance_congr settings agree, sameReveals, sameCourse]
      exact ⟨rfl, rfl⟩

end Learner

namespace LearningSettings

theorem scores_congr (settings : LearningSettings α) (thresholds : List α)
    {learner : Learner α} {truth other : PointSet}
    (agree : ∀ point ∈ learner.partition.learnable, (point ∈ truth ↔ point ∈ other))
    (scoredTruth : PointSet) (step left : Nat) :
    settings.scores thresholds truth scoredTruth step learner left =
      settings.scores thresholds other scoredTruth step learner left := by
  induction left generalizing step learner with
  | zero => rfl
  | succ left ih =>
      rw [scores_succ, scores_succ, ih (Learner.agree_advance agree),
        Learner.advance_congr settings.update agree]

end LearningSettings

namespace Partition

/-- What counts for scores of a set is all that is seen of it. -/
theorem scoredPoints_toList_congr {partition : Partition} {points others : PointSet}
    (same : ∀ point, partition.isScored point = true → (point ∈ points ↔ point ∈ others)) :
    partition.scoredPoints points.toList = partition.scoredPoints others.toList := by
  rw [scoredPoints, scoredPoints, (PointSet.filter_toList_eq_iff partition.isScored).mpr same]

section Splits

variable {domain : List Point} {dataset : Dataset} (splits : dataset.hasSplits = true)
include splits

theorem document_mem_train {point : Point} (member : point ∈ (ofDataset domain dataset).learnable) :
    point.document ∈ dataset.locatorsIn .train := by
  simp only [ofDataset, splits, Bool.not_true, Bool.false_eq_true, if_false,
    Std.TreeSet.mem_ofList, List.contains_iff_mem, List.mem_filter,
    Std.TreeSet.contains_iff_mem] at member
  exact member.2

theorem isScored_ofDataset (point : Point) :
    (ofDataset domain dataset).isScored point = true ↔
      point.document ∈ dataset.locatorsIn .test := by
  simp only [isScored, ofDataset, splits, Bool.not_true, Bool.false_eq_true, if_false,
    Std.TreeSet.contains_iff_mem]

end Splits

end Partition

namespace LearningSettings

/-- What a run learns depends on the labels it may learn from, and its outcome on these and on the
ones it is scored by. -/
theorem run_congr (settings : LearningSettings α) (ensemble : Ensemble α) {partition : Partition}
    (defaultThreshold : α) {truth other : PointSet}
    (agree : ∀ point ∈ partition.learnable, (point ∈ truth ↔ point ∈ other)) :
    ∃ outcome otherOutcome,
      settings.run ensemble truth partition defaultThreshold = .ok outcome ∧
      settings.run ensemble other partition defaultThreshold = .ok otherOutcome ∧
      outcome.LearnsLike otherOutcome ∧
      ((∀ point, partition.isScored point = true → (point ∈ truth ↔ point ∈ other)) →
        outcome = otherOutcome) := by
  have agreeAtStart : ∀ point ∈ (Learner.mk ensemble partition).partition.learnable,
      (point ∈ truth ↔ point ∈ other) := agree
  rcases Learner.course_congr settings.update agreeAtStart 0 (settings.steps - 1) with
    ⟨sameReveals, sameCourse⟩
  refine ⟨_, _, run_eq .., run_eq .., ⟨sameReveals, ?_, ?_⟩, ?_⟩
  · exact congrArg Learner.ensemble sameCourse
  · exact congrArg Learner.partition sameCourse
  · intro sameScored
    rw [sameReveals, sameCourse, settings.scores_congr _ agreeAtStart,
      Partition.scoredPoints_toList_congr sameScored]

/-- Two sets of true points that agree on all that may be learned from lead to the same labels, the
same ensemble and the same partition; if they also agree in what is scored, to the same outcome.
With the splits of a dataset they need to agree in its training documents, and in its test
documents. -/
theorem run_ignores_held_out (settings : LearningSettings α) (ensemble : Ensemble α)
    (defaultThreshold : α) :
    (∀ (partition : Partition) (truth other : PointSet),
      (∀ point ∈ partition.learnable, (point ∈ truth ↔ point ∈ other)) →
      ∃ outcome otherOutcome,
        settings.run ensemble truth partition defaultThreshold = .ok outcome ∧
        settings.run ensemble other partition defaultThreshold = .ok otherOutcome ∧
        outcome.LearnsLike otherOutcome ∧
        ((∀ point, partition.isScored point = true → (point ∈ truth ↔ point ∈ other)) →
          outcome = otherOutcome)) ∧
    ∀ (domain : List Point) (dataset : Dataset) (truth other : PointSet),
      dataset.hasSplits = true → PointSet.AgreeIn (dataset.locatorsIn .train) truth other →
      ∃ outcome otherOutcome,
        settings.run ensemble truth (.ofDataset domain dataset) defaultThreshold = .ok outcome ∧
        settings.run ensemble other (.ofDataset domain dataset) defaultThreshold =
          .ok otherOutcome ∧
        outcome.LearnsLike otherOutcome ∧
        (PointSet.AgreeIn (dataset.locatorsIn .test) truth other → outcome = otherOutcome) := by
  constructor
  · intro partition truth other agree
    exact settings.run_congr ensemble defaultThreshold agree
  · intro domain dataset truth other splits train
    have agree : ∀ point ∈ (Partition.ofDataset domain dataset).learnable,
        (point ∈ truth ↔ point ∈ other) :=
      fun point member => train point (Partition.document_mem_train splits member)
    rcases settings.run_congr ensemble defaultThreshold agree with
      ⟨outcome, otherOutcome, ran, otherRan, alike, equal⟩
    refine ⟨outcome, otherOutcome, ran, otherRan, alike, ?_⟩
    intro test
    apply equal
    intro point scored
    exact test point ((Partition.isScored_ofDataset splits point).mp scored)

/-- One document to learn from, one to be scored by, and one that is neither: a label of the second
cannot be learned, and a label of the third makes no difference. -/
theorem run_ignores_held_out_three_documents :
    let settings : LearningSettings Rat := ⟨3, [], 1, .default⟩
    let dataset : Dataset := ⟨[⟨"a", [.train]⟩, ⟨"b", [.test]⟩, ⟨"c", []⟩]⟩
    let domain := Ensemble.ofFourPoints.domain
    let truth : PointSet := .ofList [(⟨"a", 1⟩ : Point)]
    let withTest : PointSet := .ofList [(⟨"a", 1⟩ : Point), ⟨"b", 0⟩]
    let withRest : PointSet := .ofList [(⟨"a", 1⟩ : Point), ⟨"c", 0⟩]
    dataset.hasSplits = true ∧
    (PointSet.AgreeIn (dataset.locatorsIn .train) truth withTest ∧ ∃ outcome otherOutcome,
      settings.run .ofFourPoints truth (.ofDataset domain dataset) (1 / 100) = .ok outcome ∧
      settings.run .ofFourPoints withTest (.ofDataset domain dataset) (1 / 100) =
        .ok otherOutcome ∧
      outcome.LearnsLike otherOutcome ∧ outcome.rows.map (·.score.sensitivity) ≠
        otherOutcome.rows.map (·.score.sensitivity)) ∧
    PointSet.AgreeIn (dataset.locatorsIn .train) truth withRest ∧
      PointSet.AgreeIn (dataset.locatorsIn .test) truth withRest ∧ ∃ outcome,
        settings.run .ofFourPoints truth (.ofDataset domain dataset) (1 / 100) = .ok outcome ∧
        settings.run .ofFourPoints withRest (.ofDataset domain dataset) (1 / 100) =
          .ok outcome := by
  intro settings dataset domain truth withTest withRest
  have splits : dataset.hasSplits = true := by decide
  have testLabel : PointSet.AgreeIn (dataset.locatorsIn .train) truth withTest := by
    decide +kernel
  have restLabel : PointSet.AgreeIn (dataset.locatorsIn .train) truth withRest := by
    decide +kernel
  have notScored : PointSet.AgreeIn (dataset.locatorsIn .test) truth withRest := by
    decide +kernel
  have ignored := (run_ignores_held_out settings .ofFourPoints (1 / 100)).2 domain dataset truth
  refine ⟨splits, ⟨testLabel, ?_⟩, restLabel, notScored, ?_⟩
  · rcases ignored withTest splits testLabel with ⟨outcome, other, ran, otherRan, alike, -⟩
    let scored (outcome : Outcome Rat) : List Rat := outcome.rows.map (·.score.sensitivity)
    have recalls : (settings.run .ofFourPoints truth (.ofDataset domain dataset)
        (1 / 100)).toOption.map scored = some [0, 0, 0] := by
      decide +kernel
    have otherRecalls : (settings.run .ofFourPoints withTest (.ofDataset domain dataset)
        (1 / 100)).toOption.map scored = some [1, 1, 1] := by
      decide +kernel
    simp only [ran, otherRan, Except.toOption, Option.map_some, Option.some.injEq, scored]
      at recalls otherRecalls
    refine ⟨outcome, other, ran, otherRan, alike, ?_⟩
    rw [recalls, otherRecalls]
    decide
  · rcases ignored withRest splits restLabel with ⟨outcome, other, ran, otherRan, -, equal⟩
    rw [← equal notScored] at otherRan
    exact ⟨outcome, ran, otherRan⟩

end LearningSettings

end MotifVote
