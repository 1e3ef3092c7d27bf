import MotifVote.Proofs.Learning.Course
import MotifVote.Proofs.Scalar.Order

/-!
# Scores only observe

What is scored in a run, and how, has no effect on what is learned in it. Nor has the number of
steps that are still to come: a longer run begins with the rows and with the labels of a shorter
one.
-/

namespace MotifVote.LearningSettings

variable {α : Type} [Exponential α]

section Scores

variable {settings other : LearningSettings α} {thresholds otherThresholds : List α}
variable {truth scoredTruth : PointSet} {learner : Learner α} {step left otherLeft : Nat}

/-- Precision and recall depend on the step and the threshold of a row only, and not on what else
is scored. -/
theorem score_eq_of_mem_scores (sameUpdate : settings.update = other.update)
    {row otherRow : ResultRow α}
    (member : row ∈ settings.scores thresholds truth scoredTruth step learner left)
    (otherMember : otherRow ∈ other.scores otherThresholds truth scoredTruth step learner otherLeft)
    (sameStep : row.step = otherRow.step) (sameThreshold : row.threshold = otherRow.threshold) :
    row.score.precision = otherRow.score.precision ∧
      row.score.sensitivity = otherRow.score.sensitivity := by
  rcases mem_scores settings thresholds truth scoredTruth member with ⟨later, threshold, rfl⟩
  rcases mem_scores other otherThresholds truth scoredTruth otherMember with
    ⟨otherLater, otherThreshold, rfl⟩
  have sameLater : later = otherLater := Nat.add_left_cancel sameStep
  have same : threshold = otherThreshold := sameThreshold
  subst sameLater same
  rw [sameUpdate]
  exact ⟨rfl, rfl⟩

/-- How many steps there are is no part of a score. -/
theorem scores_of_steps (steps : Nat) :
    { settings with steps }.scores thresholds truth scoredTruth step learner left =
      settings.scores thresholds truth scoredTruth step learner left := by
  induction left generalizing step learner with
  | zero => rfl
  | succ left ih =>
      rw [scores_succ, scores_succ, ih]
      rfl

/-- Fewer steps have the scores that more begin with. -/
theorem scores_eq_take (first more steps : Nat) :
    settings.scores thresholds truth scoredTruth step learner first =
      ({ settings with steps }.scores thresholds truth scoredTruth step learner
        (first + more)).take (first * thresholds.length) := by
  have same : { settings with steps }.scores thresholds truth scoredTruth step learner
      (first + more) = settings.scores thresholds truth scoredTruth step learner (first + more) :=
    scores_of_steps steps
  rw [same, scores_add,
    List.take_left' (settings.length_scores thresholds truth scoredTruth step learner first)]

end Scores

/-- Runs that differ only in what is scored learn the same from the same labels, and give the same
precision and recall at a step and a threshold that both score. A run with more steps continues
the rows and the labels of a run with fewer. -/
theorem run_observes (settings : LearningSettings α) (ensemble : Ensemble α) (truth : PointSet)
    (partition : Partition) (defaultThreshold : α) :
    (∀ (thresholds : List α) (beta otherDefault : α), ∃ outcome other,
      settings.run ensemble truth partition defaultThreshold = .ok outcome ∧
      { settings with thresholds, beta }.run ensemble truth partition otherDefault = .ok other ∧
      outcome.LearnsLike other ∧
      ∀ row ∈ outcome.rows, ∀ otherRow ∈ other.rows,
        row.step = otherRow.step → row.threshold = otherRow.threshold →
          row.score.precision = otherRow.score.precision ∧
            row.score.sensitivity = otherRow.score.sensitivity) ∧
    ∀ steps, settings.steps ≤ steps → ∃ outcome longer,
      settings.run ensemble truth partition defaultThreshold = .ok outcome ∧
      { settings with steps }.run ensemble truth partition defaultThreshold = .ok longer ∧
      outcome.rows =
        longer.rows.take (settings.steps * (settings.thresholdsOr defaultThreshold).length) ∧
      outcome.reveals <+: longer.reveals := by
  constructor
  · intro thresholds beta otherDefault
    refine ⟨_, _, settings.run_eq .., run_eq .., ⟨rfl, rfl, rfl⟩, ?_⟩
    intro row member otherRow otherMember
    have sameUpdate : settings.update = { settings with thresholds, beta }.update := rfl
    exact score_eq_of_mem_scores sameUpdate member otherMember
  · intro steps atMost
    rcases Nat.exists_eq_add_of_le atMost with ⟨more, rfl⟩
    refine ⟨_, _, settings.run_eq .., run_eq .., ?_, ?_⟩
    · exact scores_eq_take settings.steps more (settings.steps + more)
    · -- A run without steps has no last step that only scores.
      rcases settings.steps with _ | first
      · exact List.nil_prefix
      · have position : first + 1 + more - 1 = first + 1 - 1 + more := by omega
        simp only [position, Learner.reveals_add]
        exact List.prefix_append _ _

/-- Two steps at two thresholds against two steps at one of them, and against four steps. The first
of the two labels is the only one that the shorter run asks for. -/
theorem run_observes_four_points :
    let settings : LearningSettings Rat := ⟨2, [1 / 4, 3 / 4], 1, .default⟩
    let truth : PointSet := .ofList [(⟨"a", 1⟩ : Point)]
    let partition : Partition := .whole Ensemble.ofFourPoints.domain
    (∃ outcome other,
      settings.run .ofFourPoints truth partition (1 / 100) = .ok outcome ∧
      { settings with thresholds := [3 / 4], beta := 2 }.run .ofFourPoints truth partition
        (1 / 2) = .ok other ∧
      outcome.LearnsLike other ∧
      ∃ row ∈ outcome.rows, ∃ otherRow ∈ other.rows, row.step = 1 ∧ otherRow.step = 1 ∧
        row.threshold = 3 / 4 ∧ otherRow.threshold = 3 / 4 ∧
        row.score.precision = otherRow.score.precision) ∧
    2 ≤ 4 ∧ ∃ outcome longer,
      settings.run .ofFourPoints truth partition (1 / 100) = .ok outcome ∧
      { settings with steps := 4 }.run .ofFourPoints truth partition (1 / 100) = .ok longer ∧
      outcome.rows = longer.rows.take 4 ∧ outcome.reveals <+: longer.reveals := by
  intro settings truth partition
  have both := run_observes settings .ofFourPoints truth partition (1 / 100)
  constructor
  · rcases both.1 [3 / 4] 2 (1 / 2) with ⟨outcome, other, ran, otherRan, alike, sameScore⟩
    let scored (outcome : Outcome Rat) : Bool :=
      outcome.rows.any fun row => row.step = 1 ∧ row.threshold = 3 / 4
    have rows : (settings.run .ofFourPoints truth partition (1 / 100)).toOption.map scored =
        some true := by
      decide +kernel
    have otherRows : ({ settings with thresholds := [3 / 4], beta := 2 }.run .ofFourPoints truth
        partition (1 / 2)).toOption.map scored = some true := by
      decide +kernel
    simp only [ran, otherRan, Except.toOption, Option.map_some, Option.some.injEq, scored,
      List.any_eq_true, decide_eq_true_eq] at rows otherRows
    rcases rows with ⟨row, member, step, threshold⟩
    rcases otherRows with ⟨otherRow, otherMember, otherStep, otherThreshold⟩
    have score := sameScore row member otherRow otherMember (step.trans otherStep.symm)
      (threshold.trans otherThreshold.symm)
    exact ⟨outcome, other, ran, otherRan, alike, row, member, otherRow, otherMember, step,
      otherStep, threshold, otherThreshold, score.1⟩
  · rcases both.2 4 (by decide) with ⟨outcome, longer, ran, longerRan, rows, reveals⟩
    exact ⟨by decide, outcome, longer, ran, longerRan, rows, reveals⟩

end MotifVote.LearningSettings
