import MotifVote.Learning
import MotifVote.Proofs.Ensemble.Training

/-!
# The course of active learning

A run does three things at once: it scores the ensemble, it asks for labels, and it learns from
them. Here each is a function of its own. The course says what a learner has become after some
steps, and does not mention scores; the labels that are revealed and the scores are read off it.

A run never fails, and it consists of these three. Its last step scores without asking, so the
course and the labels go one step less far than the scores.
-/

namespace MotifVote

/-- What a run changes: the ensemble, and the points that may still be learned from. -/
structure Learner (α : Type) where
  ensemble : Ensemble α
  partition : Partition

namespace Learner

variable {α : Type} [Exponential α]

/-- The label that is revealed to a learner at a step, if there is a point left to ask for. -/
def reveal? (learner : Learner α) (truth : PointSet) (step : Nat) : Option Reveal :=
  (learner.ensemble.leastCertain? learner.partition.learnable).map fun point =>
    ⟨point, truth.contains point, step⟩

/-- The learner after a label has been revealed to it, which is not revealed again. -/
def learn (learner : Learner α) (settings : UpdateSettings α) (reveal : Reveal) : Learner α where
  ensemble :=
    match learner.ensemble.update reveal.point reveal.label (settings.atStep reveal.step) with
    | .ok learned => learned
    | .error _ => learner.ensemble
  partition :=
    { learner.partition with learnable := learner.partition.learnable.erase reveal.point }

/-- The learner after a step at which it asks for a label. -/
def advance (learner : Learner α) (settings : UpdateSettings α) (truth : PointSet) (step : Nat) :
    Learner α :=
  match learner.reveal? truth step with
  | some reveal => learner.learn settings reveal
  | none => learner

/-- What becomes of a learner from a step on, in as many steps as given. -/
def course (settings : UpdateSettings α) (truth : PointSet) :
    Nat → Learner α → Nat → Learner α
  | _, learner, 0 => learner
  | step, learner, left + 1 =>
    course settings truth (step + 1) (learner.advance settings truth step) left

/-- The labels that are revealed to a learner from a step on, in as many steps as given. -/
def reveals (settings : UpdateSettings α) (truth : PointSet) :
    Nat → Learner α → Nat → List Reveal
  | _, _, 0 => []
  | step, learner, left + 1 =>
    (learner.reveal? truth step).toList ++
      reveals settings truth (step + 1) (learner.advance settings truth step) left

section Advance

variable {learner : Learner α} {settings : UpdateSettings α} {truth : PointSet} {step : Nat}

theorem advance_of_reveal?_eq_none (exhausted : learner.reveal? truth step = none) :
    learner.advance settings truth step = learner := by
  simp only [advance, exhausted]

theorem advance_of_reveal?_eq_some {reveal : Reveal}
    (asked : learner.reveal? truth step = some reveal) :
    learner.advance settings truth step = learner.learn settings reveal := by
  simp only [advance, asked]

@[simp]
theorem partition_learn (reveal : Reveal) :
    (learner.learn settings reveal).partition =
      { learner.partition with learnable := learner.partition.learnable.erase reveal.point } :=
  rfl

/-- What is asked for is a point of the ensemble that may be learned from. -/
theorem reveal?_eq_some {reveal : Reveal} (asked : learner.reveal? truth step = some reveal) :
    learner.ensemble.leastCertain? learner.partition.learnable = some reveal.point ∧
      reveal.point ∈ learner.partition.learnable ∧ reveal.point ∈ learner.ensemble.domain ∧
      reveal.label = truth.contains reveal.point ∧ reveal.step = step := by
  rcases Option.map_eq_some_iff.mp asked with ⟨point, found, rfl⟩
  rcases Ensemble.leastCertain?_eq_some found with ⟨inPool, inDomain⟩
  exact ⟨found, inPool, inDomain, rfl, rfl⟩

/-- The ensemble learns from the label, which cannot fail for one of its points. -/
theorem update_eq_ok_learn (settings : UpdateSettings α) {reveal : Reveal}
    (known : reveal.point ∈ learner.ensemble.domain) :
    learner.ensemble.update reveal.point reveal.label (settings.atStep reveal.step) =
      .ok (learner.learn settings reveal).ensemble := by
  rcases Ensemble.exists_update_eq_ok known reveal.label (settings.atStep reveal.step) with
    ⟨learned, succeeds⟩
  simp only [learn, succeeds]

end Advance

section Course

variable (settings : UpdateSettings α) (truth : PointSet)

@[simp]
theorem course_zero (step : Nat) (learner : Learner α) :
    course settings truth step learner 0 = learner :=
  rfl

theorem course_succ (step : Nat) (learner : Learner α) (left : Nat) :
    course settings truth step learner (left + 1) =
      course settings truth (step + 1) (learner.advance settings truth step) left :=
  rfl

theorem reveals_succ (step : Nat) (learner : Learner α) (left : Nat) :
    reveals settings truth step learner (left + 1) =
      (learner.reveal? truth step).toList ++
        reveals settings truth (step + 1) (learner.advance settings truth step) left :=
  rfl

theorem reveals_add (step : Nat) (learner : Learner α) (first more : Nat) :
    reveals settings truth step learner (first + more) =
      reveals settings truth step learner first ++
        reveals settings truth (step + first) (course settings truth step learner first) more := by
  induction first generalizing step learner with
  | zero => simp [reveals]
  | succ first ih =>
      rw [Nat.add_right_comm, reveals_succ, ih, reveals_succ, course_succ, List.append_assoc,
        Nat.add_right_comm step, Nat.add_assoc step first]

end Course

end Learner

namespace LearningSettings

variable {α : Type} [Exponential α]

/-- The scores of a learner from a step on, in as many steps as given. -/
def scores (settings : LearningSettings α) (thresholds : List α) (truth scoredTruth : PointSet) :
    Nat → Learner α → Nat → List (ResultRow α)
  | _, _, 0 => []
  | step, learner, left + 1 =>
    thresholds.map (settings.resultRow learner.ensemble learner.partition scoredTruth step) ++
      scores settings thresholds truth scoredTruth (step + 1)
        (learner.advance settings.update truth step) left

section Run

variable (settings : LearningSettings α) (thresholds : List α) (truth scoredTruth : PointSet)

theorem scores_succ (step : Nat) (learner : Learner α) (left : Nat) :
    settings.scores thresholds truth scoredTruth step learner (left + 1) =
      thresholds.map (settings.resultRow learner.ensemble learner.partition scoredTruth step) ++
        settings.scores thresholds truth scoredTruth (step + 1)
          (learner.advance settings.update truth step) left :=
  rfl

/-- A run from one of its steps on succeeds, with the scores, the labels and the course of its
learner. -/
theorem runFrom_eq (left step : Nat) (learner : Learner α) :
    settings.runFrom thresholds truth scoredTruth left step learner.ensemble learner.partition =
      .ok {
        rows := settings.scores thresholds truth scoredTruth step learner left
        reveals := Learner.reveals settings.update truth step learner (left - 1)
        ensemble := (Learner.course settings.update truth step learner (left - 1)).ensemble
        partition :=
          (Learner.course settings.update truth step learner (left - 1)).partition } := by
  induction left generalizing step learner with
  | zero => rfl
  | succ left ih =>
      rcases left with _ | left
      · -- The last step scores, and neither the labels nor the course go on.
        simp [runFrom, scores, Learner.reveals, pure, Except.pure]
      have rest := ih (step + 1) (learner.advance settings.update truth step)
      rw [runFrom, if_neg (Nat.succ_ne_zero left), scores_succ, Nat.add_sub_cancel,
        Learner.reveals_succ, Learner.course_succ]
      rcases asked : learner.reveal? truth step with _ | reveal
      · -- Nothing is left to ask for, so the same learner is scored again.
        have exhausted : learner.ensemble.leastCertain? learner.partition.learnable = none :=
          Option.map_eq_none_iff.mp asked
        rw [Learner.advance_of_reveal?_eq_none asked] at rest ⊢
        simp only [exhausted, rest, bind, Except.bind, pure, Except.pure]
        rfl
      · rcases Learner.reveal?_eq_some asked with ⟨query, -, known, label, rfl⟩
        have learned := Learner.update_eq_ok_learn settings.update known
        rw [Learner.advance_of_reveal?_eq_some asked] at rest ⊢
        rw [Learner.partition_learn] at rest
        simp only [query, ← label, learned, rest, bind, Except.bind, pure, Except.pure]
        rfl

theorem scores_add (step : Nat) (learner : Learner α) (first more : Nat) :
    settings.scores thresholds truth scoredTruth step learner (first + more) =
      settings.scores thresholds truth scoredTruth step learner first ++
        settings.scores thresholds truth scoredTruth (step + first)
          (Learner.course settings.update truth step learner first) more := by
  induction first generalizing step learner with
  | zero => simp [scores]
  | succ first ih =>
      rw [Nat.add_right_comm, scores_succ, ih, scores_succ, Learner.course_succ, List.append_assoc,
        Nat.add_right_comm step, Nat.add_assoc step first]

theorem length_scores (step : Nat) (learner : Learner α) (left : Nat) :
    (settings.scores thresholds truth scoredTruth step learner left).length =
      left * thresholds.length := by
  induction left generalizing step learner with
  | zero => simp [scores]
  | succ left ih => rw [scores_succ, List.length_append, List.length_map, ih, Nat.succ_mul,
      Nat.add_comm]

/-- The scores of each step stand together, one for each threshold. -/
theorem getElem?_scores (step : Nat) (learner : Learner α) {left later place : Nat}
    (taken : later < left) (inRange : place < thresholds.length) :
    (settings.scores thresholds truth scoredTruth step learner left)[
        later * thresholds.length + place]? =
      some (settings.resultRow (Learner.course settings.update truth step learner later).ensemble
        (Learner.course settings.update truth step learner later).partition scoredTruth
        (step + later) thresholds[place]) := by
  induction left generalizing step learner later with
  | zero => omega
  | succ left ih =>
      rw [scores_succ]
      rcases later with _ | later
      · rw [List.getElem?_append_left (by simpa using inRange)]
        simp [inRange]
      · -- The rows of the first step stand before those that are looked up.
        have beyond : (thresholds.map (settings.resultRow learner.ensemble learner.partition
            scoredTruth step)).length ≤ (later + 1) * thresholds.length + place := by
          rw [List.length_map, Nat.succ_mul]
          omega
        have position : (later + 1) * thresholds.length + place - thresholds.length =
            later * thresholds.length + place := by
          rw [Nat.succ_mul]
          omega
        rw [List.getElem?_append_right beyond, List.length_map, position,
          ih (step + 1) _ (Nat.lt_of_succ_lt_succ taken), Learner.course_succ,
          Nat.add_right_comm step 1, Nat.add_assoc step later]

theorem mem_scores {step : Nat} {learner : Learner α} {left : Nat} {row : ResultRow α}
    (member : row ∈ settings.scores thresholds truth scoredTruth step learner left) :
    ∃ later threshold, row = settings.resultRow
      (Learner.course settings.update truth step learner later).ensemble
      (Learner.course settings.update truth step learner later).partition scoredTruth
      (step + later) threshold := by
  induction left generalizing step learner with
  | zero => simp [scores] at member
  | succ left ih =>
      rw [scores_succ, List.mem_append, List.mem_map] at member
      rcases member with ⟨threshold, -, rfl⟩ | member
      · exact ⟨0, threshold, rfl⟩
      · rcases ih member with ⟨later, threshold, rfl⟩
        refine ⟨later + 1, threshold, ?_⟩
        rw [Learner.course_succ, Nat.add_right_comm step 1, Nat.add_assoc step later]

end Run

section Whole

variable (settings : LearningSettings α) (ensemble : Ensemble α) (truth : PointSet)
variable (partition : Partition) (defaultThreshold : α)

/-- The thresholds that every step is scored at. -/
def thresholdsOr (settings : LearningSettings α) (defaultThreshold : α) : List α :=
  if settings.thresholds.isEmpty then [defaultThreshold] else settings.thresholds

theorem run_eq :
    settings.run ensemble truth partition defaultThreshold = .ok {
      rows := settings.scores (settings.thresholdsOr defaultThreshold) truth
        (partition.scoredPoints truth.toList) 0 ⟨ensemble, partition⟩ settings.steps
      reveals := Learner.reveals settings.update truth 0 ⟨ensemble, partition⟩ (settings.steps - 1)
      ensemble := (Learner.course settings.update truth 0 ⟨ensemble, partition⟩
        (settings.steps - 1)).ensemble
      partition := (Learner.course settings.update truth 0 ⟨ensemble, partition⟩
        (settings.steps - 1)).partition } :=
  settings.runFrom_eq _ truth _ settings.steps 0 ⟨ensemble, partition⟩

end Whole

end LearningSettings

/-- Two outcomes in which the same labels have been revealed, to the same effect. -/
structure Outcome.LearnsLike {α : Type} (outcome other : Outcome α) : Prop where
  reveals : outcome.reveals = other.reveals
  ensemble : outcome.ensemble = other.ensemble
  partition : outcome.partition = other.partition

end MotifVote
