import MotifVote.Proofs.Learning.Course
import MotifVote.Proofs.Scalar.Order

/-!
# What a run owes

Every step of a run is scored at every threshold. Every step but the last asks for a label, as long
as there is a point of the ensemble left that may be learned from. No point is asked for twice, and
each label is learned from once, under the number of labels that came before.

The labels of a run form a training: at each of them the ensemble that has learned the labels before
was asked, with the points that were left. What is true of a training is shown by induction on
it; that the pool lasts for the number of labels claimed is shown by counting the points left.
-/

namespace MotifVote

variable {α : Type} [Exponential α]

namespace Learner

/-- A learner is asked for points one after the other, and learns from their labels. -/
inductive Trains (settings : UpdateSettings α) (truth : PointSet) :
    Nat → Learner α → List Reveal → Learner α → Prop
  | done (step : Nat) (learner : Learner α) : Trains settings truth step learner [] learner
  | ask {step : Nat} {learner final : Learner α} {ensemble : Ensemble α} {point : Point}
      {later : List Reveal}
      (asked : learner.ensemble.leastCertain? learner.partition.learnable = some point)
      (learned : learner.ensemble.update point (truth.contains point) (settings.atStep step) =
        .ok ensemble)
      (rest : Trains settings truth (step + 1)
        ⟨ensemble, { learner.partition with
          learnable := learner.partition.learnable.erase point }⟩ later final) :
      Trains settings truth step learner (⟨point, truth.contains point, step⟩ :: later) final

namespace Trains

variable {settings : UpdateSettings α} {truth : PointSet} {step : Nat}
variable {learner final : Learner α} {reveals : List Reveal}

theorem scored_eq (trains : Trains settings truth step learner reveals final) :
    final.partition.scored = learner.partition.scored := by
  induction trains with
  | done => rfl
  | ask _ _ _ ih => exact ih

theorem map_step (trains : Trains settings truth step learner reveals final) :
    reveals.map (·.step) = List.range' step reveals.length := by
  induction trains with
  | done => rfl
  | ask _ _ _ ih => rw [List.map_cons, ih, List.length_cons, List.range'_succ]

theorem label_eq (trains : Trains settings truth step learner reveals final) :
    ∀ reveal ∈ reveals, reveal.label = truth.contains reveal.point := by
  induction trains with
  | done => simp
  | ask _ _ _ ih => exact List.forall_mem_cons.mpr ⟨rfl, ih⟩

theorem foldlM_update (trains : Trains settings truth step learner reveals final) :
    reveals.foldlM (fun ensemble reveal =>
      ensemble.update reveal.point reveal.label (settings.atStep reveal.step)) learner.ensemble =
        .ok final.ensemble := by
  induction trains with
  | done => rfl
  | ask _ learned _ ih =>
      rw [List.foldlM_cons, learned]
      exact ih

/-- What is asked for leaves the pool, and nothing else does. -/
theorem mem_learnable_iff (trains : Trains settings truth step learner reveals final)
    (point : Point) :
    point ∈ final.partition.learnable ↔
      point ∈ learner.partition.learnable ∧ point ∉ reveals.map (·.point) := by
  induction trains with
  | done => simp
  | ask _ _ _ ih =>
      rw [ih, Std.TreeSet.mem_erase, List.map_cons, List.mem_cons, ne_eq,
        Std.LawfulEqCmp.compare_eq_iff_eq, not_or, eq_comm]
      tauto

theorem mem_learnable_and_mem_domain
    (trains : Trains settings truth step learner reveals final) :
    ∀ reveal ∈ reveals,
      reveal.point ∈ learner.partition.learnable ∧ reveal.point ∈ learner.ensemble.domain := by
  induction trains with
  | done => simp
  | ask asked learned _ ih =>
      refine List.forall_mem_cons.mpr ⟨Ensemble.leastCertain?_eq_some asked, ?_⟩
      intro reveal member
      -- What is asked for later is asked of a smaller pool, and of an ensemble of the same points.
      rcases ih reveal member with ⟨inPool, inDomain⟩
      rw [Ensemble.domain_update learned] at inDomain
      exact ⟨(Std.TreeSet.mem_erase.mp inPool).2, inDomain⟩

/-- A point that has been asked for is not in the pool any more, and so is not asked for again. -/
theorem nodup (trains : Trains settings truth step learner reveals final) :
    (reveals.map (·.point)).Nodup := by
  induction trains with
  | done => exact List.nodup_nil
  | ask _ _ rest ih =>
      refine List.nodup_cons.mpr ⟨?_, ih⟩
      intro again
      rcases List.mem_map.mp again with ⟨reveal, member, same⟩
      have inPool := (rest.mem_learnable_and_mem_domain reveal member).1
      rw [same] at inPool
      simp at inPool

end Trains

/-- How many points a learner can still be asked for. -/
def available (learner : Learner α) : Nat :=
  learner.partition.learnable.toList.countP learner.ensemble.domain.contains

section Course

variable {settings : UpdateSettings α} {truth : PointSet} {learner : Learner α}

/-- Without a point to ask for, nothing happens in any number of steps. -/
theorem course_of_exhausted (settings : UpdateSettings α) (truth : PointSet)
    (exhausted : learner.ensemble.leastCertain? learner.partition.learnable = none)
    (step left : Nat) :
    reveals settings truth step learner left = [] ∧
      course settings truth step learner left = learner := by
  induction left generalizing step with
  | zero => exact ⟨rfl, rfl⟩
  | succ left ih =>
      have none : learner.reveal? truth step = none := Option.map_eq_none_iff.mpr exhausted
      rw [reveals_succ, course_succ, advance_of_reveal?_eq_none none, none]
      exact ih (step + 1)

/-- The course of a learner is a training with the labels that are revealed. -/
theorem trains_course (settings : UpdateSettings α) (truth : PointSet) (step : Nat)
    (learner : Learner α) (left : Nat) :
    Trains settings truth step learner (reveals settings truth step learner left)
      (course settings truth step learner left) := by
  induction left generalizing step learner with
  | zero => exact .done step learner
  | succ left ih =>
      rcases asked : learner.reveal? truth step with _ | reveal
      · rcases course_of_exhausted settings truth (Option.map_eq_none_iff.mp asked) step
          (left + 1) with ⟨noReveals, stays⟩
        rw [noReveals, stays]
        exact .done step learner
      · rw [reveals_succ, course_succ, advance_of_reveal?_eq_some asked, asked]
        rcases Option.map_eq_some_iff.mp asked with ⟨point, query, rfl⟩
        have learned := update_eq_ok_learn settings (reveal?_eq_some asked).2.2.1
        exact .ask query learned (ih (step + 1) _)

theorem available_eq_zero_iff (arises : learner.ensemble.Arises) :
    learner.available = 0 ↔
      learner.ensemble.leastCertain? learner.partition.learnable = none := by
  rw [arises.leastCertain?_eq_none_iff, available, List.countP_eq_zero]
  simp only [Std.TreeSet.mem_toList, List.contains_iff_mem]
  exact ⟨fun none point inDomain inPool => none point inPool inDomain,
    fun none point inPool inDomain => none point inDomain inPool⟩

/-- Every point that is asked for leaves one fewer. -/
theorem available_learn (settings : UpdateSettings α) {reveal : Reveal}
    (inPool : reveal.point ∈ learner.partition.learnable)
    (inDomain : reveal.point ∈ learner.ensemble.domain) :
    learner.available = (learner.learn settings reveal).available + 1 := by
  have sameDomain : (learner.learn settings reveal).ensemble.domain = learner.ensemble.domain :=
    Ensemble.domain_update (update_eq_ok_learn settings inDomain)
  rw [available, (toList_perm_cons_erase inPool).countP_eq,
    List.countP_cons_of_pos (List.contains_iff_mem.mpr inDomain), available, sameDomain,
    partition_learn]

/-- The labels are as many as there are steps for, or as there are points for. -/
theorem length_reveals (arises : learner.ensemble.Arises) (step left : Nat) :
    (reveals settings truth step learner left).length = min left learner.available := by
  induction left generalizing step learner with
  | zero => simp [reveals]
  | succ left ih =>
      rcases asked : learner.reveal? truth step with _ | reveal
      · -- Once nothing is left to ask for, no later step asks either.
        have exhausted := Option.map_eq_none_iff.mp asked
        rw [(course_of_exhausted settings truth exhausted step (left + 1)).1,
          (available_eq_zero_iff arises).mpr exhausted]
        rfl
      · rcases reveal?_eq_some asked with ⟨-, inPool, inDomain, -, -⟩
        have learned := update_eq_ok_learn settings inDomain
        rw [reveals_succ, advance_of_reveal?_eq_some asked, asked, List.length_append,
          ih (arises.update learned), available_learn settings inPool inDomain]
        simp only [Option.toList_some, List.length_singleton]
        omega

end Course

end Learner

/-- The account of a run with some thresholds, from its start. -/
structure Outcome.IsAccounted (settings : LearningSettings α) (thresholds : List α)
    (truth : PointSet) (start : Learner α) (outcome : Outcome α) : Prop where
  length_rows : outcome.rows.length = settings.steps * thresholds.length
  getElem?_rows : ∀ {step place : Nat} (inRange : place < thresholds.length),
    step < settings.steps → ∃ row, outcome.rows[step * thresholds.length + place]? = some row ∧
      row.step = step ∧ row.threshold = thresholds[place]
  length_reveals : outcome.reveals.length = min (settings.steps - 1) start.available
  nodup_points : (outcome.reveals.map (·.point)).Nodup
  point_mem : ∀ reveal ∈ outcome.reveals,
    reveal.point ∈ start.partition.learnable ∧ reveal.point ∈ start.ensemble.domain
  mem_learnable_iff : ∀ point, point ∈ outcome.partition.learnable ↔
    point ∈ start.partition.learnable ∧ point ∉ outcome.reveals.map (·.point)
  label_iff : ∀ reveal ∈ outcome.reveals, reveal.label = true ↔ reveal.point ∈ truth
  /-- The steps that are learned under count the labels. -/
  map_step : outcome.reveals.map (·.step) = List.range outcome.reveals.length
  /-- Each label is learned from once, in the order in which they were asked for. -/
  foldlM_update : outcome.reveals.foldlM (fun ensemble reveal =>
    ensemble.update reveal.point reveal.label (settings.update.atStep reveal.step))
      start.ensemble = .ok outcome.ensemble
  trains : Learner.Trains settings.update truth 0 start outcome.reveals
    ⟨outcome.ensemble, outcome.partition⟩
  scored_eq : outcome.partition.scored = start.partition.scored

/-- A run on an ensemble that arises from an image and from labels never fails, and has its
account. -/
theorem LearningSettings.run_isAccounted {ensemble : Ensemble α} (arises : ensemble.Arises)
    (settings : LearningSettings α) (truth : PointSet) (partition : Partition)
    (defaultThreshold : α) :
    ∃ outcome, settings.run ensemble truth partition defaultThreshold = .ok outcome ∧
      outcome.IsAccounted settings (settings.thresholdsOr defaultThreshold) truth
        ⟨ensemble, partition⟩ := by
  have trains := Learner.trains_course settings.update truth 0 ⟨ensemble, partition⟩
    (settings.steps - 1)
  refine ⟨_, settings.run_eq ensemble truth partition defaultThreshold, ?_⟩
  exact {
    length_rows := settings.length_scores ..
    getElem?_rows := by
      intro step place inRange taken
      refine ⟨_, settings.getElem?_scores _ truth _ 0 ⟨ensemble, partition⟩ taken inRange, ?_, rfl⟩
      exact Nat.zero_add step
    length_reveals := Learner.length_reveals arises 0 (settings.steps - 1)
    nodup_points := trains.nodup
    point_mem := trains.mem_learnable_and_mem_domain
    mem_learnable_iff := trains.mem_learnable_iff
    label_iff := by
      intro reveal member
      rw [trains.label_eq reveal member, Std.TreeSet.contains_iff_mem]
    map_step := by rw [trains.map_step, List.range_eq_range']
    foldlM_update := trains.foldlM_update
    trains := trains
    scored_eq := trains.scored_eq }

/-- Six steps at two thresholds have twelve rows. Of the three points that may be learned from, one
is none of the ensemble, so two labels are revealed. -/
theorem LearningSettings.run_isAccounted_four_points :
    let settings : LearningSettings Rat := ⟨6, [1 / 4, 3 / 4], 1, .default⟩
    let truth : PointSet := .ofList [(⟨"a", 1⟩ : Point)]
    let learnable : PointSet := .ofList [(⟨"a", 1⟩ : Point), ⟨"b", 0⟩, ⟨"z", 9⟩]
    Ensemble.ofFourPoints.Arises ∧ ∃ outcome,
      settings.run .ofFourPoints truth ⟨learnable, none⟩ (1 / 100) = .ok outcome ∧
      outcome.rows.length = 12 ∧ outcome.reveals.length = 2 ∧
      outcome.IsAccounted settings [1 / 4, 3 / 4] truth ⟨.ofFourPoints, learnable, none⟩ := by
  intro settings truth learnable
  have arises : Ensemble.ofFourPoints.Arises := .ofImage ..
  rcases run_isAccounted arises settings truth ⟨learnable, none⟩ (1 / 100) with
    ⟨outcome, ran, accounted⟩
  have available : (Learner.mk .ofFourPoints ⟨learnable, none⟩).available = 2 := by
    decide +kernel
  have labels := accounted.length_reveals
  rw [available] at labels
  exact ⟨arises, outcome, ran, accounted.length_rows, labels, accounted⟩

end MotifVote
