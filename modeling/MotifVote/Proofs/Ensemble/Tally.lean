import MotifVote.Proofs.Ensemble.Lessons

/-!
# Juries and the order of labels

A jury counts all its labels anew whenever one is revealed. The accuracies of its motifs are
therefore those that the definition gives for all labels together: it does not matter in which order
they have been revealed, with which settings, or what has been asked in between about points that
the jury does not have.

Two juries that have counted the same labels differ in nothing but the order of their observations,
which nobody asks for when motifs are called relevant or points are classified.
-/

namespace MotifVote

open InclusionMatrix (entries)

namespace InclusionMatrix

/-- Whether a motif selects a point; false for points without a row. -/
def selects (matrix : InclusionMatrix) (point : Point) (column : Nat) : Bool :=
  ((matrix.indexOf? point).map fun row => matrix.includes row column).getD false

theorem selects_ofImage {image : Image} {point : Point} (known : point ∈ image.distinctDomain)
    (column : Nat) :
    (ofImage image).selects point column = ((entries image point)[column]?).getD false := by
  have listed : point ∈ (ofImage image).points := known
  rcases exists_requireRow_eq_ok listed with ⟨row, found⟩
  rw [selects, requireRow_eq_ok_iff.mp found, Option.map_some, Option.getD_some, includes,
    (row_of_requireRow found).2]

end InclusionMatrix

namespace Jury

variable {α : Type} [Scalar α] {config : Config α} {image : Image}
variable {labels others : List (Point × Bool)} {jury twin : Jury α}

/-- How many labels a motif is right about: it selects the points that are positives, and no others.
-/
def rightAbout (matrix : InclusionMatrix) (labels : List (Point × Bool)) (column : Nat) : Nat :=
  labels.countP fun (point, label) => matrix.selects point column == label

theorem hits_eq_rightAbout (known : ∀ entry ∈ labels, entry.1 ∈ image.distinctDomain)
    (column : Nat) : hits image labels column = rightAbout (.ofImage image) labels column := by
  apply List.countP_congr
  rintro ⟨point, label⟩ member
  simp only [InclusionMatrix.selects_ofImage (known (point, label) member)]

theorem accuraciesAfter_eq_of_perm (same : labels.Perm others) (smoothing : α) :
    accuraciesAfter image smoothing labels = accuraciesAfter image smoothing others := by
  have hits : hits image labels = hits image others := by
    funext column
    exact same.countP_eq _
  have empty : labels.isEmpty = others.isEmpty := by
    rw [Bool.eq_iff_iff, List.isEmpty_iff, List.isEmpty_iff]
    constructor
    · rintro rfl
      exact same.nil_eq.symm
    · rintro rfl
      exact same.eq_nil
  simp only [accuraciesAfter, hits, empty, same.length_eq]

/-- Juries that have seen the same labels differ at most in the order of them. -/
theorem HasLearned.eq_of_perm (left : HasLearned image config labels jury)
    (right : HasLearned image config others twin) (same : labels.Perm others) :
    twin = { jury with observations := twin.observations } := by
  have accuracies : twin.accuracies = jury.accuracies := by
    rw [left.accuracies, right.accuracies, accuraciesAfter_eq_of_perm same]
  rcases jury with ⟨matrix, smoothing, threshold, observations, _⟩
  rcases twin with ⟨twinMatrix, twinSmoothing, twinThreshold, twinObservations, _⟩
  have matrices : twinMatrix = matrix := right.matrix.trans left.matrix.symm
  have smoothings : twinSmoothing = smoothing := right.smoothing.trans left.smoothing.symm
  have thresholds : twinThreshold = threshold := right.threshold.trans left.threshold.symm
  subst matrices smoothings thresholds
  cases accuracies
  rfl

end Jury

namespace Ensemble

section Labels

variable {α : Type} {image : Image} {calls : List (Point × Bool × UpdateSettings α)}

/-- The labels that calls reveal of the points of an image. -/
def labelsOf (image : Image) (calls : List (Point × Bool × UpdateSettings α)) :
    List (Point × Bool) :=
  (calls.filter fun call => call.1 ∈ image.distinctDomain).map fun (point, label, _) =>
    (point, label)

theorem fst_mem_of_mem_labelsOf : ∀ entry ∈ labelsOf image calls,
    entry.1 ∈ image.distinctDomain := by
  intro entry member
  rcases List.mem_map.mp member with ⟨call, kept, rfl⟩
  simpa using List.of_mem_filter kept

end Labels

variable {α : Type} [Exponential α] {ensemble twin : Ensemble α} {image : Image}
variable {config : Config α} {strategy : Strategy}

/-- The jury of an ensemble that has one. -/
def jury? (ensemble : Ensemble α) : Option (Jury α) :=
  match ensemble.votes with
  | .disjunction jury => some jury
  | .majorityVote jury => some jury
  | .weightedVote _ => none

/-- Two ensembles have juries that are equally accurate, and answer alike. -/
structure Concur (ensemble twin : Ensemble α) : Prop where
  accuracies : ensemble.jury?.map (·.accuracies) = twin.jury?.map (·.accuracies)
  relevant : ensemble.jury?.map (·.relevant) = twin.jury?.map (·.relevant)
  size : ensemble.size = twin.size
  probabilities : ensemble.probabilities = twin.probabilities
  classified : ∀ threshold, ensemble.classified threshold = twin.classified threshold

section Calls

variable {point : Point} {label : Bool} {settings : UpdateSettings α}

/-- Calls are successful for the points of the ensemble; the others leave it as it is, wherever they
stand. -/
theorem learn_filter_eq_ok (ensemble : Ensemble α)
    (calls : List (Point × Bool × UpdateSettings α)) :
    ensemble.learn (calls.filter fun call => call.1 ∈ ensemble.domain) =
      .ok (ensemble.attempt calls) := by
  induction calls generalizing ensemble with
  | nil => rfl
  | cons call calls ih =>
      rcases call with ⟨point, label, settings⟩
      by_cases known : point ∈ ensemble.domain
      · rcases exists_update_eq_ok known label settings with ⟨next, success⟩
        have rest := ih next
        simp only [domain_update success] at rest
        rw [List.filter_cons_of_pos (by simpa using known), attempt_of_update success]
        simp only [learn, List.foldlM_cons, success, bind, Except.bind]
        exact rest
      · rw [List.filter_cons_of_neg (by simpa using known), attempt_of_not_mem known]
        exact ih ensemble

end Calls

section Order

variable {lessons others : List (Point × Bool × UpdateSettings α)}

theorem HasLearned.exists_jury (learned : HasLearned strategy image config lessons ensemble)
    (juries : strategy ≠ .weightedVote) :
    ∃ jury, ensemble.jury? = some jury ∧
      jury.HasLearned image config (lessons.map fun (point, label, _) => (point, label)) := by
  rcases ensemble with ⟨votes, _, _⟩
  rcases learned with ⟨votesLearned, -, -⟩
  cases votesLearned with
  | disjunction jury => exact ⟨_, rfl, jury⟩
  | majorityVote jury => exact ⟨_, rfl, jury⟩
  | weightedVote vote => exact absurd rfl juries

/-- What a jury has learned and how it classifies is a matter of which labels it has seen how often.
-/
theorem HasLearned.concur (juries : strategy ≠ .weightedVote)
    (left : HasLearned strategy image config lessons ensemble)
    (right : HasLearned strategy image config others twin)
    (same : (lessons.map fun (point, label, _) => (point, label)).Perm
      (others.map fun (point, label, _) => (point, label))) : ensemble.Concur twin := by
  rcases ensemble with ⟨votes, threshold, rate⟩
  rcases twin with ⟨twinVotes, twinThreshold, twinRate⟩
  rcases left with ⟨votesLeft, rfl, rfl⟩
  rcases right with ⟨votesRight, rfl, rfl⟩
  cases votesLeft with
  | disjunction jury =>
      cases votesRight with
      | disjunction twin =>
          rw [jury.eq_of_perm twin same]
          exact ⟨rfl, rfl, rfl, rfl, fun _ => rfl⟩
  | majorityVote jury =>
      cases votesRight with
      | majorityVote twin =>
          rw [jury.eq_of_perm twin same]
          exact ⟨rfl, rfl, rfl, rfl, fun _ => rfl⟩
  | weightedVote vote => exact absurd rfl juries

/-- A jury of an image, disjunction or majority vote, is asked to learn the labels of some points.
It refuses exactly the points that it does not have, and is then as if it had not been asked. After
one label or more, the accuracy of each motif is the part of the labels that it was right about,
smoothed. Whoever else reveals the same labels, in whatever order, with whatever settings and with
whatever refused calls in between, ends with the same accuracies, the same relevant motifs, the same
probabilities, and the same points at every threshold. -/
theorem attempt_tallies (juries : strategy ≠ .weightedVote) (image : Image) (config : Config α)
    (calls : List (Point × Bool × UpdateSettings α)) :
    let ensemble := (ofImage strategy image config).attempt calls
    let labels := labelsOf image calls
    let total : α := ((labels.length : Nat) : α)
    (∀ point label settings error, ensemble.update point label settings = .error error ↔
      point ∉ image.distinctDomain ∧
        error = .pointNotInDomain point.document point.identifier) ∧
    (ofImage strategy image config).learn
      (calls.filter fun call => call.1 ∈ image.distinctDomain) = .ok ensemble ∧
    (∃ jury, ensemble.jury? = some jury ∧ (labels ≠ [] → jury.accuracies =
      (List.range ensemble.matrix.motifs.length).map fun column =>
        (((Jury.rightAbout ensemble.matrix labels column : Nat) : α) + config.accuracySmoothing) /
          (total + config.accuracySmoothing))) ∧
    ∀ others, (labelsOf image others).Perm labels →
      ensemble.Concur ((ofImage strategy image config).attempt others) := by
  intro ensemble labels total
  have started := hasLearned_ofImage strategy image config
  have learned := started.attempt calls
  have successful := learn_filter_eq_ok (ofImage strategy image config) calls
  simp only [started.domain] at successful
  refine ⟨?_, successful, ?_, ?_⟩
  · intro point label settings error
    rw [update_eq_error_iff, learned.domain]
  · rcases learned.exists_jury juries with ⟨jury, found, counted⟩
    refine ⟨jury, found, ?_⟩
    intro nonempty
    have matrix : ensemble.matrix = .ofImage image := learned.matrix
    have hits : Jury.hits image labels = Jury.rightAbout (.ofImage image) labels := by
      funext column
      exact Jury.hits_eq_rightAbout fst_mem_of_mem_labelsOf column
    have accuracies : jury.accuracies =
        Jury.accuraciesAfter image config.accuracySmoothing labels := counted.accuracies
    rw [accuracies, Jury.accuraciesAfter, if_neg (by simpa using nonempty), hits, matrix]
    rfl
  · intro others same
    exact learned.concur juries (started.attempt others) same.symm

/-- A majority vote of two motifs learns from one point three times, with contradictory labels, and
is asked about a point that it does not have. The labels are then revealed the other way round. -/
theorem attempt_tallies_contradictory_labels :
    let image : Image := ⟨[⟨.ofVertex 0, [⟨"a", 0⟩, ⟨"a", 1⟩]⟩, ⟨.ofVertex 1, [⟨"a", 1⟩]⟩]⟩
    let calls : List (Point × Bool × UpdateSettings Rat) := [(⟨"a", 0⟩, true, .default),
      (⟨"b", 7⟩, true, .default), (⟨"a", 0⟩, true, .default), (⟨"a", 0⟩, false, .default)]
    let others : List (Point × Bool × UpdateSettings Rat) := [(⟨"a", 0⟩, false, .default),
      (⟨"a", 0⟩, true, ⟨some 3, 1 / 2, 4, 2⟩), (⟨"a", 0⟩, true, .default)]
    let ensemble := (ofImage .majorityVote image .rational).attempt calls
    Strategy.majorityVote ≠ .weightedVote ∧
      labelsOf image calls ≠ [] ∧ (labelsOf image others).Perm (labelsOf image calls) ∧
      (∃ jury, ensemble.jury? = some jury ∧ jury.accuracies = [3 / 4, 1 / 2]) ∧
      ensemble.update ⟨"b", 7⟩ true .default = .error (.pointNotInDomain "b" 7) ∧
      ensemble.Concur ((ofImage .majorityVote image .rational).attempt others) := by
  intro image calls others ensemble
  have juries : Strategy.majorityVote ≠ .weightedVote := by decide
  have nonempty : labelsOf image calls ≠ [] := by decide +kernel
  have same : (labelsOf image others).Perm (labelsOf image calls) := by decide +kernel
  rcases attempt_tallies juries image .rational calls with
    ⟨refused, -, ⟨jury, found, tallied⟩, alike⟩
  refine ⟨juries, nonempty, same, ⟨jury, found, ?_⟩, ?_, alike others same⟩
  · exact (tallied nonempty).trans (by decide +kernel)
  · exact (refused _ _ _ _).mpr ⟨by decide +kernel, rfl⟩

end Order

end Ensemble

end MotifVote
