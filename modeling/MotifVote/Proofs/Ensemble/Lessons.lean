import MotifVote.Proofs.Ensemble.Disjunction
import MotifVote.Proofs.Ensemble.Training

/-!
# What ensembles have learned

An ensemble remembers labels by the rows of their points, and a jury counts them anew each time.
What it has learned is nevertheless a matter of the labels and of the motifs that select their
points, however the rows are numbered: how often a motif was right, and what the rates of false
positives have been multiplied by.

The probability of a point then follows from the motifs that select it.
-/

namespace MotifVote

open InclusionMatrix (entries)

namespace Image

variable {image : Image} {point : Point}

theorem nodup_firstSeen (seen : PointSet) (points : List Point) :
    (firstSeen seen points).Nodup := by
  induction points generalizing seen with
  | nil => exact List.nodup_nil
  | cons first points ih =>
      rw [firstSeen]
      split
      · exact ih seen
      · refine List.nodup_cons.mpr ⟨?_, ih _⟩
        rw [mem_firstSeen_iff]
        rintro ⟨-, fresh⟩
        exact fresh Std.TreeSet.mem_insert_self

theorem nodup_distinctDomain (image : Image) : image.distinctDomain.Nodup :=
  nodup_firstSeen ∅ image.domain

end Image

namespace InclusionMatrix

variable {image : Image} {point : Point} {row : Nat}

theorem length_entries (image : Image) (point : Point) :
    (entries image point).length = image.motifs.length := by
  simp [entries, selections]

/-- The row that is found for a point has the entries of this point. -/
theorem row_of_requireRow (found : (ofImage image).requireRow point = .ok row) :
    point ∈ image.distinctDomain ∧ (ofImage image).row row = entries image point := by
  rcases List.idxOf?_eq_some_iff.mp (requireRow_eq_ok_iff.mp found) with ⟨bound, here, -⟩
  have listed : image.distinctDomain[row]? = some point :=
    List.getElem?_eq_some_iff.mpr ⟨bound, here⟩
  refine ⟨List.mem_of_getElem? listed, ?_⟩
  rw [InclusionMatrix.row, rows_ofImage, List.getElem?_map, listed]
  rfl

end InclusionMatrix

namespace Jury

variable {α : Type} [Scalar α] {config : Config α} {image : Image} {labels : List (Point × Bool)}
variable {jury : Jury α} {point : Point} {row : Nat}

/-- The number of labels that a motif is right about. -/
def hits (image : Image) (labels : List (Point × Bool)) (column : Nat) : Nat :=
  labels.countP fun (point, label) => ((entries image point)[column]?).getD false == label

/-- The accuracy of each motif after some labels. -/
def accuraciesAfter (image : Image) (smoothing : α) (labels : List (Point × Bool)) : List α :=
  if labels.isEmpty then image.motifs.map fun _ => 1
  else (List.range image.motifs.length).map fun column =>
    (((hits image labels column : Nat) : α) + smoothing) /
      (((labels.length : Nat) : α) + smoothing)

/-- A jury of an image has seen some labels and no others. -/
structure HasLearned (image : Image) (config : Config α) (labels : List (Point × Bool))
    (jury : Jury α) : Prop where
  matrix : jury.matrix = .ofImage image
  smoothing : jury.smoothing = config.accuracySmoothing
  threshold : jury.threshold = config.accuracyThreshold
  length_observations : jury.observations.length = labels.length
  correct : ∀ column, correct jury.matrix jury.observations column = hits image labels column
  accuracies : jury.accuracies = accuraciesAfter image config.accuracySmoothing labels

theorem hasLearned_ofImage (image : Image) (config : Config α) :
    HasLearned image config [] (ofImage image config) :=
  ⟨rfl, rfl, rfl, rfl, fun _ => rfl, rfl⟩

/-- One more label is counted for the motifs that are right about it. -/
theorem HasLearned.observe (learned : HasLearned image config labels jury)
    (found : jury.matrix.requireRow point = .ok row) (label : Bool) :
    HasLearned image config (labels ++ [(point, label)]) (jury.observe row label) := by
  have recorded : jury.matrix.row row = entries image point := by
    rw [learned.matrix] at found ⊢
    exact (InclusionMatrix.row_of_requireRow found).2
  have counted : ∀ column, Jury.correct jury.matrix (jury.observations ++ [(row, label)]) column =
      hits image (labels ++ [(point, label)]) column := by
    intro column
    have before := learned.correct column
    rw [Jury.correct, hits] at before
    rw [Jury.correct, hits, List.countP_append, List.countP_append, before]
    simp [InclusionMatrix.includes, recorded]
  refine ⟨learned.matrix, learned.smoothing, learned.threshold, ?_, counted, ?_⟩
  · simp [Jury.observe, learned.length_observations]
  · have motifs : jury.matrix.motifs = image.motifs := by
      rw [learned.matrix]
      rfl
    simp only [Jury.observe, accuraciesAfter, counted, motifs, learned.smoothing,
      List.length_append, learned.length_observations]
    simp

/-- The number of relevant motifs among those that select a point. -/
def votesFor (jury : Jury α) (row : List Bool) : Nat :=
  (List.zipWith and row jury.relevant).count true

/-- Which motifs are relevant after some labels. -/
theorem HasLearned.relevant (learned : HasLearned image config labels jury) :
    jury.relevant = (accuraciesAfter image config.accuracySmoothing labels).mapIdx
      fun column accuracy => config.accuracyThreshold ≤ accuracy &&
        !(InclusionMatrix.ofImage image).columnIsEmpty column := by
  rw [Jury.relevant, learned.matrix, learned.threshold, learned.accuracies]

end Jury

namespace WeightedVote

variable {α : Type} [Exponential α] {config : Config α} {image : Image}
variable {lessons : List (Point × Bool × UpdateSettings α)} {vote : WeightedVote α}
variable {point : Point} {row : Nat}

/-- The vote of an image before any label. -/
def ofImage (image : Image) (config : Config α) : WeightedVote α :=
  ofMatrix (.ofImage image) (if config.approximateRates then none else some config.flatRate)

/-- The rates of all motifs after one more label. -/
def nextRates (image : Image) (config : Config α) (rates : List α)
    (lesson : Point × Bool × UpdateSettings α) : List α :=
  List.zipWith
    (fun rate selects => rate * factor lesson.2.1
      (lesson.2.2.learningRate.getD config.learningRate) lesson.2.2.discount lesson.2.2.scale
      selects)
    rates (entries image lesson.1)

/-- A vote of an image has seen some labels and no others. -/
structure HasLearned (image : Image) (config : Config α)
    (lessons : List (Point × Bool × UpdateSettings α)) (vote : WeightedVote α) : Prop where
  matrix : vote.matrix = .ofImage image
  coverage : vote.coverage = coverageOf (.ofImage image)
  rates : vote.rates = lessons.foldl (nextRates image config) (ofImage image config).rates

theorem hasLearned_ofImage (image : Image) (config : Config α) :
    HasLearned image config [] (ofImage image config) :=
  ⟨rfl, rfl, rfl⟩

theorem HasLearned.observe (learned : HasLearned image config lessons vote)
    (found : vote.matrix.requireRow point = .ok row) (label : Bool) (settings : UpdateSettings α) :
    HasLearned image config (lessons ++ [(point, label, settings)])
      (vote.observe row label (settings.learningRate.getD config.learningRate) settings.discount
        settings.scale) := by
  have recorded : vote.matrix.row row = entries image point := by
    rw [learned.matrix] at found ⊢
    exact (InclusionMatrix.row_of_requireRow found).2
  refine ⟨learned.matrix, learned.coverage, ?_⟩
  rw [List.foldl_append, ← learned.rates, List.foldl_cons, List.foldl_nil]
  simp only [WeightedVote.observe, nextRates, recorded]

end WeightedVote

namespace Ensemble

variable {α : Type} [Exponential α] {ensemble next : Ensemble α} {image : Image}
variable {config : Config α} {strategy : Strategy}
variable {lessons : List (Point × Bool × UpdateSettings α)}

/-- The ensemble after labels have been revealed to it one after another. One of a point that it
does not have is an error, which leaves it as it is. -/
def attempt (ensemble : Ensemble α) (lessons : List (Point × Bool × UpdateSettings α)) :
    Ensemble α :=
  lessons.foldl
    (fun ensemble (point, label, settings) =>
      (ensemble.update point label settings).toOption.getD ensemble)
    ensemble

theorem Arises.attempt (arises : ensemble.Arises)
    (lessons : List (Point × Bool × UpdateSettings α)) : (ensemble.attempt lessons).Arises := by
  induction lessons generalizing ensemble with
  | nil => exact arises
  | cons lesson lessons ih =>
      rcases lesson with ⟨point, label, settings⟩
      have next : ((ensemble.update point label settings).toOption.getD ensemble).Arises := by
        rcases success : ensemble.update point label settings with error | next
        · exact arises
        · exact arises.update success
      exact ih next

/-- What a strategy knows of an image after some labels. -/
inductive VotesHaveLearned (image : Image) (config : Config α)
    (lessons : List (Point × Bool × UpdateSettings α)) : Strategy → Votes α → Prop
  | disjunction {jury : Jury α}
      (learned : jury.HasLearned image config
        (lessons.map fun (point, label, _) => (point, label))) :
      VotesHaveLearned image config lessons .disjunction (.disjunction jury)
  | majorityVote {jury : Jury α}
      (learned : jury.HasLearned image config
        (lessons.map fun (point, label, _) => (point, label))) :
      VotesHaveLearned image config lessons .majorityVote (.majorityVote jury)
  | weightedVote {vote : WeightedVote α} (learned : vote.HasLearned image config lessons) :
      VotesHaveLearned image config lessons .weightedVote (.weightedVote vote)

/-- An ensemble of an image has seen some labels and no others. -/
structure HasLearned (strategy : Strategy) (image : Image) (config : Config α)
    (lessons : List (Point × Bool × UpdateSettings α)) (ensemble : Ensemble α) : Prop where
  votes : VotesHaveLearned image config lessons strategy ensemble.votes
  classificationThreshold : ensemble.classificationThreshold = config.classificationThreshold
  learningRate : ensemble.learningRate = config.learningRate

section Lessons

variable {point : Point} {label : Bool} {settings : UpdateSettings α}

theorem hasLearned_ofImage (strategy : Strategy) (image : Image) (config : Config α) :
    HasLearned strategy image config [] (ofImage strategy image config) := by
  refine ⟨?_, rfl, rfl⟩
  cases strategy with
  | disjunction => exact .disjunction (Jury.hasLearned_ofImage image config)
  | majorityVote => exact .majorityVote (Jury.hasLearned_ofImage image config)
  | weightedVote => exact .weightedVote (WeightedVote.hasLearned_ofImage image config)

theorem HasLearned.matrix (learned : HasLearned strategy image config lessons ensemble) :
    ensemble.matrix = .ofImage image := by
  rcases ensemble with ⟨votes, _, _⟩
  rcases learned.votes with jury | jury | vote
  · exact jury.matrix
  · exact jury.matrix
  · exact vote.matrix

theorem HasLearned.domain (learned : HasLearned strategy image config lessons ensemble) :
    ensemble.domain = image.distinctDomain := by
  rw [Ensemble.domain, learned.matrix]
  rfl

theorem HasLearned.exists_disjunction
    (learned : HasLearned .disjunction image config lessons ensemble) :
    ∃ jury, ensemble.votes = .disjunction jury ∧
      jury.HasLearned image config (lessons.map fun (point, label, _) => (point, label)) := by
  rcases ensemble with ⟨votes, _, _⟩
  rcases learned with ⟨votesLearned, -, -⟩
  cases votesLearned with
  | disjunction jury => exact ⟨_, rfl, jury⟩

theorem HasLearned.update (learned : HasLearned strategy image config lessons ensemble)
    (success : ensemble.update point label settings = .ok next) :
    HasLearned strategy image config (lessons ++ [(point, label, settings)]) next := by
  rcases found : ensemble.matrix.requireRow point with error | row
  · simp [Ensemble.update, found, bind, Except.bind] at success
  simp only [Ensemble.update, found, bind, Except.bind, pure, Except.pure,
    Except.ok.injEq] at success
  subst next
  rcases ensemble with ⟨votes, threshold, rate⟩
  rcases learned with ⟨votesLearned, rfl, rfl⟩
  refine ⟨?_, rfl, rfl⟩
  cases votesLearned with
  | disjunction jury =>
      refine .disjunction ?_
      rw [List.map_append]
      exact jury.observe found label
  | majorityVote jury =>
      refine .majorityVote ?_
      rw [List.map_append]
      exact jury.observe found label
  | weightedVote vote => exact .weightedVote (vote.observe found label settings)

/-- A label is refused if its point is none of the ensemble, and for no other reason. -/
theorem update_eq_error_iff {error : Error} :
    ensemble.update point label settings = .error error ↔
      point ∉ ensemble.domain ∧ error = .pointNotInDomain point.document point.identifier := by
  rcases position : ensemble.matrix.indexOf? point with _ | row
  · have unknown : point ∉ ensemble.domain := List.idxOf?_eq_none_iff.mp position
    simp [update, InclusionMatrix.requireRow, position, unknown, bind, Except.bind, eq_comm]
  · have known : point ∈ ensemble.domain := by
      rw [domain, ← List.isSome_idxOf?]
      exact Option.isSome_of_mem position
    simp [update, InclusionMatrix.requireRow, position, known, bind, Except.bind, pure, Except.pure]

theorem attempt_of_update (success : ensemble.update point label settings = .ok next)
    (later : List (Point × Bool × UpdateSettings α)) :
    ensemble.attempt ((point, label, settings) :: later) = next.attempt later := by
  simp only [attempt, List.foldl_cons, success, Except.toOption, Option.getD_some]

theorem attempt_of_not_mem (unknown : point ∉ ensemble.domain)
    (later : List (Point × Bool × UpdateSettings α)) :
    ensemble.attempt ((point, label, settings) :: later) = ensemble.attempt later := by
  have refused : ensemble.update point label settings =
      .error (.pointNotInDomain point.document point.identifier) :=
    update_eq_error_iff.mpr ⟨unknown, rfl⟩
  simp only [attempt, List.foldl_cons, refused, Except.toOption, Option.getD_none]

/-- Of the labels that are revealed an ensemble sees those of its own points. -/
theorem HasLearned.attempt (learned : HasLearned strategy image config lessons ensemble)
    (revealed : List (Point × Bool × UpdateSettings α)) :
    HasLearned strategy image config
      (lessons ++ revealed.filter fun lesson => lesson.1 ∈ image.distinctDomain)
      (ensemble.attempt revealed) := by
  induction revealed generalizing lessons ensemble with
  | nil => rwa [List.filter_nil, List.append_nil]
  | cons lesson revealed ih =>
      rcases lesson with ⟨point, label, settings⟩
      have domain := learned.domain
      by_cases known : point ∈ image.distinctDomain
      · rcases exists_update_eq_ok (domain ▸ known) label settings with ⟨next, success⟩
        rw [attempt_of_update success, List.filter_cons_of_pos (by simpa using known),
          List.append_cons]
        exact ih (learned.update success)
      · rw [attempt_of_not_mem (domain ▸ known), List.filter_cons_of_neg (by simpa using known)]
        exact ih learned

/-- An ensemble can learn from all labels of its points. -/
theorem HasLearned.learn (learned : HasLearned strategy image config lessons ensemble)
    {revealed : List (Point × Bool × UpdateSettings α)}
    (known : ∀ lesson ∈ revealed, lesson.1 ∈ image.distinctDomain) :
    ∃ next, ensemble.learn revealed = .ok next ∧
      HasLearned strategy image config (lessons ++ revealed) next := by
  induction revealed generalizing lessons ensemble with
  | nil => exact ⟨ensemble, rfl, by rwa [List.append_nil]⟩
  | cons lesson revealed ih =>
      rcases lesson with ⟨point, label, settings⟩
      rcases List.forall_mem_cons.mp known with ⟨first, others⟩
      rcases exists_update_eq_ok (learned.domain ▸ first) label settings with ⟨after, success⟩
      rcases ih (learned.update success) others with ⟨next, rest, hasLearned⟩
      refine ⟨next, ?_, by rwa [List.append_cons]⟩
      simp only [Ensemble.learn, List.foldlM_cons, success, bind, Except.bind]
      exact rest

end Lessons

section Judgement

/-- The probability of a point that certain motifs select. -/
def judge (ensemble : Ensemble α) (row : List Bool) : α :=
  match ensemble.votes with
  | .disjunction jury => if jury.votesFor row > 0 then 1 else 0
  | .majorityVote jury =>
    if jury.relevantCount = 0 then 0
    else ((jury.votesFor row : Nat) : α) / ((jury.relevantCount : Nat) : α)
  | .weightedVote vote =>
    WeightedVote.probability
      (WeightedVote.normalizer (vote.matrix.rows.map (WeightedVote.scores vote.weights)))
      (WeightedVote.scores vote.weights row)

theorem probabilities_eq_map_judge (ensemble : Ensemble α) :
    ensemble.probabilities = ensemble.matrix.rows.map ensemble.judge := by
  rcases ensemble with ⟨jury | jury | vote, _, _⟩
  · simp [probabilities, Jury.disjunction, Jury.votes, matrix, judge, Jury.votesFor]
  · simp [probabilities, Jury.majority, Jury.votes, matrix, judge, Jury.votesFor]
  · simp [probabilities, WeightedVote.probabilities, matrix, judge]

/-- Each point of the image is judged by the motifs that select it. -/
theorem HasLearned.ranking (learned : HasLearned strategy image config lessons ensemble) :
    ensemble.ranking = image.distinctDomain.map fun point =>
      (point, ensemble.judge (entries image point)) := by
  rw [List.map_prod_left_eq_zip, Ensemble.ranking, probabilities_eq_map_judge, learned.domain,
    learned.matrix, InclusionMatrix.rows_ofImage, List.map_map]
  rfl

theorem HasLearned.mem_ranking_iff (learned : HasLearned strategy image config lessons ensemble)
    {point : Point} {p : α} :
    (point, p) ∈ ensemble.ranking ↔
      point ∈ image.distinctDomain ∧ p = ensemble.judge (entries image point) := by
  rw [learned.ranking, List.mem_map]
  constructor
  · rintro ⟨_, inside, same⟩
    cases same
    exact ⟨inside, rfl⟩
  · rintro ⟨inside, rfl⟩
    exact ⟨point, inside, rfl⟩

theorem mem_classified_iff {threshold : Option α} {point : Point} :
    point ∈ ensemble.classified threshold ↔ ∃ p, (point, p) ∈ ensemble.ranking ∧
      threshold.getD ensemble.classificationThreshold ≤ p := by
  simp [classified]

end Judgement

end Ensemble

end MotifVote
