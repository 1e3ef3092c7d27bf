import MotifVote.Statistics
import MotifVote.Proofs.Ascending
import MotifVote.Proofs.Scalar.Order

/-!
# Ensembles in training

An ensemble begins with an image and then learns from labels, one at a time. Learning changes
neither its points nor how many probabilities it has, so every point keeps one. The point that such
an ensemble is least certain about is found whenever the pool has any of its points, whatever the
probabilities are, and the label of that point can be learned from.
-/

namespace MotifVote

namespace InclusionMatrix

variable {matrix : InclusionMatrix} {point : Point} {row : Nat}

theorem requireRow_eq_ok_iff :
    matrix.requireRow point = .ok row ↔ matrix.indexOf? point = some row := by
  rw [requireRow]
  cases matrix.indexOf? point <;> simp

theorem exists_requireRow_eq_ok (known : point ∈ matrix.points) :
    ∃ row, matrix.requireRow point = .ok row := by
  simp only [requireRow_eq_ok_iff]
  rw [← Option.isSome_iff_exists, indexOf?, List.isSome_idxOf?]
  exact known

end InclusionMatrix

namespace Ensemble

variable {α : Type} [Exponential α]

/-- An ensemble of an image, after any number of labels have been revealed to it. -/
inductive Arises : Ensemble α → Prop
  | ofImage (strategy : Strategy) (image : Image) (config : Config α) :
      Arises (.ofImage strategy image config)
  | update {ensemble next : Ensemble α} {point : Point} {label : Bool}
      {settings : UpdateSettings α} (before : Arises ensemble)
      (learned : ensemble.update point label settings = .ok next) : Arises next

/-- The ensemble after the labels of some points have been revealed to it, each with settings of its
own. -/
def learn (ensemble : Ensemble α) (lessons : List (Point × Bool × UpdateSettings α)) :
    Except Error (Ensemble α) :=
  lessons.foldlM (fun ensemble (point, label, settings) => ensemble.update point label settings)
    ensemble

section Update

variable {ensemble next : Ensemble α} {point : Point} {label : Bool} {settings : UpdateSettings α}

theorem update_eq_ok (learned : ensemble.update point label settings = .ok next) :
    ∃ row, next = { ensemble with
      votes := observe ensemble.votes row label
        (settings.learningRate.getD ensemble.learningRate) settings } := by
  rcases found : ensemble.matrix.requireRow point with error | row
  · simp [update, found, bind, Except.bind] at learned
  · simp only [update, found, bind, Except.bind, pure, Except.pure, Except.ok.injEq] at learned
    exact ⟨row, learned.symm⟩

/-- A label can be revealed for every point of an ensemble. -/
theorem exists_update_eq_ok (known : point ∈ ensemble.domain) (label : Bool)
    (settings : UpdateSettings α) :
    ∃ next, ensemble.update point label settings = .ok next := by
  rcases InclusionMatrix.exists_requireRow_eq_ok known with ⟨row, found⟩
  simp only [update, found, bind, Except.bind, pure, Except.pure]
  exact ⟨_, rfl⟩

theorem matrix_update (learned : ensemble.update point label settings = .ok next) :
    next.matrix = ensemble.matrix := by
  rcases update_eq_ok learned with ⟨row, rfl⟩
  simp only [matrix]
  cases ensemble.votes <;> rfl

theorem domain_update (learned : ensemble.update point label settings = .ok next) :
    next.domain = ensemble.domain := by
  rw [domain, matrix_update learned, domain]

theorem strategy_update (learned : ensemble.update point label settings = .ok next) :
    next.strategy = ensemble.strategy := by
  rcases update_eq_ok learned with ⟨row, rfl⟩
  simp only [strategy]
  cases ensemble.votes <;> rfl

/-- The labels of points of an ensemble can be learned one after another, and the ensemble keeps its
strategy and its matrix. -/
theorem exists_learn_eq_ok {lessons : List (Point × Bool × UpdateSettings α)}
    (known : ∀ lesson ∈ lessons, lesson.1 ∈ ensemble.domain) :
    ∃ next, ensemble.learn lessons = .ok next ∧ next.strategy = ensemble.strategy ∧
      next.matrix = ensemble.matrix := by
  induction lessons generalizing ensemble with
  | nil => exact ⟨ensemble, rfl, rfl, rfl⟩
  | cons lesson lessons ih =>
      rcases lesson with ⟨point, label, settings⟩
      rcases List.forall_mem_cons.mp known with ⟨first, others⟩
      rcases exists_update_eq_ok first label settings with ⟨learned, success⟩
      have stillKnown : ∀ lesson ∈ lessons, lesson.1 ∈ learned.domain := by
        rwa [domain_update success]
      rcases ih stillKnown with ⟨next, rest, strategy, matrix⟩
      refine ⟨next, ?_, strategy.trans (strategy_update success),
        matrix.trans (matrix_update success)⟩
      simp only [learn, List.foldlM_cons, success, bind, Except.bind]
      exact rest

theorem Arises.learn {lessons : List (Point × Bool × UpdateSettings α)} (arises : ensemble.Arises)
    (learned : ensemble.learn lessons = .ok next) : next.Arises := by
  induction lessons generalizing ensemble with
  | nil =>
      cases learned
      exact arises
  | cons lesson lessons ih =>
      rcases lesson with ⟨point, label, settings⟩
      rw [Ensemble.learn, List.foldlM_cons] at learned
      rcases success : ensemble.update point label settings with error | first
      · simp [success, bind, Except.bind] at learned
      · simp only [success, bind, Except.bind] at learned
        exact ih (.update arises success) learned

end Update

section Probabilities

variable {ensemble : Ensemble α}

theorem length_probabilities (ensemble : Ensemble α) :
    ensemble.probabilities.length = ensemble.matrix.rows.length := by
  simp only [probabilities, matrix]
  cases ensemble.votes with
  | disjunction jury => simp [Jury.disjunction, Jury.votes]
  | majorityVote jury => simp [Jury.majority, Jury.votes]
  | weightedVote vote => simp [WeightedVote.probabilities]

theorem matrix_ofImage (strategy : Strategy) (image : Image) (config : Config α) :
    (ofImage strategy image config).matrix = .ofImage image := by
  cases strategy <;> rfl

theorem Arises.length_rows (arises : ensemble.Arises) :
    ensemble.matrix.rows.length = ensemble.matrix.points.length := by
  induction arises with
  | ofImage strategy image config => simp [matrix_ofImage, InclusionMatrix.ofImage]
  | update _ learned ih =>
      rw [matrix_update learned]
      exact ih

theorem Arises.map_ranking (arises : ensemble.Arises) :
    ensemble.ranking.map (·.1) = ensemble.domain := by
  apply List.map_fst_zip
  rw [length_probabilities, arises.length_rows, domain]

end Probabilities

section LeastCertain

variable {ensemble : Ensemble α} {pool : PointSet} {best : Option (Point × α)}

theorem lessCertain_of_not_mem {next : Point × α} (outside : next.1 ∉ pool) :
    lessCertain pool best next = best := by
  simp [lessCertain, outside]

/-- A next point of the pool is chosen, unless the best candidate so far stays. -/
theorem lessCertain_of_mem (best : Option (Point × α)) {next : Point × α}
    (inside : next.1 ∈ pool) :
    lessCertain pool best next = some (next.1, certainty next.2) ∨
      best.isSome ∧ lessCertain pool best next = best := by
  rw [lessCertain, if_neg (by simp [inside])]
  rcases best with _ | ⟨point, lowest⟩
  · exact Or.inl rfl
  · by_cases lower : certainty next.2 ≤ lowest
    · exact Or.inl (if_pos lower)
    · exact Or.inr ⟨rfl, if_neg lower⟩

theorem foldl_lessCertain_eq_none_iff {entries : List (Point × α)} :
    entries.foldl (lessCertain pool) best = none ↔
      best = none ∧ ∀ entry ∈ entries, entry.1 ∉ pool := by
  induction entries generalizing best with
  | nil => simp
  | cons next entries ih =>
      -- A candidate is only ever replaced by another.
      rw [List.foldl_cons, ih, List.forall_mem_cons, ← and_assoc]
      refine and_congr_left fun _ => ?_
      by_cases inside : next.1 ∈ pool
      · rcases lessCertain_of_mem best inside with chosen | ⟨some, stays⟩
        · simp [chosen, inside]
        · simp [stays, inside, Option.isSome_iff_ne_none.mp some]
      · simp [lessCertain_of_not_mem inside, inside]

theorem foldl_lessCertain_eq_some {entries : List (Point × α)} {chosen : Point × α}
    (found : entries.foldl (lessCertain pool) best = some chosen) :
    best = some chosen ∨ chosen.1 ∈ pool ∧ chosen.1 ∈ entries.map (·.1) := by
  induction entries generalizing best with
  | nil => exact Or.inl found
  | cons next entries ih =>
      rcases ih found with before | ⟨inside, later⟩
      · by_cases inside : next.1 ∈ pool
        · rcases lessCertain_of_mem best inside with here | ⟨-, stays⟩
          · rw [here] at before
            cases before
            exact Or.inr ⟨inside, List.mem_cons_self⟩
          · exact Or.inl (stays ▸ before)
        · rw [lessCertain_of_not_mem inside] at before
          exact Or.inl before
      · exact Or.inr ⟨inside, List.mem_cons_of_mem _ later⟩

/-- The point that an ensemble is least certain about is one of its own, and of the pool. -/
theorem leastCertain?_eq_some {point : Point} (found : ensemble.leastCertain? pool = some point) :
    point ∈ pool ∧ point ∈ ensemble.domain := by
  rcases Option.map_eq_some_iff.mp found with ⟨chosen, folded, rfl⟩
  rcases foldl_lessCertain_eq_some folded with start | ⟨inside, listed⟩
  · cases start
  · rcases List.mem_map.mp listed with ⟨entry, member, same⟩
    exact ⟨inside, same ▸ (List.of_mem_zip member).1⟩

/-- There is such a point unless the pool has none of the ensemble. -/
theorem Arises.leastCertain?_eq_none_iff (arises : ensemble.Arises) :
    ensemble.leastCertain? pool = none ↔ ∀ point ∈ ensemble.domain, point ∉ pool := by
  rw [leastCertain?, Option.map_eq_none_iff, foldl_lessCertain_eq_none_iff, ← arises.map_ranking]
  simp only [true_and, List.forall_mem_map]

end LeastCertain

end Ensemble

section Example

/-- The motif that selects every vertex, written with one of some identifier. -/
def Motif.ofVertex (identifier : UInt64) : Motif :=
  ⟨identifier, [⟨identifier, .empty⟩], [], by simp [declaredBy], by simp [declaredBy], by simp⟩

/-- The default settings, as rational numbers. -/
def Config.rational : Config Rat where
  classificationThreshold := 1 / 100
  accuracyThreshold := 7 / 10
  learningRate := 10
  accuracySmoothing := 1
  approximateRates := true
  flatRate := 1 / 10
  defaultWeight := 1
  weights := ∅
  neighborhoodDistance := 2

/-- A majority vote of two motifs on four points of three documents. -/
def Ensemble.ofFourPoints : Ensemble Rat :=
  .ofImage .majorityVote
    ⟨[⟨.ofVertex 0, [⟨"a", 0⟩, ⟨"a", 1⟩]⟩, ⟨.ofVertex 1, [⟨"a", 1⟩, ⟨"b", 0⟩, ⟨"c", 0⟩]⟩]⟩ .rational

end Example

end MotifVote
