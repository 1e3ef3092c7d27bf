import MotifVote.Proofs.Ensemble.Lessons
import MotifVote.Proofs.Ensemble.Probability
import MotifVote.Proofs.Scalar.Real
import Mathlib.Algebra.Order.Field.Basic

/-!
# Support and probability

A point is supported by the motifs that select it, each with its weight, and opposed by the others.
A weighted vote divides both sums by the largest sum of any point before it compares their
exponentials. Support and opposition of every point add up to the same total, so more support is
less opposition, and a division by a positive number leaves the higher probability to the point with
more support.

The divisor is only kept from being zero or infinite. If all sums are negative, as they are when all
weights are and every point is selected by some motif and not by another, then the largest of them
is negative too, and the division turns the order of all points round.
-/

namespace MotifVote

open Exponential (exp)
open InclusionMatrix (entries)
open Scalar (RealValued isFinite)
open Scalar.RealValued (value)

namespace WeightedVote

section Sums

variable {α : Type} [Scalar α]

/-- The sum of the weights of the motifs that have some entry in a row. -/
def weightOf (entry : Bool) (weights : List α) (row : List Bool) : α :=
  Scalar.sum (((row.zip weights).filter (·.1 == entry)).map (·.2))

/-- The sum of the weights of the motifs that select a point. -/
def support (weights : List α) (row : List Bool) : α := weightOf true weights row

/-- The sum of the weights of the motifs that do not select a point. -/
def opposition (weights : List α) (row : List Bool) : α := weightOf false weights row

omit [Scalar α] in
theorem mem_of_mem_weightOf {entry : Bool} {weights : List α} {row : List Bool} {weight : α}
    (member : weight ∈ ((row.zip weights).filter (·.1 == entry)).map (·.2)) : weight ∈ weights := by
  rcases List.mem_map.mp member with ⟨_, kept, rfl⟩
  exact (List.of_mem_zip (List.mem_of_mem_filter kept)).2

end Sums

section Inversion

variable {α : Type} [Exponential α]

theorem scores_eq (weights : List α) (row : List Bool) :
    scores weights row = (support weights row, opposition weights row) := by
  rw [scores, support, opposition, weightOf, weightOf]
  induction row.zip weights using List.reverseRecOn with
  | nil => rfl
  | append_singleton entries entry ih =>
      rcases entry with ⟨selects, weight⟩
      rw [List.foldl_append, ih]
      cases selects <;> simp [Scalar.sum_append_singleton]

/-- All sums that a vote divides are negative. -/
def IsInverted (vote : WeightedVote α) : Prop :=
  ∀ row ∈ vote.matrix.rows, support vote.weights row < 0 ∧ opposition vote.weights row < 0

/-- The probability of a point with some row. -/
def chance (vote : WeightedVote α) (row : List Bool) : α :=
  probability (normalizer vote.allScores) (scores vote.weights row)

/-- All weights are finite, and every row has an entry for each. -/
structure IsDefinite (vote : WeightedVote α) : Prop where
  isFinite_weight : ∀ weight ∈ vote.weights, isFinite weight = true
  length_le : ∀ row ∈ vote.matrix.rows, vote.weights.length ≤ row.length

end Inversion

variable {α : Type} [Exponential α] [RealValued α]

section Totals

variable {weights : List α}

theorem isFinite_weightOf (finite : ∀ weight ∈ weights, isFinite weight = true) (entry : Bool)
    (row : List Bool) : isFinite (weightOf entry weights row) = true :=
  Scalar.isFinite_sum fun weight member => finite weight (mem_of_mem_weightOf member)

theorem value_weightOf (finite : ∀ weight ∈ weights, isFinite weight = true) (entry : Bool)
    (row : List Bool) : value (weightOf entry weights row) =
      (((row.zip weights).filter (·.1 = entry)).map fun weighted => value weighted.2).sum := by
  rw [weightOf, Scalar.value_sum fun weight member => finite weight (mem_of_mem_weightOf member),
    List.map_map]
  rfl

/-- Support and opposition share the total of all weights, which is the same for every row. -/
theorem value_support_add_value_opposition (finite : ∀ weight ∈ weights, isFinite weight = true)
    {row : List Bool} (room : weights.length ≤ row.length) :
    value (support weights row) + value (opposition weights row) = (weights.map value).sum := by
  have whole : (row.zip weights).map (fun weighted => value weighted.2) = weights.map value := by
    rw [← Function.comp_def value Prod.snd, ← List.map_map, List.map_snd_zip room]
  rw [support, opposition, value_weightOf finite, value_weightOf finite, ← whole,
    ← List.sum_map_filter_add_sum_map_filter_not (fun weighted => weighted.1 = true) _
      (row.zip weights)]
  simp only [Bool.not_eq_true]

end Totals

section Quotients

variable {divisor : α} {score other : α × α}

theorem div_add_lt_div_add_iff {plus minus otherPlus otherMinus : ℝ} (plusPos : 0 < plus)
    (minusPos : 0 < minus) (otherPlusPos : 0 < otherPlus) (otherMinusPos : 0 < otherMinus) :
    plus / (plus + minus) < otherPlus / (otherPlus + otherMinus) ↔
      plus * otherMinus < otherPlus * minus := by
  rw [div_lt_div_iff₀ (add_pos plusPos minusPos) (add_pos otherPlusPos otherMinusPos), mul_add,
    mul_add, mul_comm otherPlus plus, add_lt_add_iff_left]

theorem exp_div_spec (finite : isFinite divisor = true) (nonzero : value divisor ≠ 0) {x : α}
    (xFinite : isFinite x = true) :
    isFinite (exp (x / divisor)) = true ∧ 0 < value (exp (x / divisor)) := by
  have quotient := RealValued.isFinite_div xFinite finite nonzero
  exact ⟨RealValued.isFinite_exp quotient, RealValued.value_exp_pos quotient⟩

theorem value_exp_div_lt_iff (finite : isFinite divisor = true) (nonzero : value divisor ≠ 0)
    {x y : α} (xFinite : isFinite x = true) (yFinite : isFinite y = true) :
    value (exp (x / divisor)) < value (exp (y / divisor)) ↔
      value x / value divisor < value y / value divisor := by
  rw [RealValued.value_exp_lt_iff (RealValued.isFinite_div xFinite finite nonzero)
    (RealValued.isFinite_div yFinite finite nonzero), RealValued.value_div xFinite finite nonzero,
    RealValued.value_div yFinite finite nonzero]

theorem probability_spec (finite : isFinite divisor = true) (nonzero : value divisor ≠ 0)
    (plusFinite : isFinite score.1 = true) (minusFinite : isFinite score.2 = true) :
    isFinite (probability divisor score) = true ∧
      value (probability divisor score) = value (exp (score.1 / divisor)) /
        (value (exp (score.1 / divisor)) + value (exp (score.2 / divisor))) := by
  have shape : probability divisor score = exp (score.1 / divisor) /
      (exp (score.1 / divisor) + exp (score.2 / divisor)) := rfl
  rcases exp_div_spec finite nonzero plusFinite with ⟨plus, plusPos⟩
  rcases exp_div_spec finite nonzero minusFinite with ⟨minus, minusPos⟩
  have sum := RealValued.value_add plus minus
  have sumNonzero : value (exp (score.1 / divisor) + exp (score.2 / divisor)) ≠ 0 := by
    rw [sum]
    exact (add_pos plusPos minusPos).ne'
  rw [shape, RealValued.value_div plus (RealValued.isFinite_add plus minus) sumNonzero, sum]
  exact ⟨RealValued.isFinite_div plus (RealValued.isFinite_add plus minus) sumNonzero, rfl⟩

/-- Where sums have the same total, the higher probability belongs to the one whose first part is
larger once it has been divided. -/
theorem probability_lt_iff (finite : isFinite divisor = true) (nonzero : value divisor ≠ 0)
    (scoreFinite : isFinite score.1 = true ∧ isFinite score.2 = true)
    (otherFinite : isFinite other.1 = true ∧ isFinite other.2 = true)
    (total : value score.1 + value score.2 = value other.1 + value other.2) :
    probability divisor score < probability divisor other ↔
      value score.1 / value divisor < value other.1 / value divisor := by
  rcases probability_spec finite nonzero scoreFinite.1 scoreFinite.2 with ⟨left, leftValue⟩
  rcases probability_spec finite nonzero otherFinite.1 otherFinite.2 with ⟨right, rightValue⟩
  have plusPos := (exp_div_spec finite nonzero scoreFinite.1).2
  have minusPos := (exp_div_spec finite nonzero scoreFinite.2).2
  have otherPlusPos := (exp_div_spec finite nonzero otherFinite.1).2
  have otherMinusPos := (exp_div_spec finite nonzero otherFinite.2).2
  have moreSupport := value_exp_div_lt_iff finite nonzero scoreFinite.1 otherFinite.1
  have lessOpposition := value_exp_div_lt_iff finite nonzero otherFinite.2 scoreFinite.2
  -- Divided as well, the sums have the same total, so that what is more on one side is less on the
  -- other, and both pairs of exponentials compare the same way.
  have parts : value score.1 / value divisor + value score.2 / value divisor =
      value other.1 / value divisor + value other.2 / value divisor := by
    rw [← add_div, total, add_div]
  rw [RealValued.lt_iff left right, leftValue, rightValue,
    div_add_lt_div_add_iff plusPos minusPos otherPlusPos otherMinusPos]
  constructor
  · intro less
    by_contra atMost
    have opposed : ¬value other.2 / value divisor < value score.2 / value divisor := by linarith
    rw [← moreSupport, not_lt] at atMost
    rw [← lessOpposition, not_lt] at opposed
    exact less.not_ge (mul_le_mul atMost opposed minusPos.le plusPos.le)
  · intro less
    have opposed : value other.2 / value divisor < value score.2 / value divisor := by linarith
    exact mul_lt_mul'' (moreSupport.mpr less) (lessOpposition.mpr opposed) plusPos.le
      otherMinusPos.le

end Quotients

section Definite

variable {vote : WeightedVote α} {row other : List Bool}

theorem IsDefinite.isFinite_support (definite : vote.IsDefinite) (row : List Bool) :
    isFinite (support vote.weights row) = true :=
  isFinite_weightOf definite.isFinite_weight true row

theorem IsDefinite.isNumber_support (definite : vote.IsDefinite) (row : List Bool) :
    Scalar.IsNumber (support vote.weights row) :=
  Scalar.IsOrdered.isNumber_of_isFinite (definite.isFinite_support row)

theorem IsDefinite.isFinite_opposition (definite : vote.IsDefinite) (row : List Bool) :
    isFinite (opposition vote.weights row) = true :=
  isFinite_weightOf definite.isFinite_weight false row

theorem IsDefinite.exists_largest (definite : vote.IsDefinite) (nonempty : vote.matrix.rows ≠ []) :
    ∃ most, Scalar.largest? (vote.allScores.map (·.1) ++ vote.allScores.map (·.2)) = some most ∧
      isFinite most = true ∧ (value most < 0 ↔ vote.IsInverted) := by
  have listed : ∀ x, x ∈ vote.allScores.map (·.1) ++ vote.allScores.map (·.2) ↔
      ∃ row ∈ vote.matrix.rows, support vote.weights row = x ∨ opposition vote.weights row = x := by
    intro x
    simp only [allScores, scores_eq, List.map_map, List.mem_append, List.mem_map,
      Function.comp_apply, ← exists_or, and_or_left]
  have finite : ∀ x ∈ vote.allScores.map (·.1) ++ vote.allScores.map (·.2), isFinite x = true := by
    intro x member
    rcases (listed x).mp member with ⟨row, -, rfl | rfl⟩
    · exact definite.isFinite_support row
    · exact definite.isFinite_opposition row
  have someSum : vote.allScores.map (·.1) ++ vote.allScores.map (·.2) ≠ [] := by
    simpa [allScores] using nonempty
  rcases Scalar.largest?_spec someSum
    (fun x member => Scalar.IsOrdered.isNumber_of_isFinite (finite x member)) with
    ⟨most, mostListed, found, bound⟩
  have mostFinite := finite most mostListed
  refine ⟨most, found, mostFinite, ?_⟩
  -- It is one of the sums and no less than any of them.
  rw [← RealValued.lt_zero_iff mostFinite]
  constructor
  · intro below row member
    have sumBelow : ∀ x ∈ vote.allScores.map (·.1) ++ vote.allScores.map (·.2), x < 0 := by
      intro x inside
      rw [RealValued.lt_zero_iff mostFinite] at below
      rw [RealValued.lt_zero_iff (finite x inside)]
      exact ((RealValued.le_iff (finite x inside) mostFinite).mp (bound x inside)).trans_lt below
    exact ⟨sumBelow _ ((listed _).mpr ⟨row, member, Or.inl rfl⟩),
      sumBelow _ ((listed _).mpr ⟨row, member, Or.inr rfl⟩)⟩
  · intro inverted
    rcases (listed most).mp mostListed with ⟨row, member, rfl | rfl⟩
    · exact (inverted row member).1
    · exact (inverted row member).2

/-- The divisor is not zero, and it is negative if and only if all sums are. -/
theorem IsDefinite.normalizer_spec (definite : vote.IsDefinite) (nonempty : vote.matrix.rows ≠ []) :
    isFinite (normalizer vote.allScores) = true ∧ value (normalizer vote.allScores) ≠ 0 ∧
      (value (normalizer vote.allScores) < 0 ↔ vote.IsInverted) := by
  rcases definite.exists_largest nonempty with ⟨most, found, finite, negative⟩
  by_cases vanishes : (most == 0) = true
  · have one : normalizer vote.allScores = 1 := by simp [normalizer, found, vanishes]
    have zero := (RealValued.beq_zero_iff finite).mp vanishes
    rw [one, RealValued.value_one, ← negative, zero]
    exact ⟨RealValued.isFinite_one, one_ne_zero, by norm_num⟩
  · have largest : normalizer vote.allScores = most := by
      simp [normalizer, found, finite, vanishes]
    rw [largest]
    exact ⟨finite, mt (RealValued.beq_zero_iff finite).mpr vanishes, negative⟩

theorem IsDefinite.chance_lt_iff (definite : vote.IsDefinite) (listed : row ∈ vote.matrix.rows)
    (otherListed : other ∈ vote.matrix.rows) :
    vote.chance row < vote.chance other ↔
      value (support vote.weights row) / value (normalizer vote.allScores) <
        value (support vote.weights other) / value (normalizer vote.allScores) := by
  rcases definite.normalizer_spec (List.ne_nil_of_mem listed) with ⟨finite, nonzero, -⟩
  have total := (value_support_add_value_opposition definite.isFinite_weight
    (definite.length_le row listed)).trans (value_support_add_value_opposition
      definite.isFinite_weight (definite.length_le other otherListed)).symm
  rw [chance, chance, scores_eq, scores_eq]
  exact probability_lt_iff finite nonzero
    ⟨definite.isFinite_support row, definite.isFinite_opposition row⟩
    ⟨definite.isFinite_support other, definite.isFinite_opposition other⟩ total

theorem IsDefinite.isFinite_chance (definite : vote.IsDefinite) (listed : row ∈ vote.matrix.rows) :
    isFinite (vote.chance row) = true := by
  rcases definite.normalizer_spec (List.ne_nil_of_mem listed) with ⟨finite, nonzero, -⟩
  rw [chance, scores_eq]
  exact (probability_spec finite nonzero (definite.isFinite_support row)
    (definite.isFinite_opposition row)).1

/-- As long as some sum is not negative, probabilities are in the order of the support. -/
theorem IsDefinite.chance_lt_iff_of_not_isInverted (definite : vote.IsDefinite)
    (upright : ¬vote.IsInverted) (listed : row ∈ vote.matrix.rows)
    (otherListed : other ∈ vote.matrix.rows) :
    vote.chance row < vote.chance other ↔
      support vote.weights row < support vote.weights other := by
  rcases definite.normalizer_spec (List.ne_nil_of_mem listed) with ⟨-, nonzero, negative⟩
  rw [← negative, not_lt] at upright
  rw [definite.chance_lt_iff listed otherListed,
    div_lt_div_iff_of_pos_right (upright.lt_of_ne' nonzero),
    ← RealValued.lt_iff (definite.isFinite_support row) (definite.isFinite_support other)]

/-- Once all sums are negative, probabilities are in the reverse order. -/
theorem IsDefinite.chance_lt_iff_of_isInverted (definite : vote.IsDefinite)
    (inverted : vote.IsInverted) (listed : row ∈ vote.matrix.rows)
    (otherListed : other ∈ vote.matrix.rows) :
    vote.chance row < vote.chance other ↔
      support vote.weights other < support vote.weights row := by
  rcases definite.normalizer_spec (List.ne_nil_of_mem listed) with ⟨-, -, negative⟩
  rw [definite.chance_lt_iff listed otherListed, div_lt_div_right_of_neg (negative.mpr inverted),
    ← RealValued.lt_iff (definite.isFinite_support other) (definite.isFinite_support row)]

theorem IsDefinite.chance_le_iff (definite : vote.IsDefinite) (listed : row ∈ vote.matrix.rows)
    (otherListed : other ∈ vote.matrix.rows) :
    vote.chance row ≤ vote.chance other ↔ ¬vote.chance other < vote.chance row :=
  (RealValued.not_lt (definite.isFinite_chance otherListed) (definite.isFinite_chance listed)).symm

theorem IsDefinite.support_le_iff (definite : vote.IsDefinite) (row other : List Bool) :
    support vote.weights row ≤ support vote.weights other ↔
      ¬support vote.weights other < support vote.weights row :=
  (RealValued.not_lt (definite.isFinite_support other) (definite.isFinite_support row)).symm

end Definite

section Learning

variable {image : Image} {config : Config α} {vote : WeightedVote α}
variable {lessons : List (Point × Bool × UpdateSettings α)}

omit [RealValued α] in
theorem HasLearned.entries_mem_rows (learned : vote.HasLearned image config lessons) :
    ∀ point ∈ image.distinctDomain, entries image point ∈ vote.matrix.rows := by
  intro point inside
  rw [learned.matrix, InclusionMatrix.rows_ofImage]
  exact List.mem_map_of_mem inside

omit [RealValued α] in
theorem HasLearned.length_coverage (learned : vote.HasLearned image config lessons) :
    vote.coverage.length = image.motifs.length := by
  rw [learned.coverage, coverageOf, List.length_map]
  simp [InclusionMatrix.ofImage, InclusionMatrix.selections]

theorem HasLearned.isFinite_coverage (learned : vote.HasLearned image config lessons) :
    ∀ covered ∈ vote.coverage, isFinite covered = true := by
  intro covered member
  have someMotif : image.motifs.length ≠ 0 := by
    rw [← learned.length_coverage]
    exact (List.length_pos_of_mem member).ne'
  rw [learned.coverage] at member
  rcases List.mem_map.mp member with ⟨size, -, rfl⟩
  apply RealValued.isFinite_div (RealValued.isFinite_natCast _) (RealValued.isFinite_natCast _)
  rw [RealValued.value_natCast]
  exact Nat.cast_ne_zero.mpr someMotif

theorem HasLearned.isDefinite (learned : vote.HasLearned image config lessons)
    (finite : ∀ rate ∈ vote.rates, isFinite rate = true) : vote.IsDefinite where
  isFinite_weight := by
    intro weight member
    rw [weights, ← List.map_uncurry_zip_eq_zipWith] at member
    rcases List.mem_map.mp member with ⟨⟨covered, rate⟩, paired, rfl⟩
    rcases List.of_mem_zip paired with ⟨coveredMember, rateMember⟩
    exact RealValued.isFinite_sub (learned.isFinite_coverage covered coveredMember)
      (RealValued.isFinite_mul (RealValued.isFinite_natCast 2) (finite rate rateMember))
  length_le := by
    rw [learned.matrix, InclusionMatrix.rows_ofImage]
    simp only [List.forall_mem_map, InclusionMatrix.length_entries, weights, List.length_zipWith,
      learned.length_coverage]
    intro point _
    exact Nat.min_le_left _ _

end Learning

end WeightedVote

namespace Ensemble

open WeightedVote (support)

variable {α : Type} [Exponential α] {image : Image} {config : Config α} {ensemble : Ensemble α}
variable {lessons : List (Point × Bool × UpdateSettings α)}

/-- The weights of an ensemble; none unless it is a weighted vote. -/
def weights (ensemble : Ensemble α) : List α :=
  match ensemble.votes with
  | .weightedVote vote => vote.weights
  | _ => []

/-- A point with more support never has a lower probability. -/
def FollowsSupport (ensemble : Ensemble α) (image : Image) : Prop :=
  ∀ x p y q, (x, p) ∈ ensemble.ranking → (y, q) ∈ ensemble.ranking →
    support ensemble.weights (entries image x) ≤ support ensemble.weights (entries image y) → p ≤ q

/-- A point with more support always has a lower probability. -/
def OpposesSupport (ensemble : Ensemble α) (image : Image) : Prop :=
  ∀ x p y q, (x, p) ∈ ensemble.ranking → (y, q) ∈ ensemble.ranking →
    support ensemble.weights (entries image x) < support ensemble.weights (entries image y) → q < p

theorem HasLearned.exists_weightedVote
    (learned : HasLearned .weightedVote image config lessons ensemble) :
    ∃ vote, ensemble.votes = .weightedVote vote ∧ vote.HasLearned image config lessons := by
  rcases ensemble with ⟨votes, _, _⟩
  rcases learned with ⟨votesLearned, -, -⟩
  cases votesLearned with
  | weightedVote vote => exact ⟨_, rfl, vote⟩

theorem weights_eq {vote : WeightedVote α} (votes : ensemble.votes = .weightedVote vote) :
    ensemble.weights = vote.weights := by
  rw [weights, votes]

theorem HasLearned.mem_ranking_chance_iff {vote : WeightedVote α}
    (learned : HasLearned .weightedVote image config lessons ensemble)
    (votes : ensemble.votes = .weightedVote vote) {point : Point} {p : α} :
    (point, p) ∈ ensemble.ranking ↔
      point ∈ image.distinctDomain ∧ p = vote.chance (entries image point) := by
  rw [learned.mem_ranking_iff, judge, votes]
  rfl

theorem HasLearned.followsSupport_iff_chance {vote : WeightedVote α}
    (learned : HasLearned .weightedVote image config lessons ensemble)
    (votes : ensemble.votes = .weightedVote vote) :
    ensemble.FollowsSupport image ↔
      ∀ x ∈ image.distinctDomain, ∀ y ∈ image.distinctDomain,
        support vote.weights (entries image x) ≤ support vote.weights (entries image y) →
          vote.chance (entries image x) ≤ vote.chance (entries image y) := by
  rw [← weights_eq votes]
  constructor
  · intro follows x xInside y yInside
    exact follows x _ y _ ((learned.mem_ranking_chance_iff votes).mpr ⟨xInside, rfl⟩)
      ((learned.mem_ranking_chance_iff votes).mpr ⟨yInside, rfl⟩)
  · intro follows x p y q xRanked yRanked
    rcases (learned.mem_ranking_chance_iff votes).mp xRanked with ⟨xInside, rfl⟩
    rcases (learned.mem_ranking_chance_iff votes).mp yRanked with ⟨yInside, rfl⟩
    exact follows x xInside y yInside

section Order

variable [RealValued α] {vote : WeightedVote α}

/-- Probabilities follow the support unless all sums are negative and points differ in support. -/
theorem HasLearned.followsSupport_iff
    (learned : HasLearned .weightedVote image config lessons ensemble)
    (votes : ensemble.votes = .weightedVote vote)
    (voteLearned : vote.HasLearned image config lessons)
    (definite : vote.IsDefinite) :
    ensemble.FollowsSupport image ↔ ¬vote.IsInverted ∨
      ∀ x ∈ image.distinctDomain, ∀ y ∈ image.distinctDomain,
        support vote.weights (entries image x) ≤ support vote.weights (entries image y) := by
  have listed := voteLearned.entries_mem_rows
  rw [learned.followsSupport_iff_chance votes]
  by_cases inverted : vote.IsInverted
  · -- The law and its reverse together leave no room for a difference in support.
    rw [or_iff_right (not_not.mpr inverted)]
    constructor
    · intro follows x xInside y yInside
      rcases Scalar.IsOrdered.le_total (definite.isNumber_support (entries image x))
        (definite.isNumber_support (entries image y)) with atMost | atLeast
      · exact atMost
      · have reversed := follows y yInside x xInside atLeast
        rwa [definite.chance_le_iff (listed y yInside) (listed x xInside),
          definite.chance_lt_iff_of_isInverted inverted (listed x xInside) (listed y yInside),
          ← definite.support_le_iff] at reversed
    · intro equal x xInside y yInside _
      rw [definite.chance_le_iff (listed x xInside) (listed y yInside),
        definite.chance_lt_iff_of_isInverted inverted (listed y yInside) (listed x xInside),
        ← definite.support_le_iff]
      exact equal y yInside x xInside
  · refine iff_of_true ?_ (Or.inl inverted)
    intro x xInside y yInside atMost
    rwa [definite.chance_le_iff (listed x xInside) (listed y yInside),
      definite.chance_lt_iff_of_not_isInverted inverted (listed y yInside) (listed x xInside),
      ← definite.support_le_iff]

theorem HasLearned.opposesSupport
    (learned : HasLearned .weightedVote image config lessons ensemble)
    (votes : ensemble.votes = .weightedVote vote)
    (voteLearned : vote.HasLearned image config lessons)
    (definite : vote.IsDefinite) (inverted : vote.IsInverted) :
    ensemble.OpposesSupport image := by
  intro x p y q xRanked yRanked less
  rw [weights_eq votes] at less
  rcases (learned.mem_ranking_chance_iff votes).mp xRanked with ⟨xInside, rfl⟩
  rcases (learned.mem_ranking_chance_iff votes).mp yRanked with ⟨yInside, rfl⟩
  exact (definite.chance_lt_iff_of_isInverted inverted (voteLearned.entries_mem_rows y yInside)
    (voteLearned.entries_mem_rows x xInside)).mpr less

/-- A weighted vote of an image is asked to learn the labels of some points, in any order and with
any settings. It then has a probability for each of its points. As long as its rates are finite,
more support never means a lower probability, with one exception: if the support and the opposition
of all points are negative, more support always means a lower probability, so that the law only
holds if all points have the same support. -/
theorem attempt_followsSupport_iff (image : Image) (config : Config α)
    (calls : List (Point × Bool × UpdateSettings α)) :
    let ensemble := (ofImage .weightedVote image config).attempt calls
    ∃ vote, ensemble.votes = .weightedVote vote ∧ vote.matrix = .ofImage image ∧
      ensemble.ranking.map (·.1) = image.distinctDomain ∧
      ((∀ rate ∈ vote.rates, isFinite rate = true) →
        (ensemble.FollowsSupport image ↔ ¬vote.IsInverted ∨
          ∀ x ∈ image.distinctDomain, ∀ y ∈ image.distinctDomain,
            support vote.weights (entries image x) ≤ support vote.weights (entries image y)) ∧
        (vote.IsInverted → ensemble.OpposesSupport image)) := by
  intro ensemble
  have learned := (hasLearned_ofImage .weightedVote image config).attempt calls
  rcases learned.exists_weightedVote with ⟨vote, votes, voteLearned⟩
  refine ⟨vote, votes, voteLearned.matrix, ?_, ?_⟩
  · rw [learned.ranking, List.map_map]
    exact List.map_id' _
  · intro finite
    have definite := voteLearned.isDefinite finite
    exact ⟨learned.followsSupport_iff votes voteLearned definite,
      learned.opposesSupport votes voteLearned definite⟩

end Order

section Example

/-- Two motifs, of which one selects both points, after a negative label. The point that both motifs
select has more support. -/
theorem attempt_followsSupport_negative_label :
    let image : Image := ⟨[⟨.ofVertex 0, [⟨"a", 0⟩, ⟨"a", 1⟩]⟩, ⟨.ofVertex 1, [⟨"a", 1⟩]⟩]⟩
    let calls : List (Point × Bool × UpdateSettings Rat) := [(⟨"a", 0⟩, false, .default)]
    let ensemble := (ofImage .weightedVote image .rational).attempt calls
    ∃ vote, ensemble.votes = .weightedVote vote ∧ (∀ rate ∈ vote.rates, isFinite rate = true) ∧
      support vote.weights (entries image ⟨"a", 0⟩) = 1 ∧
      support vote.weights (entries image ⟨"a", 1⟩) = 2 ∧ ¬vote.IsInverted ∧
      ensemble.FollowsSupport image := by
  intro image calls ensemble
  rcases attempt_followsSupport_iff image .rational calls with ⟨vote, votes, matrix, -, law⟩
  have finite : ∀ rate ∈ vote.rates, isFinite rate = true := fun _ _ => rfl
  have weighted : vote.weights = [1, 1] := by
    rw [← weights_eq votes]
    decide +kernel
  have upright : ¬vote.IsInverted := by
    intro inverted
    have negative := (inverted (entries image ⟨"a", 0⟩) (by rw [matrix]; decide +kernel)).1
    rw [weighted] at negative
    exact absurd negative (by decide +kernel)
  refine ⟨vote, votes, finite, ?_, ?_, upright, (law finite).1.mpr (Or.inl upright)⟩
  · rw [weighted]
    decide +kernel
  · rw [weighted]
    decide +kernel

/-- Two motifs that select more points than there are motifs, after a positive label for each. Both
weights are negative then, and the points of the motif with the smaller weight get the higher
probability. -/
theorem not_followsSupport_positive_labels :
    let image : Image := ⟨[⟨.ofVertex 0, [⟨"a", 0⟩, ⟨"a", 1⟩, ⟨"a", 2⟩]⟩,
      ⟨.ofVertex 1, [⟨"a", 3⟩, ⟨"a", 4⟩, ⟨"a", 5⟩, ⟨"a", 6⟩]⟩]⟩
    let calls : List (Point × Bool × UpdateSettings Rat) :=
      [(⟨"a", 0⟩, true, .default), (⟨"a", 3⟩, true, .default)]
    let ensemble := (ofImage .weightedVote image .rational).attempt calls
    Config.rational.check = .ok () ∧ ensemble.weights = [-4, -9] ∧
      ensemble.ranking = [(⟨"a", 0⟩, 8 / 21), (⟨"a", 1⟩, 8 / 21), (⟨"a", 2⟩, 8 / 21),
        (⟨"a", 3⟩, 13 / 21), (⟨"a", 4⟩, 13 / 21), (⟨"a", 5⟩, 13 / 21), (⟨"a", 6⟩, 13 / 21)] ∧
      ¬ensemble.FollowsSupport image := by
  intro image calls ensemble
  have ranked : ensemble.ranking = [(⟨"a", 0⟩, 8 / 21), (⟨"a", 1⟩, 8 / 21), (⟨"a", 2⟩, 8 / 21),
      (⟨"a", 3⟩, 13 / 21), (⟨"a", 4⟩, 13 / 21), (⟨"a", 5⟩, 13 / 21), (⟨"a", 6⟩, 13 / 21)] := by
    decide +kernel
  refine ⟨by decide +kernel, by decide +kernel, ranked, ?_⟩
  intro follows
  have atMost := follows ⟨"a", 3⟩ (13 / 21) ⟨"a", 0⟩ (8 / 21) (by simp [ranked]) (by simp [ranked])
    (by decide +kernel)
  exact absurd atMost (by decide +kernel)

end Example

end Ensemble

end MotifVote
