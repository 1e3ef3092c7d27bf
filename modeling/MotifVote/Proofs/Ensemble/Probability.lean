import MotifVote.Proofs.Ensemble.Training
import MotifVote.Proofs.Scalar.Exponential

/-!
# When votes are probabilities

A weighted vote divides one exponential by the sum of two. This gives a number from zero to one
exactly if the first exponential is finite, the second is defined, and not both are rounded to zero.
It does as long as no weight is negative and no sum of weights is infinite, because then no exponent
is larger than one.

Nothing keeps a vote in such a state. Each positive label multiplies the rates of the motifs that
select its point, by about twenty thousand with the default settings, so enough of them make a
weight infinite. The sums are then not divided by the largest of them, and the exponential of an
infinite sum is infinite itself: the probability is infinity divided by infinity.
-/

namespace MotifVote

open Exponential (exp)
open Scalar (IsNonneg IsNumber IsOrdered IsProbability IsRounded isFinite)

namespace WeightedVote

variable {α : Type} [Exponential α]

/-- The sums of weights of every point. -/
def allScores (vote : WeightedVote α) : List (α × α) := vote.matrix.rows.map (scores vote.weights)

/-- The exponentials of the sums of a point have a quotient. -/
structure HasQuotient (normalizer : α) (score : α × α) : Prop where
  isFinite_plus : isFinite (exp (score.1 / normalizer)) = true
  isNumber_minus : IsNumber (exp (score.2 / normalizer))
  positive : 0 < exp (score.1 / normalizer) + exp (score.2 / normalizer)

/-- The exponentials of every point have a quotient. -/
def IsBalanced (vote : WeightedVote α) : Prop :=
  ∀ score ∈ vote.allScores, HasQuotient (normalizer vote.allScores) score

/-- No weight is negative, and no sum of weights is infinite. -/
structure IsTame (vote : WeightedVote α) : Prop where
  isNonneg_weight : ∀ weight ∈ vote.weights, IsNonneg weight
  isFinite_score : ∀ score ∈ vote.allScores, isFinite score.1 = true ∧ isFinite score.2 = true

instance (vote : WeightedVote α) : Decidable vote.IsTame :=
  decidable_of_iff ((∀ weight ∈ vote.weights, IsNumber weight ∧ 0 ≤ weight) ∧
      ∀ score ∈ vote.allScores, isFinite score.1 = true ∧ isFinite score.2 = true)
    ⟨fun ⟨nonneg, finite⟩ => ⟨fun weight listed => ⟨(nonneg weight listed).1,
        (nonneg weight listed).2⟩, finite⟩,
      fun tame => ⟨fun weight listed => ⟨(tame.isNonneg_weight weight listed).isNumber,
        (tame.isNonneg_weight weight listed).nonneg⟩, tame.isFinite_score⟩⟩

variable [IsRounded α]

section Quotient

variable {divisor : α} {score : α × α} {vote : WeightedVote α}

theorem isProbability_probability_iff :
    IsProbability (probability divisor score) ↔ HasQuotient divisor score := by
  have shape : probability divisor score = exp (score.1 / divisor) /
      (exp (score.1 / divisor) + exp (score.2 / divisor)) := rfl
  constructor
  · intro proportion
    have defined := proportion.isNumber
    rw [shape] at defined
    rcases IsRounded.isNumber_of_div defined with ⟨plus, sum⟩
    have minus := (IsRounded.isNumber_of_add sum).2
    have plusNonneg := Scalar.isNonneg_exp (IsRounded.isNumber_exp_iff.mp plus)
    have minusNonneg := Scalar.isNonneg_exp (IsRounded.isNumber_exp_iff.mp minus)
    refine ⟨?_, minus, IsRounded.exp_add_exp_pos defined⟩
    rcases IsRounded.isFinite_of_div defined with finite | finite
    · exact finite
    · exact IsRounded.isFinite_of_le plusNonneg
        (IsRounded.le_add_right plusNonneg minusNonneg) finite
  · rintro ⟨finite, minus, positive⟩
    have plus := IsOrdered.isNumber_of_isFinite finite
    have plusNonneg := Scalar.isNonneg_exp (IsRounded.isNumber_exp_iff.mp plus)
    have minusNonneg := Scalar.isNonneg_exp (IsRounded.isNumber_exp_iff.mp minus)
    rw [shape]
    exact IsRounded.isProbability_div plusNonneg finite (plusNonneg.add minusNonneg).isNumber
      (IsRounded.le_add_right plusNonneg minusNonneg) positive

theorem isProbability_probabilities_iff :
    (∀ p ∈ vote.probabilities, IsProbability p) ↔ vote.IsBalanced := by
  have shape : vote.probabilities =
      vote.allScores.map (probability (normalizer vote.allScores)) := rfl
  simp only [shape, List.forall_mem_map, isProbability_probability_iff, IsBalanced]

theorem hasQuotient_of_pos (finite : isFinite (exp (score.1 / divisor)) = true)
    (positive : 0 < exp (score.1 / divisor)) (number : IsNumber (score.2 / divisor)) :
    HasQuotient divisor score := by
  have plusNumber := IsOrdered.isNumber_of_isFinite finite
  have plus := Scalar.isNonneg_exp (IsRounded.isNumber_exp_iff.mp plusNumber)
  have minus := Scalar.isNonneg_exp number
  exact ⟨finite, minus.isNumber, Scalar.lt_of_lt_of_le IsOrdered.isNumber_zero plusNumber
    (plus.add minus).isNumber positive (IsRounded.le_add_right plus minus)⟩

/-- Where all numbers are finite, and no exponential is rounded to zero, nothing else is needed. -/
theorem isBalanced_of_isFinite (finite : ∀ x : α, isFinite x = true)
    (positive : ∀ x : α, 0 < exp x) (vote : WeightedVote α) : vote.IsBalanced := by
  intro score _
  exact hasQuotient_of_pos (finite _) (positive _) (IsOrdered.isNumber_of_isFinite (finite _))

end Quotient

section Tame

variable {vote : WeightedVote α}

theorem isNonneg_scores {weights : List α} (nonneg : ∀ weight ∈ weights, IsNonneg weight)
    (row : List Bool) : IsNonneg (scores weights row).1 ∧ IsNonneg (scores weights row).2 := by
  rw [scores]
  refine List.foldlRecOn (motive := fun sums : α × α => IsNonneg sums.1 ∧ IsNonneg sums.2)
    (row.zip weights) _ ⟨Scalar.isNonneg_zero, Scalar.isNonneg_zero⟩ ?_
  rintro sums ⟨plus, minus⟩ entry member
  have weight := nonneg entry.2 (List.of_mem_zip member).2
  split
  · exact ⟨plus.add weight, minus⟩
  · exact ⟨plus, minus.add weight⟩

theorem IsTame.isNonneg_score (tame : vote.IsTame) {score : α × α}
    (listed : score ∈ vote.allScores) : IsNonneg score.1 ∧ IsNonneg score.2 := by
  rcases List.mem_map.mp listed with ⟨row, -, rfl⟩
  exact isNonneg_scores tame.isNonneg_weight row

/-- The divisor is positive and no less than any sum: it is the largest sum, and if that is zero,
all sums are. -/
theorem IsTame.normalizer_spec (tame : vote.IsTame) {score : α × α}
    (listed : score ∈ vote.allScores) :
    IsNumber (normalizer vote.allScores) ∧ 0 < normalizer vote.allScores ∧
      score.1 ≤ normalizer vote.allScores ∧ score.2 ≤ normalizer vote.allScores := by
  have zeroNumber : IsNumber (0 : α) := IsOrdered.isNumber_zero
  have oneNumber : IsNumber (1 : α) := IsRounded.isNumber_one
  have sums : ∀ x ∈ vote.allScores.map (·.1) ++ vote.allScores.map (·.2),
      IsNonneg x ∧ isFinite x = true := by
    intro x member
    rcases List.mem_append.mp member with plus | minus
    · rcases List.mem_map.mp plus with ⟨other, otherListed, rfl⟩
      exact ⟨(tame.isNonneg_score otherListed).1, (tame.isFinite_score other otherListed).1⟩
    · rcases List.mem_map.mp minus with ⟨other, otherListed, rfl⟩
      exact ⟨(tame.isNonneg_score otherListed).2, (tame.isFinite_score other otherListed).2⟩
  have plusListed : score.1 ∈ vote.allScores.map (·.1) ++ vote.allScores.map (·.2) :=
    List.mem_append_left _ (List.mem_map_of_mem listed)
  have minusListed : score.2 ∈ vote.allScores.map (·.1) ++ vote.allScores.map (·.2) :=
    List.mem_append_right _ (List.mem_map_of_mem listed)
  rcases Scalar.largest?_spec (List.ne_nil_of_mem plusListed)
    (fun x member => (sums x member).1.isNumber) with ⟨most, mostListed, found, bound⟩
  rcases sums most mostListed with ⟨mostNonneg, mostFinite⟩
  by_cases vanishes : (most == 0) = true
  · have one : normalizer vote.allScores = 1 := by simp [normalizer, found, vanishes]
    have atMostOne : ∀ {x : α}, IsNumber x → x ≤ most → x ≤ 1 := by
      intro x number atMost
      have zeroLeOne := Scalar.le_of_lt zeroNumber oneNumber IsRounded.zero_lt_one
      have mostLeZero := ((IsRounded.beq_iff mostNonneg.isNumber zeroNumber).mp vanishes).1
      exact IsOrdered.le_trans number mostNonneg.isNumber oneNumber atMost
        (IsOrdered.le_trans mostNonneg.isNumber zeroNumber oneNumber mostLeZero zeroLeOne)
    rw [one]
    exact ⟨oneNumber, IsRounded.zero_lt_one,
      atMostOne (sums _ plusListed).1.isNumber (bound _ plusListed),
      atMostOne (sums _ minusListed).1.isNumber (bound _ minusListed)⟩
  · have largest : normalizer vote.allScores = most := by
      simp [normalizer, found, mostFinite, vanishes]
    have positive : 0 < most := by
      rw [← IsOrdered.not_le mostNonneg.isNumber zeroNumber]
      intro atMost
      exact vanishes ((IsRounded.beq_iff mostNonneg.isNumber zeroNumber).mpr
        ⟨atMost, mostNonneg.nonneg⟩)
    rw [largest]
    exact ⟨mostNonneg.isNumber, positive, bound _ plusListed, bound _ minusListed⟩

theorem IsTame.isBalanced (tame : vote.IsTame) : vote.IsBalanced := by
  intro score listed
  rcases tame.isNonneg_score listed with ⟨plus, minus⟩
  rcases tame.isFinite_score score listed with ⟨plusFinite, minusFinite⟩
  rcases tame.normalizer_spec listed with ⟨number, positive, plusLe, minusLe⟩
  have plusPart := IsRounded.isProbability_div plus plusFinite number plusLe positive
  have minusPart := IsRounded.isProbability_div minus minusFinite number minusLe positive
  rcases IsRounded.exp_unit plusPart with ⟨finite, expPositive⟩
  exact hasQuotient_of_pos finite expPositive minusPart.isNumber

end Tame

end WeightedVote

namespace Ensemble

section Learning

variable {α : Type} [Exponential α] [IsRounded α]

/-- A weighted vote can learn any labels of its points, in any order and with any settings. It then
has a value for each point, and all of them are probabilities exactly if the vote is balanced; that
it is if no weight is negative and no sum of weights is infinite. -/
theorem learn_isProbability_iff (image : Image) (config : Config α)
    {lessons : List (Point × Bool × UpdateSettings α)}
    (known : ∀ lesson ∈ lessons, lesson.1 ∈ image.distinctDomain) :
    ∃ ensemble vote, (ofImage .weightedVote image config).learn lessons = .ok ensemble ∧
      ensemble.votes = .weightedVote vote ∧
      ensemble.ranking.map (·.1) = image.distinctDomain ∧
      ((∀ p ∈ ensemble.probabilities, IsProbability p) ↔ vote.IsBalanced) ∧
      (vote.IsTame → vote.IsBalanced) := by
  have inDomain : ∀ lesson ∈ lessons,
      lesson.1 ∈ (ofImage .weightedVote image config).domain := known
  rcases exists_learn_eq_ok inDomain with ⟨ensemble, learned, strategy, matrix⟩
  have arises : ensemble.Arises := (Arises.ofImage .weightedVote image config).learn learned
  have domain : ensemble.ranking.map (·.1) = image.distinctDomain := by
    rw [arises.map_ranking, Ensemble.domain, matrix]
    rfl
  rcases votes : ensemble.votes with jury | jury | vote
  · simp [Ensemble.strategy, votes, ofImage] at strategy
  · simp [Ensemble.strategy, votes, ofImage] at strategy
  · refine ⟨ensemble, vote, learned, votes, domain, ?_, WeightedVote.IsTame.isBalanced⟩
    have values : ensemble.probabilities = vote.probabilities := by
      simp only [probabilities, votes]
    rw [values]
    exact WeightedVote.isProbability_probabilities_iff

end Learning

section Example

/-- The exponentials that one positive label of the image below asks for, as doubles. Those of other
numbers have no meaning. -/
def expOfOneLabel (x : Float) : Float :=
  if x == x then
    if x == 10.0 then 22026.465794806718
    else if x == 1.0 then 2.718281828459045
    else if x == 9.079573740486879e-5 then 1.0000907998594626
    else 1.0
  else x

theorem isExponential_expOfOneLabel : IsExponential expOfOneLabel := by
  have values : ∀ x, IsNumber x → IsNumber (expOfOneLabel x) ∧
      isFinite (expOfOneLabel x) = true ∧ 0 < expOfOneLabel x := by
    intro x number
    have equal : (x == x) = true := number
    rw [expOfOneLabel, if_pos equal]
    split_ifs <;> decide +kernel
  have undefined : ∀ x, ¬IsNumber x → expOfOneLabel x = x := by
    intro x notNumber
    exact if_neg notNumber
  refine ⟨?_, ?_, fun x unit => (values x unit.isNumber).2⟩
  · intro x
    by_cases number : IsNumber x
    · exact iff_of_true (values x number).1 number
    · rw [undefined x number]
  · intro x number
    rcases values x number with ⟨defined, -, positive⟩
    exact Scalar.le_of_lt IsOrdered.isNumber_zero defined positive

/-- Two motifs, each of which selects a point of its own, after a positive label of the first point.
Rational numbers are all finite, so the values are probabilities. Over doubles no weight is negative
and no sum is infinite, so they are probabilities as well. -/
theorem learn_isProbability_one_label :
    let image : Image := ⟨[⟨.ofVertex 0, [⟨"a", 0⟩]⟩, ⟨.ofVertex 1, [⟨"a", 1⟩]⟩]⟩
    (let lessons : List (Point × Bool × UpdateSettings Rat) := [(⟨"a", 0⟩, true, .default)]
     Config.rational.check = .ok () ∧ (∀ lesson ∈ lessons, lesson.1 ∈ image.distinctDomain) ∧
      ∃ ensemble, (ofImage .weightedVote image .rational).learn lessons = .ok ensemble ∧
        ensemble.ranking.map (·.1) = [⟨"a", 0⟩, ⟨"a", 1⟩] ∧
        ∀ p ∈ ensemble.probabilities, IsProbability p) ∧
    (let lessons : List (Point × Bool × UpdateSettings Float) := [(⟨"a", 0⟩, true, .default)]
     letI := doublesWith expOfOneLabel fun _ _ => 1.0
     Config.default.check = .ok () ∧ (∀ lesson ∈ lessons, lesson.1 ∈ image.distinctDomain) ∧
      ∃ ensemble, (ofImage .weightedVote image .default).learn lessons = .ok ensemble ∧
        ensemble.ranking.map (·.1) = [⟨"a", 0⟩, ⟨"a", 1⟩] ∧
        ∀ p ∈ ensemble.probabilities, IsProbability p) := by
  intro image
  constructor
  · intro lessons
    have known : ∀ lesson ∈ lessons, lesson.1 ∈ image.distinctDomain := by
      simp only [lessons, List.forall_mem_singleton]
      decide +kernel
    rcases learn_isProbability_iff image .rational known with
      ⟨ensemble, vote, learned, -, domain, probabilities, -⟩
    have balanced :=
      WeightedVote.isBalanced_of_isFinite (fun _ => rfl) Scalar.exp_rational_pos vote
    exact ⟨by decide +kernel, known, ensemble, learned, domain.trans (by decide +kernel),
      probabilities.mpr balanced⟩
  · intro lessons
    let _ := doublesWith expOfOneLabel fun _ _ => 1.0
    have _ := isRounded_doublesWith isExponential_expOfOneLabel fun _ _ => 1.0
    have known : ∀ lesson ∈ lessons, lesson.1 ∈ image.distinctDomain := by
      simp only [lessons, List.forall_mem_singleton]
      decide +kernel
    rcases learn_isProbability_iff image .default known with
      ⟨ensemble, vote, learned, votes, domain, probabilities, balanced⟩
    have tame : ((ofImage .weightedVote image .default).learn lessons).toOption.map
        (fun ensemble => match ensemble.votes with
          | .weightedVote vote => decide vote.IsTame
          | _ => false) = some true := by
      decide +kernel
    simp only [learned, votes, Except.toOption, Option.map_some, Option.some.injEq,
      decide_eq_true_eq] at tame
    exact ⟨by decide +kernel, known, ensemble, learned, domain.trans (by decide +kernel),
      probabilities.mpr (balanced tame)⟩

/-- Doubles with the powers that the labels below lead to: of the exponential function the values at
zero, one, ten and infinity, and one to the power of zero. What is given for other arguments has no
meaning. -/
@[reducible]
def doublesWithPowers : Exponential Float where
  exp x :=
    if x == 0.0 then 1.0
    else if x == 1.0 then 2.718281828459045
    else if x == 10.0 then 22026.465794806718
    else x
  pow _ _ := 1.0

/-- The same image over doubles, with the default settings: after the first point has been called
positive seventy-two times, its value is not a number. -/
theorem undefined_after_positive_labels :
    letI := doublesWithPowers
    let image : Image := ⟨[⟨.ofVertex 0, [⟨"a", 0⟩]⟩, ⟨.ofVertex 1, [⟨"a", 1⟩]⟩]⟩
    let lessons : List (Point × Bool × UpdateSettings Float) :=
      List.replicate 72 (⟨"a", 0⟩, true, .default)
    Config.default.check = .ok () ∧ image.distinctDomain = [⟨"a", 0⟩, ⟨"a", 1⟩] ∧
      ((ofImage .weightedVote image .default).learn lessons).toOption.map
        (fun ensemble => ensemble.probabilities.map fun p => p == p) = some [false, true] := by
  exact ⟨by decide +kernel, by decide +kernel, by decide +kernel⟩

end Example

end Ensemble

end MotifVote
