import MotifVote.Proofs.Ensemble.Support
import MotifVote.Proofs.Ensemble.Tally
import MotifVote.Proofs.Scalar.Product

/-!
# Rates of false positives

A label multiplies the rate of every motif by a factor, those of motifs that do not select the point
included. For these the factor is one, because the exponential function is taken of a product with
zero; and it is never negative, so rates keep their signs however large they become. With settings
that are not negative, a negative label has factors of at most one, and a positive label has factors
of at least one.
-/

namespace MotifVote

open Exponential (exp)
open Scalar (RealProducts)
open Scalar.RealProducts (value)

namespace WeightedVote

variable {α : Type} [Exponential α]

/-- A number does not become negative, and does not become positive. -/
structure KeepsSign (before after : α) : Prop where
  nonneg : 0 ≤ before → 0 ≤ after
  nonpos : before ≤ 0 → after ≤ 0

/-- What a label does to the rate of a motif that may select its point. -/
structure IsRevised (selects label : Bool) (learningRate discount scale before after : α) :
    Prop where
  unselected : selects = false → after = before
  unlearned : learningRate = 0 → after = before
  sign : KeepsSign before after
  /-- A negative label does not increase the magnitude of a rate. -/
  negative : label = false → 0 ≤ learningRate → 0 ≤ discount → 0 ≤ scale →
    Scalar.abs after ≤ Scalar.abs before
  /-- A positive label does not decrease it. -/
  positive : label = true → 0 ≤ learningRate → 0 ≤ discount → 0 ≤ scale →
    Scalar.abs before ≤ Scalar.abs after

/-- What a label of a point does to a vote. -/
structure Revises (point : Point) (label : Bool) (learningRate discount scale : α)
    (vote next : WeightedVote α) : Prop where
  matrix : next.matrix = vote.matrix
  coverage : next.coverage = vote.coverage
  length_rates : next.rates.length = vote.rates.length
  rates : ∀ column before after, vote.rates[column]? = some before →
    next.rates[column]? = some after →
      IsRevised (vote.matrix.selects point column) label learningRate discount scale before after

section Factor

variable [RealProducts α] {label : Bool} {learningRate discount scale rate : α} {selects : Bool}

/-- What the exponential function is taken of. -/
theorem exists_factor_eq (label : Bool) (learningRate discount scale : α) (selects : Bool) :
    ∃ exponent, factor label learningRate discount scale selects = exp exponent ∧
      value exponent = -value learningRate *
        ((if selects then 1 else 0) * if label then -value scale else 1) * value discount := by
  refine ⟨_, rfl, ?_⟩
  simp only [RealProducts.value_mul, RealProducts.value_neg]
  cases label <;> cases selects <;>
    simp [RealProducts.value_mul, RealProducts.value_neg, RealProducts.value_zero,
      RealProducts.value_one]

theorem value_factor_nonneg (label : Bool) (learningRate discount scale : α) (selects : Bool) :
    0 ≤ value (factor label learningRate discount scale selects) :=
  RealProducts.value_exp_nonneg _

theorem value_factor_unselected (label : Bool) (learningRate discount scale : α) :
    value (factor label learningRate discount scale false) = 1 := by
  rcases exists_factor_eq label learningRate discount scale false with ⟨exponent, same, taken⟩
  rw [same]
  apply RealProducts.value_exp_eq_one
  rw [taken]
  simp

theorem value_factor_unlearned (label : Bool) (discount scale : α) (selects : Bool) :
    value (factor label 0 discount scale selects) = 1 := by
  rcases exists_factor_eq label 0 discount scale selects with ⟨exponent, same, taken⟩
  rw [same]
  apply RealProducts.value_exp_eq_one
  rw [taken, RealProducts.value_zero]
  simp

theorem value_factor_le_one (learns : 0 ≤ learningRate) (discounts : 0 ≤ discount) (scale : α)
    (selects : Bool) : value (factor false learningRate discount scale selects) ≤ 1 := by
  rcases exists_factor_eq false learningRate discount scale selects with ⟨exponent, same, taken⟩
  rw [RealProducts.nonneg_iff] at learns discounts
  rw [same]
  apply RealProducts.value_exp_le_one
  have product := mul_nonneg learns discounts
  rw [taken]
  cases selects
  · simp
  · simpa using product

theorem one_le_value_factor (learns : 0 ≤ learningRate) (discounts : 0 ≤ discount)
    (scales : 0 ≤ scale) (selects : Bool) :
    1 ≤ value (factor true learningRate discount scale selects) := by
  rcases exists_factor_eq true learningRate discount scale selects with ⟨exponent, same, taken⟩
  rw [RealProducts.nonneg_iff] at learns discounts scales
  rw [same]
  apply RealProducts.one_le_value_exp
  have product := mul_nonneg (mul_nonneg learns scales) discounts
  rw [taken]
  cases selects
  · simp
  · simpa using product

theorem mul_eq_of_value_eq_one {x : α} (one : value x = 1) (rate : α) : rate * x = rate := by
  apply RealProducts.value_injective
  rw [RealProducts.value_mul, one, mul_one]

theorem keepsSign_mul {x : α} (nonneg : 0 ≤ value x) (rate : α) : KeepsSign rate (rate * x) where
  nonneg rateNonneg := by
    rw [RealProducts.nonneg_iff] at rateNonneg ⊢
    rw [RealProducts.value_mul]
    exact mul_nonneg rateNonneg nonneg
  nonpos rateNonpos := by
    rw [RealProducts.nonpos_iff] at rateNonpos ⊢
    rw [RealProducts.value_mul]
    exact mul_nonpos_of_nonpos_of_nonneg rateNonpos nonneg

theorem value_abs_mul {x : α} (nonneg : 0 ≤ value x) (rate : α) :
    value (Scalar.abs (rate * x)) = value (Scalar.abs rate) * value x := by
  rw [RealProducts.value_abs, RealProducts.value_abs, RealProducts.value_mul, abs_mul,
    abs_of_nonneg nonneg]

theorem value_abs_nonneg (rate : α) : 0 ≤ value (Scalar.abs rate) := by
  rw [RealProducts.value_abs]
  exact abs_nonneg _

/-- One rate times its factor. -/
theorem isRevised_mul_factor (selects label : Bool) (learningRate discount scale rate : α) :
    IsRevised selects label learningRate discount scale rate
      (rate * factor label learningRate discount scale selects) where
  unselected := by
    rintro rfl
    exact mul_eq_of_value_eq_one (value_factor_unselected label learningRate discount scale) rate
  unlearned := by
    rintro rfl
    exact mul_eq_of_value_eq_one (value_factor_unlearned label discount scale selects) rate
  sign := keepsSign_mul (value_factor_nonneg label learningRate discount scale selects) rate
  negative := by
    rintro rfl learns discounts _
    rw [RealProducts.le_iff,
      value_abs_mul (value_factor_nonneg false learningRate discount scale selects)]
    exact mul_le_of_le_one_right (value_abs_nonneg rate)
      (value_factor_le_one learns discounts scale selects)
  positive := by
    rintro rfl learns discounts scales
    rw [RealProducts.le_iff,
      value_abs_mul (value_factor_nonneg true learningRate discount scale selects)]
    exact le_mul_of_one_le_right (value_abs_nonneg rate)
      (one_le_value_factor learns discounts scales selects)

/-- A vote of which the row of the point has an entry for each rate. -/
theorem revises_observe {vote : WeightedVote α} {point : Point} {row : Nat}
    (found : vote.matrix.requireRow point = .ok row)
    (wide : (vote.matrix.row row).length = vote.rates.length) (label : Bool)
    (learningRate discount scale : α) :
    Revises point label learningRate discount scale vote
      (vote.observe row label learningRate discount scale) where
  matrix := rfl
  coverage := rfl
  length_rates := by simp [observe, wide]
  rates := by
    intro column before after known revised
    have bound : column < (vote.matrix.row row).length := by
      rw [wide]
      exact (List.getElem?_eq_some_iff.mp known).1
    have entry : vote.matrix.selects point column = (vote.matrix.row row)[column] := by
      simp [InclusionMatrix.selects, InclusionMatrix.requireRow_eq_ok_iff.mp found,
        InclusionMatrix.includes, bound]
    simp only [observe, List.getElem?_zipWith, known, List.getElem?_eq_getElem bound,
      Option.some.injEq] at revised
    rw [entry, ← revised]
    exact isRevised_mul_factor _ label learningRate discount scale before

end Factor

section Learning

variable {image : Image} {config : Config α} {vote : WeightedVote α}
variable {lessons : List (Point × Bool × UpdateSettings α)}

theorem length_foldl_nextRates {rates : List α} (length : rates.length = image.motifs.length) :
    (lessons.foldl (nextRates image config) rates).length = image.motifs.length := by
  induction lessons generalizing rates with
  | nil => exact length
  | cons lesson lessons ih =>
      apply ih
      rw [nextRates, List.length_zipWith, length, InclusionMatrix.length_entries, Nat.min_self]

theorem HasLearned.length_rates (learned : vote.HasLearned image config lessons) :
    vote.rates.length = image.motifs.length := by
  rw [learned.rates]
  apply length_foldl_nextRates
  rw [← (hasLearned_ofImage image config).length_coverage]
  cases approximate : config.approximateRates <;> simp [ofImage, ofMatrix, approximate]

end Learning

end WeightedVote

namespace Ensemble

open WeightedVote (Revises)

variable {α : Type} [Exponential α] {ensemble : Ensemble α}

/-- An ensemble in training has been made of some image and has seen some labels. -/
theorem Arises.exists_hasLearned (arises : ensemble.Arises) :
    ∃ image config lessons, HasLearned ensemble.strategy image config lessons ensemble := by
  induction arises with
  | ofImage strategy image config =>
      have started := hasLearned_ofImage strategy image config
      refine ⟨image, config, [], ?_⟩
      cases strategy <;> exact started
  | update _ learned ih =>
      rcases ih with ⟨image, config, lessons, before⟩
      rw [strategy_update learned]
      exact ⟨image, config, _, before.update learned⟩

theorem update_weightedVote {vote : WeightedVote α} {point : Point} {row : Nat}
    (votes : ensemble.votes = .weightedVote vote)
    (found : vote.matrix.requireRow point = .ok row) (label : Bool) (settings : UpdateSettings α) :
    ensemble.update point label settings = .ok { ensemble with
      votes := .weightedVote (vote.observe row label
        (settings.learningRate.getD ensemble.learningRate) settings.discount settings.scale) } := by
  have same : ensemble.matrix = vote.matrix := by rw [matrix, votes]
  simp only [update, same, found, bind, Except.bind, pure, Except.pure, observe, votes]

variable [RealProducts α]

theorem Arises.exists_revised (arises : ensemble.Arises)
    (weighted : ensemble.strategy = .weightedVote) {point : Point} (known : point ∈ ensemble.domain)
    (label : Bool) (settings : UpdateSettings α) :
    ∃ vote next, ensemble.votes = .weightedVote vote ∧
      vote.rates.length = vote.matrix.motifs.length ∧
      ensemble.update point label settings = .ok { ensemble with votes := .weightedVote next } ∧
      Revises point label (settings.learningRate.getD ensemble.learningRate) settings.discount
        settings.scale vote next := by
  rcases arises.exists_hasLearned with ⟨image, config, lessons, learned⟩
  rw [weighted] at learned
  rcases learned.exists_weightedVote with ⟨vote, votes, voteLearned⟩
  have motifs : vote.matrix.motifs = image.motifs := by
    rw [voteLearned.matrix]
    rfl
  have listed : point ∈ vote.matrix.points := by
    rwa [voteLearned.matrix, ← learned.matrix]
  rcases InclusionMatrix.exists_requireRow_eq_ok listed with ⟨row, found⟩
  have wide : (vote.matrix.row row).length = vote.rates.length := by
    rw [voteLearned.length_rates]
    rw [voteLearned.matrix] at found ⊢
    rw [(InclusionMatrix.row_of_requireRow found).2, InclusionMatrix.length_entries]
  refine ⟨vote, _, votes, ?_, update_weightedVote votes found label settings, ?_⟩
  · rw [voteLearned.length_rates, motifs]
  · exact WeightedVote.revises_observe found wide label _ _ _

/-- A label is revealed to a weighted vote in training. If the point is none of its own, the label
is refused and changes nothing. Otherwise the label changes rates and nothing else, and only those
of motifs that select the point. No rate changes its sign, and magnitudes grow only by positive
labels and fall only by negative ones. -/
theorem Arises.update_revises (arises : ensemble.Arises)
    (weighted : ensemble.strategy = .weightedVote) (point : Point) (label : Bool)
    (settings : UpdateSettings α) :
    (point ∉ ensemble.domain →
      ensemble.update point label settings =
        .error (.pointNotInDomain point.document point.identifier) ∧
      ensemble.attempt [(point, label, settings)] = ensemble) ∧
    (point ∈ ensemble.domain → ∃ vote next, ensemble.votes = .weightedVote vote ∧
      vote.rates.length = vote.matrix.motifs.length ∧
      ensemble.update point label settings = .ok { ensemble with votes := .weightedVote next } ∧
      Revises point label (settings.learningRate.getD ensemble.learningRate) settings.discount
        settings.scale vote next) := by
  refine ⟨?_, fun known => arises.exists_revised weighted known label settings⟩
  intro unknown
  exact ⟨update_eq_error_iff.mpr ⟨unknown, rfl⟩, attempt_of_not_mem unknown []⟩

/-- Two motifs, of which one has a negative rate and the other a positive one. A positive label of a
point of the first motif makes its rate no less negative, and leaves the other rate. -/
theorem Arises.update_revises_two_motifs :
    let image : Image := ⟨[⟨.ofVertex 0, [⟨"a", 0⟩]⟩,
      ⟨.ofVertex 1, [⟨"a", 1⟩, ⟨"a", 2⟩, ⟨"a", 3⟩]⟩]⟩
    let config : Config Scalar.Exact :=
      ⟨⟨1 / 100⟩, ⟨7 / 10⟩, ⟨10⟩, ⟨1⟩, true, ⟨1 / 10⟩, ⟨1⟩, ∅, ⟨2⟩⟩
    let settings : UpdateSettings Scalar.Exact := ⟨some ⟨1⟩, ⟨1 / 2⟩, 2, ⟨2⟩⟩
    let ensemble := Ensemble.ofImage .weightedVote image config
    ∃ vote next, ensemble.votes = .weightedVote vote ∧ vote.rates = [⟨-1 / 4⟩, ⟨1 / 4⟩] ∧
      ensemble.update ⟨"a", 0⟩ true settings =
        .ok { ensemble with votes := .weightedVote next } ∧
      ∃ first, next.rates = [first, ⟨1 / 4⟩] ∧ first.value ≤ -1 / 4 ∧
      ensemble.update ⟨"b", 7⟩ true settings = .error (.pointNotInDomain "b" 7) := by
  intro image config settings ensemble
  have arises : ensemble.Arises := .ofImage .weightedVote image config
  have rates : (WeightedVote.ofImage image config).rates = [⟨-1 / 4⟩, ⟨1 / 4⟩] := by
    have sizes : (InclusionMatrix.ofImage image).selectionSizes = [1, 3] := by decide +kernel
    have motifs : (InclusionMatrix.ofImage image).motifs.length = 2 := by decide +kernel
    have shape : (WeightedVote.ofImage image config).rates =
        [⟨((1 : Nat) / (2 : Nat) - 1) / (2 : Nat)⟩, ⟨((3 : Nat) / (2 : Nat) - 1) / (2 : Nat)⟩] := by
      have start : (if config.approximateRates then none else some config.flatRate) = none := rfl
      rw [WeightedVote.ofImage, start, WeightedVote.ofMatrix, WeightedVote.coverageOf, sizes,
        motifs]
      rfl
    rw [shape]
    norm_num
  rcases (arises.update_revises rfl ⟨"a", 0⟩ true settings).2 (by decide +kernel) with
    ⟨vote, next, votes, -, success, revised⟩
  have initial : vote = WeightedVote.ofImage image config := (Votes.weightedVote.inj votes).symm
  rw [← initial] at rates
  have length : next.rates.length = 2 := by
    rw [revised.length_rates, rates]
    rfl
  rcases List.length_eq_two.mp length with ⟨first, second, same⟩
  have own := revised.rates 0 ⟨-1 / 4⟩ first (by rw [rates]; rfl) (by rw [same]; rfl)
  have other := revised.rates 1 ⟨1 / 4⟩ second (by rw [rates]; rfl) (by rw [same]; rfl)
  have unchanged : second = ⟨1 / 4⟩ := by
    apply other.unselected
    rw [initial]
    decide +kernel
  have quarter : (-1 / 4 : ℝ) ≤ 0 := by norm_num
  have nonpos : first.value ≤ 0 := own.sign.nonpos quarter
  have larger : |(-1 / 4 : ℝ)| ≤ |first.value| := by
    have discount : (0 : ℝ) ≤ settings.discount.value := Real.rpow_nonneg (by norm_num) _
    have grown := own.positive rfl (zero_le_one (α := ℝ)) discount (zero_le_two (α := ℝ))
    rwa [RealProducts.le_iff, RealProducts.value_abs, RealProducts.value_abs] at grown
  refine ⟨vote, next, votes, rates, success, first, by rw [same, unchanged], ?_, ?_⟩
  · rw [abs_of_nonpos nonpos, abs_of_nonpos quarter] at larger
    exact neg_le_neg_iff.mp larger
  · exact ((arises.update_revises rfl ⟨"b", 7⟩ true settings).1 (by decide +kernel)).1

end Ensemble

end MotifVote
