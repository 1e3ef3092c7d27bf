import MotifVote.Proofs.Ensemble.Curve

/-!
# Scores without rounding

Precision and recall are the hits in parts of the predicted and of the true points. With rational
numbers their weighted harmonic mean is a quotient of the same hits: they are divided by the
predicted and the true points taken together, with the same weights. So it lies between precision
and recall. One more point that is predicted adds one to what the hits are divided by, and one to
the hits if it is true. All that is said here of a score follows from what this does to a quotient.
-/

namespace MotifVote

section Quotients

variable {K : Type*} [Field K] [LinearOrder K] [IsStrictOrderedRing K]
variable {hits counted whole weight bound : K}

theorem div_le_div_add_one (nonneg : 0 ≤ hits) (atMost : hits ≤ counted) :
    hits / counted ≤ (hits + 1) / (counted + 1) := by
  have positive : 0 < counted + 1 := by linarith
  rcases (nonneg.trans atMost).eq_or_lt with none | some
  · rw [← none, div_zero]
    exact div_nonneg (by linarith) (by linarith)
  · rw [div_le_div_iff₀ some positive]
    linarith

theorem div_add_one_le_div (nonneg : 0 ≤ hits) (atMost : hits ≤ counted) :
    hits / (counted + 1) ≤ hits / counted := by
  rcases (nonneg.trans atMost).eq_or_lt with none | some
  · have missed : hits = 0 := le_antisymm (none ▸ atMost) nonneg
    simp [missed]
  · exact div_le_div_of_nonneg_left nonneg some (by linarith)

theorem harmonicMean_eq (hitSome : 0 < hits) (countedSome : 0 < counted) (wholeSome : 0 < whole)
    (nonneg : 0 ≤ weight) :
    (1 + weight) * (hits / counted) * (hits / whole) /
        (weight * (hits / counted) + hits / whole) =
      (1 + weight) * (hits / (weight * whole + counted)) := by
  have positive : 0 < weight * whole + counted := by positivity
  field_simp

/-- The mean is no less than the hits in parts of anything larger than both. -/
theorem div_le_mean (hitNonneg : 0 ≤ hits) (countedSome : 0 < counted) (wholeSome : 0 < whole)
    (nonneg : 0 ≤ weight) (countedLe : counted ≤ bound) (wholeLe : whole ≤ bound) :
    hits / bound ≤ (1 + weight) * (hits / (weight * whole + counted)) := by
  have positive : 0 < weight * whole + counted := by positivity
  have weighted : weight * whole + counted ≤ (1 + weight) * bound := by
    calc weight * whole + counted ≤ weight * bound + bound := by gcongr
      _ = (1 + weight) * bound := by ring
  rw [← mul_div_assoc, div_le_div_iff₀ (countedSome.trans_le countedLe) positive]
  calc hits * (weight * whole + counted) ≤ hits * ((1 + weight) * bound) := by gcongr
    _ = (1 + weight) * hits * bound := by ring

/-- The mean is no more than the hits in parts of anything smaller than both. -/
theorem mean_le_div (hitNonneg : 0 ≤ hits) (boundSome : 0 < bound) (nonneg : 0 ≤ weight)
    (leCounted : bound ≤ counted) (leWhole : bound ≤ whole) :
    (1 + weight) * (hits / (weight * whole + counted)) ≤ hits / bound := by
  have countedSome : 0 < counted := boundSome.trans_le leCounted
  have wholeSome : 0 < whole := boundSome.trans_le leWhole
  have positive : 0 < weight * whole + counted := by positivity
  have weighted : (1 + weight) * bound ≤ weight * whole + counted := by
    calc (1 + weight) * bound = weight * bound + bound := by ring
      _ ≤ weight * whole + counted := by gcongr
  rw [← mul_div_assoc, div_le_div_iff₀ positive boundSome]
  calc (1 + weight) * hits * bound = hits * ((1 + weight) * bound) := by ring
    _ ≤ hits * (weight * whole + counted) := by gcongr

end Quotients

namespace Score

variable {predicted truth : PointSet} {point : Point}

section Hits

theorem hits_le_predicted (predicted truth : PointSet) : hits predicted truth ≤ predicted.size := by
  rw [hits, ← Std.TreeSet.length_toList]
  exact List.countP_le_length

/-- No predicted point is true. -/
def Misses (predicted truth : PointSet) : Prop := ∀ point ∈ predicted, point ∉ truth

theorem hits_eq_zero_iff : hits predicted truth = 0 ↔ Misses predicted truth := by
  simp [hits, List.countP_eq_zero, Misses]

theorem hits_pos (hit : ¬Misses predicted truth) : 0 < hits predicted truth :=
  Nat.pos_of_ne_zero (mt hits_eq_zero_iff.mp hit)

theorem size_insert (fresh : point ∉ predicted) :
    (predicted.insert point).size = predicted.size + 1 := by
  rw [← Std.TreeSet.length_toList, (toList_insert_perm fresh).length_eq, List.length_cons,
    Std.TreeSet.length_toList]

theorem hits_insert (fresh : point ∉ predicted) :
    hits (predicted.insert point) truth =
      hits predicted truth + if point ∈ truth then 1 else 0 := by
  rw [hits, (toList_insert_perm fresh).countP_eq, List.countP_cons, hits]
  simp

/-- A point that has been predicted already makes no difference. -/
theorem ofSets_insert_of_mem {α : Type} [Scalar α] (known : point ∈ predicted) (beta : α) :
    ofSets (predicted.insert point) truth beta = ofSets predicted truth beta := by
  apply ofSets_congr
  intro other
  rw [Std.TreeSet.mem_insert, Std.LawfulEqCmp.compare_eq_iff_eq]
  constructor
  · rintro (rfl | inside)
    · exact known
    · exact inside
  · exact Or.inr

end Hits

section Rational

variable {beta : Rat}

theorem precision_ofSets (predicted truth : PointSet) (beta : Rat) :
    (ofSets predicted truth beta).precision =
      (hits predicted truth : Rat) / (predicted.size : Rat) := by
  have shape : (ofSets predicted truth beta).precision = if predicted.isEmpty then (0 : Rat)
      else (hits predicted truth : Rat) / (predicted.size : Rat) := rfl
  rw [shape, Std.TreeSet.isEmpty_eq_size_eq_zero]
  split
  next none =>
    rw [beq_iff_eq] at none
    simp [none]
  next => rfl

theorem sensitivity_ofSets (predicted truth : PointSet) (beta : Rat) :
    (ofSets predicted truth beta).sensitivity =
      (hits predicted truth : Rat) / (truth.size : Rat) :=
  rfl

theorem fBeta_eq (predicted truth : PointSet) (beta : Rat) :
    (ofSets predicted truth beta).fBeta = fBetaOf beta (ofSets predicted truth beta).precision
      (ofSets predicted truth beta).sensitivity :=
  rfl

/-- The predicted and the true points are taken together. -/
theorem fBeta_ofSets (nonempty : 0 < truth.size) (predicted : PointSet) (beta : Rat) :
    (ofSets predicted truth beta).fBeta = (1 + beta * beta) *
      ((hits predicted truth : Rat) / (beta * beta * (truth.size : Rat) + predicted.size)) := by
  rw [fBeta_eq, precision_ofSets, sensitivity_ofSets]
  rcases Nat.eq_zero_or_pos (hits predicted truth) with none | some
  · simp [fBetaOf, none]
  · have hitSome : (0 : Rat) < hits predicted truth := by exact_mod_cast some
    have countedSome : (0 : Rat) < predicted.size := by
      exact_mod_cast some.trans_le (hits_le_predicted predicted truth)
    have wholeSome : (0 : Rat) < truth.size := by exact_mod_cast nonempty
    rw [← harmonicMean_eq hitSome countedSome wholeSome (mul_self_nonneg beta)]
    generalize precision : (hits predicted truth : Rat) / (predicted.size : Rat) = p
    have positive : 0 < p := precision ▸ div_pos hitSome countedSome
    rw [fBetaOf, Scalar.rational_ne_zero positive]
    rfl

/-- The hits as a rational number. -/
theorem hits_bounds (predicted truth : PointSet) :
    (0 : Rat) ≤ hits predicted truth ∧ (hits predicted truth : Rat) ≤ predicted.size ∧
      (hits predicted truth : Rat) ≤ truth.size := by
  refine ⟨Nat.cast_nonneg _, ?_, ?_⟩
  · exact_mod_cast hits_le_predicted predicted truth
  · exact_mod_cast hits_le_size predicted truth

theorem precision_mem (predicted truth : PointSet) (beta : Rat) :
    (ofSets predicted truth beta).precision ∈ Set.Icc (0 : Rat) 1 := by
  rcases hits_bounds predicted truth with ⟨nonneg, atMost, -⟩
  have sizeNonneg : (0 : Rat) ≤ predicted.size := nonneg.trans atMost
  rw [precision_ofSets]
  exact ⟨div_nonneg nonneg sizeNonneg, div_le_one_of_le₀ atMost sizeNonneg⟩

theorem sensitivity_mem (predicted truth : PointSet) (beta : Rat) :
    (ofSets predicted truth beta).sensitivity ∈ Set.Icc (0 : Rat) 1 := by
  rcases hits_bounds predicted truth with ⟨nonneg, -, atMost⟩
  have sizeNonneg : (0 : Rat) ≤ truth.size := nonneg.trans atMost
  rw [sensitivity_ofSets]
  exact ⟨div_nonneg nonneg sizeNonneg, div_le_one_of_le₀ atMost sizeNonneg⟩

theorem sizes_pos (hit : ¬Misses predicted truth) :
    (0 : Rat) < hits predicted truth ∧ (0 : Rat) < predicted.size ∧ (0 : Rat) < truth.size := by
  have some : (0 : Rat) < hits predicted truth := by exact_mod_cast hits_pos hit
  rcases hits_bounds predicted truth with ⟨-, atMost, atMostTrue⟩
  exact ⟨some, some.trans_le atMost, some.trans_le atMostTrue⟩

/-- The mean lies between the hits in parts of the larger set and in parts of the smaller one. -/
theorem fBeta_between (hit : ¬Misses predicted truth) (beta : Rat) :
    min (ofSets predicted truth beta).precision (ofSets predicted truth beta).sensitivity ≤
        (ofSets predicted truth beta).fBeta ∧
      (ofSets predicted truth beta).fBeta ≤
        max (ofSets predicted truth beta).precision (ofSets predicted truth beta).sensitivity := by
  rcases sizes_pos hit with ⟨some, predictedSome, trueSome⟩
  have nonempty : 0 < truth.size := by exact_mod_cast trueSome
  rw [precision_ofSets, sensitivity_ofSets, fBeta_ofSets nonempty]
  constructor
  · refine le_trans ?_ (div_le_mean some.le predictedSome trueSome (mul_self_nonneg beta)
      (le_max_left _ _) (le_max_right _ _))
    rcases le_total (predicted.size : Rat) truth.size with ordered | ordered
    · rw [max_eq_right ordered]
      exact min_le_right _ _
    · rw [max_eq_left ordered]
      exact min_le_left _ _
  · refine le_trans (mean_le_div some.le (lt_min predictedSome trueSome) (mul_self_nonneg beta)
      (min_le_left _ _) (min_le_right _ _)) ?_
    rcases le_total (predicted.size : Rat) truth.size with ordered | ordered
    · rw [min_eq_left ordered]
      exact le_max_left _ _
    · rw [min_eq_right ordered]
      exact le_max_right _ _

end Rational

section Laws

variable {beta : Rat}

theorem precision_eq_zero_iff (predicted truth : PointSet) (beta : Rat) :
    (ofSets predicted truth beta).precision = 0 ↔ Misses predicted truth := by
  rw [precision_ofSets, ← hits_eq_zero_iff, div_eq_zero_iff, Nat.cast_eq_zero, Nat.cast_eq_zero]
  have atMost := hits_le_predicted predicted truth
  omega

theorem sensitivity_eq_zero_iff (predicted truth : PointSet) (beta : Rat) :
    (ofSets predicted truth beta).sensitivity = 0 ↔ Misses predicted truth := by
  rw [sensitivity_ofSets, ← hits_eq_zero_iff, div_eq_zero_iff, Nat.cast_eq_zero, Nat.cast_eq_zero]
  have atMost := hits_le_size predicted truth
  omega

theorem fBeta_eq_zero_of_misses (missed : Misses predicted truth) (beta : Rat) :
    (ofSets predicted truth beta).fBeta = 0 := by
  rw [fBeta_eq, (precision_eq_zero_iff predicted truth beta).mpr missed,
    (sensitivity_eq_zero_iff predicted truth beta).mpr missed]
  rfl

theorem fBeta_pos (hit : ¬Misses predicted truth) (beta : Rat) :
    0 < (ofSets predicted truth beta).fBeta := by
  rcases sizes_pos hit with ⟨some, predictedSome, trueSome⟩
  have precisionPos : 0 < (ofSets predicted truth beta).precision := by
    rw [precision_ofSets]
    exact div_pos some predictedSome
  have sensitivityPos : 0 < (ofSets predicted truth beta).sensitivity := by
    rw [sensitivity_ofSets]
    exact div_pos some trueSome
  exact (lt_min precisionPos sensitivityPos).trans_le (fBeta_between hit beta).1

theorem fBeta_eq_zero_iff (predicted truth : PointSet) (beta : Rat) :
    (ofSets predicted truth beta).fBeta = 0 ↔ Misses predicted truth := by
  constructor
  · intro vanishes
    by_contra hit
    exact (fBeta_pos hit beta).ne' vanishes
  · intro missed
    exact fBeta_eq_zero_of_misses missed beta

theorem fBeta_mem (predicted truth : PointSet) (beta : Rat) :
    (ofSets predicted truth beta).fBeta ∈ Set.Icc (0 : Rat) 1 := by
  by_cases missed : Misses predicted truth
  · rw [fBeta_eq_zero_of_misses missed]
    exact ⟨le_rfl, zero_le_one⟩
  · refine ⟨(fBeta_pos missed beta).le, (fBeta_between missed beta).2.trans ?_⟩
    exact max_le (precision_mem predicted truth beta).2 (sensitivity_mem predicted truth beta).2

theorem divisor_pos (hit : ¬Misses predicted truth) (beta : Rat) :
    0 < beta * beta * (ofSets predicted truth beta).precision +
      (ofSets predicted truth beta).sensitivity := by
  rcases sizes_pos hit with ⟨some, predictedSome, trueSome⟩
  have square : 0 ≤ beta * beta := mul_self_nonneg beta
  rw [precision_ofSets, sensitivity_ofSets]
  positivity

theorem hits_le_weighted (predicted truth : PointSet) (beta : Rat) :
    (hits predicted truth : Rat) ≤ beta * beta * truth.size + predicted.size := by
  rcases hits_bounds predicted truth with ⟨-, atMost, -⟩
  have weighted : (0 : Rat) ≤ beta * beta * truth.size :=
    mul_nonneg (mul_self_nonneg beta) (Nat.cast_nonneg _)
  linarith

theorem cast_size_insert (fresh : point ∉ predicted) :
    ((predicted.insert point).size : Rat) = predicted.size + 1 := by
  rw [size_insert fresh, Nat.cast_add, Nat.cast_one]

/-- Where the point is true, each of the three quotients gets one more hit; what the hits are
divided by grows by one or stays. -/
theorem ofSets_le_insert (nonempty : 0 < truth.size) (predicted : PointSet) (isTrue : point ∈ truth)
    (beta : Rat) :
    (ofSets predicted truth beta).precision ≤
        (ofSets (predicted.insert point) truth beta).precision ∧
      (ofSets predicted truth beta).sensitivity ≤
        (ofSets (predicted.insert point) truth beta).sensitivity ∧
      (ofSets predicted truth beta).fBeta ≤ (ofSets (predicted.insert point) truth beta).fBeta := by
  by_cases known : point ∈ predicted
  · rw [ofSets_insert_of_mem known]
    exact ⟨le_rfl, le_rfl, le_rfl⟩
  · rcases hits_bounds predicted truth with ⟨nonneg, atMost, -⟩
    have grows : (hits (predicted.insert point) truth : Rat) = hits predicted truth + 1 := by
      rw [hits_insert known, if_pos isTrue, Nat.cast_add, Nat.cast_one]
    refine ⟨?_, ?_, ?_⟩
    · rw [precision_ofSets, precision_ofSets, grows, cast_size_insert known]
      exact div_le_div_add_one nonneg atMost
    · rw [sensitivity_ofSets, sensitivity_ofSets, grows]
      exact div_le_div_of_nonneg_right (by linarith) (Nat.cast_nonneg _)
    · rw [fBeta_ofSets nonempty, fBeta_ofSets nonempty, grows, cast_size_insert known, ← add_assoc]
      exact mul_le_mul_of_nonneg_left
        (div_le_div_add_one nonneg (hits_le_weighted predicted truth beta))
        (add_nonneg zero_le_one (mul_self_nonneg beta))

/-- Where the point is false, the hits stay. -/
theorem ofSets_insert_le (nonempty : 0 < truth.size) (predicted : PointSet)
    (isFalse : point ∉ truth) (beta : Rat) :
    (ofSets (predicted.insert point) truth beta).precision ≤
        (ofSets predicted truth beta).precision ∧
      (ofSets (predicted.insert point) truth beta).sensitivity =
        (ofSets predicted truth beta).sensitivity ∧
      (ofSets (predicted.insert point) truth beta).fBeta ≤ (ofSets predicted truth beta).fBeta := by
  by_cases known : point ∈ predicted
  · rw [ofSets_insert_of_mem known]
    exact ⟨le_rfl, rfl, le_rfl⟩
  · rcases hits_bounds predicted truth with ⟨nonneg, atMost, -⟩
    have stays : hits (predicted.insert point) truth = hits predicted truth := by
      rw [hits_insert known, if_neg isFalse, Nat.add_zero]
    refine ⟨?_, ?_, ?_⟩
    · rw [precision_ofSets, precision_ofSets, stays, cast_size_insert known]
      exact div_add_one_le_div nonneg atMost
    · rw [sensitivity_ofSets, sensitivity_ofSets, stays]
    · rw [fBeta_ofSets nonempty, fBeta_ofSets nonempty, stays, cast_size_insert known, ← add_assoc]
      exact mul_le_mul_of_nonneg_left
        (div_add_one_le_div nonneg (hits_le_weighted predicted truth beta))
        (add_nonneg zero_le_one (mul_self_nonneg beta))

/-- What is to be expected of the scores of predictions. -/
structure ObeyLaws (truth : PointSet) (beta : Rat) (score : PointSet → Score Rat) : Prop where
  mem_unit : ∀ predicted, (score predicted).precision ∈ Set.Icc 0 1 ∧
    (score predicted).sensitivity ∈ Set.Icc 0 1 ∧ (score predicted).fBeta ∈ Set.Icc 0 1
  eq_zero_iff : ∀ predicted, ((score predicted).precision = 0 ↔ Misses predicted truth) ∧
    ((score predicted).sensitivity = 0 ↔ Misses predicted truth) ∧
    ((score predicted).fBeta = 0 ↔ Misses predicted truth)
  between : ∀ predicted, ¬Misses predicted truth →
    min (score predicted).precision (score predicted).sensitivity ≤ (score predicted).fBeta ∧
    (score predicted).fBeta ≤ max (score predicted).precision (score predicted).sensitivity
  /-- What the three values are divided by. -/
  divisors_ne_zero : ∀ predicted, ¬Misses predicted truth →
    (predicted.size : Rat) ≠ 0 ∧ (truth.size : Rat) ≠ 0 ∧
    beta * beta * (score predicted).precision + (score predicted).sensitivity ≠ 0
  insert_true : ∀ predicted, ∀ point ∈ truth,
    (score predicted).precision ≤ (score (predicted.insert point)).precision ∧
    (score predicted).sensitivity ≤ (score (predicted.insert point)).sensitivity ∧
    (score predicted).fBeta ≤ (score (predicted.insert point)).fBeta
  insert_false : ∀ predicted point, point ∉ truth →
    (score (predicted.insert point)).precision ≤ (score predicted).precision ∧
    (score (predicted.insert point)).sensitivity = (score predicted).sensitivity ∧
    (score (predicted.insert point)).fBeta ≤ (score predicted).fBeta

/-- The scores against the same true points obey these laws, whatever recall counts. -/
theorem obeyLaws_ofSets (nonempty : truth.isEmpty = false) (beta : Rat) :
    ObeyLaws truth beta fun predicted => ofSets predicted truth beta := by
  have sizePos : 0 < truth.size := by
    rw [Std.TreeSet.isEmpty_eq_size_eq_zero, beq_eq_false_iff_ne] at nonempty
    exact Nat.pos_of_ne_zero nonempty
  constructor
  case mem_unit =>
    intro predicted
    exact ⟨precision_mem predicted truth beta, sensitivity_mem predicted truth beta,
      fBeta_mem predicted truth beta⟩
  case eq_zero_iff =>
    intro predicted
    exact ⟨precision_eq_zero_iff predicted truth beta, sensitivity_eq_zero_iff predicted truth beta,
      fBeta_eq_zero_iff predicted truth beta⟩
  case between =>
    intro predicted hit
    exact fBeta_between hit beta
  case divisors_ne_zero =>
    intro predicted hit
    rcases sizes_pos hit with ⟨-, predictedSome, trueSome⟩
    exact ⟨predictedSome.ne', trueSome.ne', (divisor_pos hit beta).ne'⟩
  case insert_true =>
    intro predicted point isTrue
    exact ofSets_le_insert sizePos predicted isTrue beta
  case insert_false =>
    intro predicted point isFalse
    exact ofSets_insert_le sizePos predicted isFalse beta

/-- Three points are predicted, one of them among the two true ones. The mean in which recall counts
twice is nearer to recall. -/
theorem obeyLaws_ofSets_one_of_two :
    let truth : PointSet := .ofList [(⟨"a", 0⟩ : Point), ⟨"a", 1⟩]
    let predicted : PointSet := .ofList [(⟨"a", 1⟩ : Point), ⟨"a", 2⟩, ⟨"b", 0⟩]
    truth.isEmpty = false ∧ (ObeyLaws truth 2 fun predicted => ofSets predicted truth 2) ∧
      ¬Misses predicted truth ∧ (ofSets predicted truth (2 : Rat)).precision = 1 / 3 ∧
      (ofSets predicted truth (2 : Rat)).fBeta = 5 / 11 ∧
      (ofSets predicted truth (2 : Rat)).sensitivity = 1 / 2 := by
  intro truth predicted
  have nonempty : truth.isEmpty = false := by decide +kernel
  have evaluated : (ofSets predicted truth (2 : Rat)).precision = 1 / 3 ∧
      (ofSets predicted truth (2 : Rat)).fBeta = 5 / 11 ∧
      (ofSets predicted truth (2 : Rat)).sensitivity = 1 / 2 := by decide +kernel
  have laws := obeyLaws_ofSets nonempty 2
  refine ⟨nonempty, laws, ?_, evaluated⟩
  intro missed
  have vanishes := ((laws.eq_zero_iff predicted).1).mpr missed
  rw [evaluated.1] at vanishes
  exact absurd vanishes (by norm_num)

end Laws

end Score

end MotifVote
