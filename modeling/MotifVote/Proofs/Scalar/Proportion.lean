import MotifVote.Proofs.Scalar.Comparison
import MotifVote.Proofs.Scalar.Rounding

/-!
# Proportions of counts

A part of some things is given as a quotient of two counts. What proofs assume of it is that none is
zero, that all is one, and that a larger part is a larger number. Quotients may be rounded; but then
counts above some limit are rounded as well, and two of them that are different may be the same
number. So this is assumed only as far as all counts up to the larger one are told apart.
-/

namespace MotifVote.Scalar

/-- Every count up to some number is smaller than the next one. -/
def Counts (α : Type) [Scalar α] (limit : Nat) : Prop :=
  ∀ n ≤ limit, ((n : Nat) : α) < ((n + 1 : Nat) : α)

/-- Counts and their quotients, and what may be added to a count without making it zero. -/
class IsProportional (α : Type) [Scalar α] : Prop extends IsComparable α where
  natCast_ne_zero : ∀ {n : Nat}, 0 < n → (((n : Nat) : α) == 0) = false
  add_ne_zero : ∀ {n : Nat} {x : α}, 0 < n → ¬x < 0 → (((n : Nat) : α) + x == 0) = false
  zero_div : ∀ {whole : Nat}, 0 < whole → Counts α whole →
    ((0 : Nat) : α) / ((whole : Nat) : α) = 0
  div_self : ∀ {whole : Nat}, 0 < whole → Counts α whole →
    ((whole : Nat) : α) / ((whole : Nat) : α) = 1
  /-- Rounding keeps the order of parts, even where it does not tell them apart. -/
  div_mono : ∀ {part more whole : Nat}, part ≤ more → more ≤ whole → 0 < whole →
    whole ≤ UInt64.size →
      ((part : Nat) : α) / ((whole : Nat) : α) ≤ ((more : Nat) : α) / ((whole : Nat) : α)
  div_lt_div : ∀ {part more whole : Nat}, part < more → more ≤ whole → Counts α whole →
    ((part : Nat) : α) / ((whole : Nat) : α) < ((more : Nat) : α) / ((whole : Nat) : α)

section Rational

theorem natCast_rational_lt {m n : Nat} (less : m < n) : ((m : Nat) : Rat) < ((n : Nat) : Rat) := by
  have ordered : ((m : Int) : Rat) < ((n : Int) : Rat) := by exact_mod_cast less
  exact ordered

/-- Without rounding all counts are told apart. -/
theorem counts_rational (limit : Nat) : Counts Rat limit :=
  fun n _ => natCast_rational_lt (Nat.lt_succ_self n)

theorem rational_ne_zero {x : Rat} (positive : 0 < x) : (x == 0) = false := by
  have shape : (x == 0) = (x.num == 0 && x.den == 1) := rfl
  have numerator : (x.num == 0) = false := beq_false_of_ne (Rat.num_pos.mpr positive).ne'
  rw [shape, numerator]
  rfl

instance : IsProportional Rat where
  natCast_ne_zero positive := rational_ne_zero (natCast_rational_lt positive)
  add_ne_zero positive notNegative :=
    rational_ne_zero (add_pos_of_pos_of_nonneg (natCast_rational_lt positive)
      (not_lt.mp notNegative))
  zero_div _ _ := zero_div _
  div_self positive _ := div_self (ne_of_gt (natCast_rational_lt positive))
  div_mono {part more whole} ordered _ positive _ := by
    have parts : ((part : Nat) : Rat) ≤ ((more : Nat) : Rat) := by
      rcases Nat.lt_or_eq_of_le ordered with less | rfl
      · exact (natCast_rational_lt less).le
      · exact Rat.le_refl
    exact div_le_div_of_nonneg_right parts (natCast_rational_lt positive).le
  div_lt_div {part more whole} less atMost _ := by
    have some : 0 < whole := by omega
    have positive : (0 : Rat) < ((whole : Nat) : Rat) := natCast_rational_lt some
    exact div_lt_div_of_pos_right (natCast_rational_lt less) positive

end Rational

theorem Counts.mono {α : Type} [Scalar α] {limit lower : Nat} (counts : Counts α limit)
    (atMost : lower ≤ limit) : Counts α lower :=
  fun n inside => counts n (Nat.le_trans inside atMost)

section Proportions

variable {α : Type} [Scalar α] [IsProportional α] {part more whole : Nat}

theorem isNumber_zero_one : IsNumber (0 : α) ∧ IsNumber (1 : α) :=
  IsComparable.isNumber_of_lt IsComparable.zero_lt_one

theorem isProbability_zero : IsProbability (0 : α) := by
  have zero : IsNumber (0 : α) := isNumber_zero_one.1
  exact ⟨zero, IsComparable.le_refl zero, IsComparable.le_of_lt IsComparable.zero_lt_one⟩

theorem isProbability_one : IsProbability (1 : α) := by
  have one : IsNumber (1 : α) := isNumber_zero_one.2
  exact ⟨one, IsComparable.le_of_lt IsComparable.zero_lt_one, IsComparable.le_refl one⟩

theorem isNumber_div (counts : Counts α whole) (positive : 0 < whole) (atMost : part ≤ whole) :
    IsNumber (((part : Nat) : α) / ((whole : Nat) : α)) := by
  rcases Nat.lt_or_eq_of_le atMost with less | rfl
  · exact (IsComparable.isNumber_of_lt
      (IsProportional.div_lt_div less (Nat.le_refl whole) counts)).1
  · rw [IsProportional.div_self positive counts]
    exact isNumber_zero_one.2

/-- A larger part is no smaller a number. -/
theorem div_le_div (counts : Counts α whole) (positive : 0 < whole) (ordered : part ≤ more)
    (atMost : more ≤ whole) :
    ((part : Nat) : α) / ((whole : Nat) : α) ≤ ((more : Nat) : α) / ((whole : Nat) : α) := by
  rcases Nat.lt_or_eq_of_le ordered with less | rfl
  · exact IsComparable.le_of_lt (IsProportional.div_lt_div less atMost counts)
  · exact IsComparable.le_refl (isNumber_div counts positive atMost)

theorem isProbability_div (counts : Counts α whole) (positive : 0 < whole)
    (atMost : part ≤ whole) :
    IsProbability (((part : Nat) : α) / ((whole : Nat) : α)) := by
  refine ⟨isNumber_div counts positive atMost, ?_, ?_⟩
  · rw [← IsProportional.zero_div positive counts]
    exact div_le_div counts positive (Nat.zero_le part) atMost
  · rw [← IsProportional.div_self positive counts]
    exact div_le_div counts positive atMost (Nat.le_refl whole)

theorem div_eq_one_iff (counts : Counts α whole) (positive : 0 < whole) (atMost : part ≤ whole) :
    ((part : Nat) : α) / ((whole : Nat) : α) = 1 ↔ part = whole := by
  constructor
  · intro all
    by_contra different
    have below : ((part : Nat) : α) / ((whole : Nat) : α) < 1 := by
      rw [← IsProportional.div_self positive counts]
      exact IsProportional.div_lt_div (by omega) (Nat.le_refl whole) counts
    rw [all] at below
    exact IsComparable.lt_asymm below below
  · rintro rfl
    exact IsProportional.div_self positive counts

theorem div_pos_iff (counts : Counts α whole) (positive : 0 < whole) (atMost : part ≤ whole) :
    0 < ((part : Nat) : α) / ((whole : Nat) : α) ↔ 0 < part := by
  constructor
  · intro above
    by_contra none
    rw [Nat.eq_zero_of_not_pos none, IsProportional.zero_div positive counts] at above
    exact IsComparable.lt_asymm above above
  · intro some
    rw [← IsProportional.zero_div positive counts]
    exact IsProportional.div_lt_div some atMost counts

theorem div_eq_zero_iff (counts : Counts α whole) (positive : 0 < whole) (atMost : part ≤ whole) :
    ((part : Nat) : α) / ((whole : Nat) : α) = 0 ↔ part = 0 := by
  constructor
  · intro none
    by_contra some
    have above := (div_pos_iff counts positive atMost).mpr (Nat.pos_of_ne_zero some)
    rw [none] at above
    exact IsComparable.lt_asymm above above
  · rintro rfl
    exact IsProportional.zero_div positive counts

end Proportions

end MotifVote.Scalar
