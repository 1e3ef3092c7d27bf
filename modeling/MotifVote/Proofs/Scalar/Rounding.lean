import MotifVote.Proofs.Scalar.Order

/-!
# Laws of rounded results

What proofs assume where sums, quotients and exponentials may be rounded, and may also be infinite
or undefined. Rounding never leads past a number that needs no rounding, such as zero, one or one of
the arguments. An undefined argument makes a result undefined, and so do two infinite sides of a
quotient. All of it holds of doubles, and of number systems that have no such values.
-/

namespace MotifVote.Scalar

open Exponential (exp)

/-- A number that is not negative. -/
structure IsNonneg {α : Type} [Scalar α] (x : α) : Prop where
  isNumber : IsNumber x
  nonneg : 0 ≤ x

/-- A number from zero to one. -/
structure IsProbability {α : Type} [Scalar α] (x : α) : Prop where
  isNumber : IsNumber x
  nonneg : 0 ≤ x
  le_one : x ≤ 1

/-- Sums, quotients and exponentials of numbers that are not negative. -/
class IsRounded (α : Type) [Exponential α] : Prop extends IsOrdered α where
  isNumber_one : IsNumber (1 : α)
  zero_lt_one : (0 : α) < 1
  beq_iff : ∀ {x y : α}, IsNumber x → IsNumber y → ((x == y) = true ↔ x ≤ y ∧ y ≤ x)
  isFinite_of_le : ∀ {x y : α}, IsNonneg x → x ≤ y → isFinite y = true → isFinite x = true
  isNumber_of_add : ∀ {x y : α}, IsNumber (x + y) → IsNumber x ∧ IsNumber y
  isNumber_add : ∀ {x y : α}, IsNonneg x → IsNonneg y → IsNumber (x + y)
  le_add_right : ∀ {x y : α}, IsNonneg x → IsNonneg y → x ≤ x + y
  isNumber_of_div : ∀ {x y : α}, IsNumber (x / y) → IsNumber x ∧ IsNumber y
  isFinite_of_div : ∀ {x y : α}, IsNumber (x / y) → isFinite x = true ∨ isFinite y = true
  isProbability_div : ∀ {x y : α}, IsNonneg x → isFinite x = true → IsNumber y → x ≤ y → 0 < y →
    IsProbability (x / y)
  isNumber_exp_iff : ∀ {x : α}, IsNumber (exp x) ↔ IsNumber x
  exp_nonneg : ∀ {x : α}, IsNumber x → 0 ≤ exp x
  exp_unit : ∀ {x : α}, IsProbability x → isFinite (exp x) = true ∧ 0 < exp x
  /-- An exponential is positive, unless it is rounded to zero, and zero is in no proportion to
  zero. -/
  exp_add_exp_pos : ∀ {x y : α}, IsNumber (exp x / (exp x + exp y)) → 0 < exp x + exp y

section Nonneg

variable {α : Type} [Exponential α] [IsRounded α] {x y : α}

theorem isNonneg_zero : IsNonneg (0 : α) :=
  ⟨IsOrdered.isNumber_zero, Scalar.le_refl IsOrdered.isNumber_zero⟩

theorem IsNonneg.add (left : IsNonneg x) (right : IsNonneg y) : IsNonneg (x + y) := by
  have number := IsRounded.isNumber_add left right
  exact ⟨number, IsOrdered.le_trans IsOrdered.isNumber_zero left.isNumber number left.nonneg
    (IsRounded.le_add_right left right)⟩

theorem isNonneg_exp (number : IsNumber x) : IsNonneg (exp x) :=
  ⟨IsRounded.isNumber_exp_iff.mpr number, IsRounded.exp_nonneg number⟩

end Nonneg

section Rational

theorem exp_rational_pos (x : Rat) : (0 : Rat) < exp x := by
  have shape : exp x = if x < 0 then 1 / (1 - x) else 1 + x := rfl
  rw [shape]
  split
  next negative => exact div_pos one_pos (sub_pos.mpr (lt_trans negative one_pos))
  next notNegative => exact add_pos_of_pos_of_nonneg one_pos (not_lt.mp notNegative)

instance : IsRounded Rat where
  isNumber_one := isNumber_rational _
  zero_lt_one := by decide
  beq_iff {x y} _ _ := by
    have shape : (x == y) = (x.num == y.num && x.den == y.den) := rfl
    have equal : x.num = y.num ∧ x.den = y.den ↔ x = y := by
      constructor
      · rintro ⟨numerators, denominators⟩
        exact Rat.ext numerators denominators
      · rintro rfl
        exact ⟨rfl, rfl⟩
    rw [shape, Bool.and_eq_true, beq_iff_eq, beq_iff_eq, equal]
    exact le_antisymm_iff
  isFinite_of_le _ _ _ := rfl
  isNumber_of_add _ := ⟨isNumber_rational _, isNumber_rational _⟩
  isNumber_add _ _ := isNumber_rational _
  le_add_right _ right := le_add_of_nonneg_right right.nonneg
  isNumber_of_div _ := ⟨isNumber_rational _, isNumber_rational _⟩
  isFinite_of_div _ := Or.inl rfl
  isProbability_div part _ _ atMost positive :=
    ⟨isNumber_rational _, div_nonneg part.nonneg (le_of_lt positive),
      div_le_one_of_le₀ atMost (le_of_lt positive)⟩
  isNumber_exp_iff := ⟨fun _ => isNumber_rational _, fun _ => isNumber_rational _⟩
  exp_nonneg _ := le_of_lt (exp_rational_pos _)
  exp_unit _ := ⟨rfl, exp_rational_pos _⟩
  exp_add_exp_pos _ := add_pos (exp_rational_pos _) (exp_rational_pos _)

end Rational

end MotifVote.Scalar
