import MotifVote.Proofs.Scalar.Proportion

/-!
# Laws of sorting

Sorting puts all values of a number system in one order, undefined results and both zeros included.
Among numbers that are neither negative nor minus zero this is the order in which they compare, so
that two of them have the same place only if they are the same. Counts are such numbers, and sums
and quotients of such numbers are, unless they are undefined.
-/

namespace MotifVote.Scalar

open Exponential (exp)

/-- A number from zero on. Minus zero is none. -/
structure IsUnsigned {α : Type} [Scalar α] (x : α) : Prop where
  isNumber : IsNumber x
  sortsBefore : sortsBefore 0 x = true

/-- The order of sorting, and how unsigned numbers stand in it. -/
class IsSorting (α : Type) [Scalar α] : Prop extends IsComparable α where
  sortsBefore_total : ∀ x y : α, (sortsBefore x y || sortsBefore y x) = true
  sortsBefore_trans : ∀ x y z : α, sortsBefore x y = true → sortsBefore y z = true →
    sortsBefore x z = true
  sortsBefore_antisymm : ∀ {x y : α}, sortsBefore x y = true → sortsBefore y x = true → x = y
  sortsBefore_iff_le : ∀ {x y : α}, IsUnsigned x → IsUnsigned y → (sortsBefore x y = true ↔ x ≤ y)
  isUnsigned_one : IsUnsigned (1 : α)
  isUnsigned_natCast : ∀ n : Nat, IsUnsigned ((n : Nat) : α)
  isNumber_of_add : ∀ {x y : α}, IsNumber (x + y) → IsNumber x ∧ IsNumber y
  isNumber_of_div : ∀ {x y : α}, IsNumber (x / y) → IsNumber x ∧ IsNumber y
  isUnsigned_add : ∀ {x y : α}, IsUnsigned x → IsUnsigned y → IsNumber (x + y) → IsUnsigned (x + y)
  isUnsigned_div : ∀ {x y : α}, IsUnsigned x → IsUnsigned y → IsNumber (x / y) → IsUnsigned (x / y)

/-- Exponentials are neither negative nor minus zero. -/
def HasUnsignedExponentials (α : Type) [Exponential α] : Prop :=
  ∀ x : α, IsNumber (exp x) → IsUnsigned (exp x)

section Rational

variable {x y : Rat}

theorem sortsBefore_rational_iff : sortsBefore x y = true ↔ x ≤ y := by
  have shape : sortsBefore x y = !Rat.blt y x := rfl
  rw [shape, Bool.not_eq_true']
  rfl

theorem isUnsigned_rational (nonneg : 0 ≤ x) : IsUnsigned x :=
  ⟨isNumber_rational x, sortsBefore_rational_iff.mpr nonneg⟩

theorem IsUnsigned.rational_nonneg (unsigned : IsUnsigned x) : 0 ≤ x :=
  sortsBefore_rational_iff.mp unsigned.sortsBefore

instance : IsSorting Rat where
  sortsBefore_total x y := by
    rw [Bool.or_eq_true, sortsBefore_rational_iff, sortsBefore_rational_iff]
    exact Rat.le_total
  sortsBefore_trans x y z first second := by
    rw [sortsBefore_rational_iff] at first second ⊢
    exact Rat.le_trans first second
  sortsBefore_antisymm first second :=
    Rat.le_antisymm (sortsBefore_rational_iff.mp first) (sortsBefore_rational_iff.mp second)
  sortsBefore_iff_le _ _ := sortsBefore_rational_iff
  isUnsigned_one := isUnsigned_rational (by decide)
  isUnsigned_natCast n := isUnsigned_rational (by
    rcases Nat.eq_zero_or_pos n with rfl | positive
    · decide
    · exact (natCast_rational_lt positive).le)
  isNumber_of_add _ := ⟨isNumber_rational _, isNumber_rational _⟩
  isNumber_of_div _ := ⟨isNumber_rational _, isNumber_rational _⟩
  isUnsigned_add left right _ :=
    isUnsigned_rational (add_nonneg left.rational_nonneg right.rational_nonneg)
  isUnsigned_div left right _ :=
    isUnsigned_rational (div_nonneg left.rational_nonneg right.rational_nonneg)

end Rational

section Order

variable {α : Type} [Scalar α] [IsSorting α] {x y : α}

theorem isUnsigned_zero : IsUnsigned (0 : α) := by
  have total := IsSorting.sortsBefore_total (0 : α) 0
  rw [Bool.or_self] at total
  exact ⟨(IsComparable.isNumber_of_lt IsComparable.zero_lt_one).1, total⟩

theorem IsUnsigned.le_antisymm (xUnsigned : IsUnsigned x) (yUnsigned : IsUnsigned y)
    (atMost : x ≤ y) (atLeast : y ≤ x) : x = y :=
  IsSorting.sortsBefore_antisymm ((IsSorting.sortsBefore_iff_le xUnsigned yUnsigned).mpr atMost)
    ((IsSorting.sortsBefore_iff_le yUnsigned xUnsigned).mpr atLeast)

end Order

end MotifVote.Scalar
