import MotifVote.Scalar
import Mathlib.Algebra.Order.Ring.Rat

/-!
# Laws of number systems

What proofs assume of the numbers that budgets and weights are. None of it is about rounding, so it
holds of doubles as well, infinite ones included; only undefined results are left out, as these are
different from themselves. Where nothing is rounded at all, more holds.
-/

namespace MotifVote.Scalar

variable {α : Type} [Scalar α]

/-- Whether a value of a number system is a number, and not an undefined result. -/
def IsNumber (x : α) : Prop := (x == x) = true

instance (x : α) : Decidable (IsNumber x) := inferInstanceAs (Decidable ((x == x) = true))

/-- Numbers are totally ordered. A finite part of a number can be taken off, which leaves no more
than there was. -/
class IsOrdered (α : Type) [Scalar α] : Prop where
  isNumber_zero : IsNumber (0 : α)
  isNumber_of_isFinite : ∀ {x : α}, isFinite x = true → IsNumber x
  isNumber_sub : ∀ {x part : α}, IsNumber x → isFinite part = true → IsNumber (x - part)
  le_total : ∀ {x y : α}, IsNumber x → IsNumber y → x ≤ y ∨ y ≤ x
  le_trans : ∀ {x y z : α}, IsNumber x → IsNumber y → IsNumber z → x ≤ y → y ≤ z → x ≤ z
  not_le : ∀ {x y : α}, IsNumber x → IsNumber y → (¬x ≤ y ↔ y < x)
  sub_le : ∀ {x part : α}, IsNumber x → isFinite part = true → 0 < part → x - part ≤ x

/-- What is taken off a larger number leaves no less. -/
class IsMonotone (α : Type) [Scalar α] : Prop extends IsOrdered α where
  sub_le_sub : ∀ {x y part : α}, IsNumber x → IsNumber y → isFinite part = true → x ≤ y →
    x - part ≤ y - part

/-- Finite numbers are added and taken off without rounding. -/
class IsExact (α : Type) [Scalar α] : Prop where
  isFinite_zero : isFinite (0 : α) = true
  isFinite_add : ∀ {x y : α}, isFinite x = true → isFinite y = true → isFinite (x + y) = true
  sub_zero : ∀ {x : α}, IsNumber x → x - 0 = x
  sub_sub : ∀ {x first second : α}, IsNumber x → isFinite first = true → isFinite second = true →
    x - first - second = x - (first + second)
  le_sub_iff : ∀ {x first second : α}, IsNumber x → isFinite first = true →
    isFinite second = true → (second ≤ x - first ↔ first + second ≤ x)
  le_add : ∀ {x y : α}, isFinite x = true → isFinite y = true → 0 < y → x ≤ x + y

/-- As many things as there may be vertices are one whole of themselves. -/
class IsCounting (α : Type) [Scalar α] : Prop where
  div_self : ∀ {n : Nat}, 0 < n → n ≤ UInt64.size → ((n : Nat) : α) / ((n : Nat) : α) = 1

section Rational

theorem isNumber_rational (x : Rat) : IsNumber x := by
  simp [IsNumber, BEq.beq]

instance : IsOrdered Rat where
  isNumber_zero := isNumber_rational _
  isNumber_of_isFinite _ := isNumber_rational _
  isNumber_sub _ _ := isNumber_rational _
  le_total _ _ := Rat.le_total
  le_trans _ _ _ := Rat.le_trans
  not_le _ _ := Rat.not_le
  sub_le {x part} _ _ positive := by
    have atMost : x.sub part ≤ x := sub_le_self x (le_of_lt positive)
    exact atMost

instance : IsMonotone Rat where
  sub_le_sub _ _ _ atMost := sub_le_sub_right atMost _

instance : IsExact Rat where
  isFinite_zero := rfl
  isFinite_add _ _ := rfl
  sub_zero {x} _ := sub_zero x
  sub_sub {x first second} _ _ _ := sub_sub x first second
  le_sub_iff _ _ _ := le_sub_iff_add_le'
  le_add _ _ positive := le_add_of_nonneg_right (le_of_lt positive)

instance : IsCounting Rat where
  div_self {n} positive _ := by
    have nonzero : ((n : Int) : Rat) ≠ 0 := by
      rw [Int.cast_natCast, Nat.cast_ne_zero]
      omega
    exact div_self nonzero

/-- Powers of rational numbers have whole exponents. No exponential function takes rational values
only; in its place stands a positive and increasing function that is one at zero. -/
instance : Exponential Rat where
  exp x := if x < 0 then 1 / (1 - x) else 1 + x
  pow x y := x ^ y.num

end Rational

section Order

variable [IsOrdered α] {x y z : α}

protected theorem le_of_lt (xNumber : IsNumber x) (yNumber : IsNumber y) (less : x < y) :
    x ≤ y := by
  rcases IsOrdered.le_total xNumber yNumber with atMost | atLeast
  · exact atMost
  · exact absurd atLeast ((IsOrdered.not_le yNumber xNumber).mpr less)

protected theorem not_lt (xNumber : IsNumber x) (yNumber : IsNumber y) : ¬x < y ↔ y ≤ x := by
  rw [← IsOrdered.not_le yNumber xNumber, not_not]

protected theorem lt_of_lt_of_le (xNumber : IsNumber x) (yNumber : IsNumber y)
    (zNumber : IsNumber z) (less : x < y) (atMost : y ≤ z) : x < z := by
  rw [← IsOrdered.not_le zNumber xNumber]
  intro atLeast
  exact (IsOrdered.not_le yNumber xNumber).mpr less
    (IsOrdered.le_trans yNumber zNumber xNumber atMost atLeast)

protected theorem le_refl (xNumber : IsNumber x) : x ≤ x := by
  rcases IsOrdered.le_total xNumber xNumber with atMost | atMost
  · exact atMost
  · exact atMost

end Order

section Largest

variable [IsOrdered α]

/-- The larger of two numbers is one of them, and no less than either. -/
theorem larger_spec {x y : α} (xNumber : IsNumber x) (yNumber : IsNumber y) :
    (larger x y = x ∨ larger x y = y) ∧ x ≤ larger x y ∧ y ≤ larger x y := by
  have equal : (x == x) = true := xNumber
  by_cases less : x < y
  · have second : larger x y = y := by simp [larger, less]
    rw [second]
    exact ⟨Or.inr rfl, Scalar.le_of_lt xNumber yNumber less, Scalar.le_refl yNumber⟩
  · have first : larger x y = x := by simp [larger, less, equal]
    rw [first]
    exact ⟨Or.inl rfl, Scalar.le_refl xNumber, (Scalar.not_lt xNumber yNumber).mp less⟩

theorem foldl_larger_spec {best : α} {xs : List α} (bestNumber : IsNumber best)
    (numbers : ∀ x ∈ xs, IsNumber x) :
    ∃ most ∈ best :: xs,
      xs.foldl (fun best x => some ((best.map (larger · x)).getD x)) (some best) = some most ∧
        ∀ x ∈ best :: xs, x ≤ most := by
  induction xs generalizing best with
  | nil =>
      refine ⟨best, List.mem_cons_self, rfl, ?_⟩
      intro x member
      rw [List.mem_singleton.mp member]
      exact Scalar.le_refl bestNumber
  | cons next xs ih =>
      rcases List.forall_mem_cons.mp numbers with ⟨nextNumber, others⟩
      rcases larger_spec bestNumber nextNumber with ⟨chosen, bestLe, nextLe⟩
      have number : IsNumber (larger best next) := by
        rcases chosen with same | same
        · rwa [same]
        · rwa [same]
      rcases ih number others with ⟨most, member, folded, bound⟩
      rcases List.forall_mem_cons.mp bound with ⟨largerLe, restLe⟩
      have mostNumber : IsNumber most := by
        rcases List.mem_cons.mp member with same | later
        · rwa [same]
        · exact others most later
      refine ⟨most, ?_, folded, ?_⟩
      · rcases List.mem_cons.mp member with same | later
        · rcases chosen with first | second
          · simp [same, first]
          · simp [same, second]
        · simp [later]
      · refine List.forall_mem_cons.mpr ⟨?_, List.forall_mem_cons.mpr ⟨?_, restLe⟩⟩
        · exact IsOrdered.le_trans bestNumber number mostNumber bestLe largerLe
        · exact IsOrdered.le_trans nextNumber number mostNumber nextLe largerLe

/-- The largest of some numbers is one of them, and no less than any. -/
theorem largest?_spec {xs : List α} (nonempty : xs ≠ []) (numbers : ∀ x ∈ xs, IsNumber x) :
    ∃ most ∈ xs, largest? xs = some most ∧ ∀ x ∈ xs, x ≤ most := by
  rcases xs with _ | ⟨first, xs⟩
  · exact absurd rfl nonempty
  · rcases List.forall_mem_cons.mp numbers with ⟨firstNumber, others⟩
    exact foldl_larger_spec firstNumber others

end Largest

section Sum

theorem sum_append_singleton (xs : List α) (x : α) : sum (xs ++ [x]) = sum xs + x := by
  simp [sum]

end Sum

end MotifVote.Scalar
