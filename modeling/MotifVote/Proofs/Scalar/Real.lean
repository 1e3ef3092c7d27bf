import MotifVote.Proofs.Scalar.Rounding
import Mathlib.Algebra.BigOperators.Group.List.Basic
import Mathlib.Data.List.Induction
import Mathlib.Data.Rat.Cast.Order
import Mathlib.Data.Real.Basic
import Mathlib.Tactic.Linarith

/-!
# Numbers with real values

What proofs assume where finite numbers are computed with exactly. Each has a value among the real
numbers, and sums, differences, products and quotients have the values that they should. Of the
exponential function it is only assumed that it is positive and increasing. Nothing is said about
numbers that are infinite or undefined.
-/

namespace MotifVote.Scalar

open Exponential (exp)

/-- Finite numbers have values, compare by them, and are not rounded. -/
class RealValued (α : Type) [Exponential α] extends IsOrdered α where
  /-- The real number that a finite number stands for. -/
  value : α → ℝ
  isFinite_zero : isFinite (0 : α) = true
  isFinite_one : isFinite (1 : α) = true
  isFinite_natCast : ∀ n : Nat, isFinite ((n : Nat) : α) = true
  isFinite_add : ∀ {x y : α}, isFinite x = true → isFinite y = true → isFinite (x + y) = true
  isFinite_sub : ∀ {x y : α}, isFinite x = true → isFinite y = true → isFinite (x - y) = true
  isFinite_mul : ∀ {x y : α}, isFinite x = true → isFinite y = true → isFinite (x * y) = true
  isFinite_div : ∀ {x y : α}, isFinite x = true → isFinite y = true → value y ≠ 0 →
    isFinite (x / y) = true
  isFinite_exp : ∀ {x : α}, isFinite x = true → isFinite (exp x) = true
  value_zero : value 0 = 0
  value_one : value 1 = 1
  value_natCast : ∀ n : Nat, value ((n : Nat) : α) = n
  value_add : ∀ {x y : α}, isFinite x = true → isFinite y = true →
    value (x + y) = value x + value y
  value_div : ∀ {x y : α}, isFinite x = true → isFinite y = true → value y ≠ 0 →
    value (x / y) = value x / value y
  le_iff : ∀ {x y : α}, isFinite x = true → isFinite y = true → (x ≤ y ↔ value x ≤ value y)
  lt_iff : ∀ {x y : α}, isFinite x = true → isFinite y = true → (x < y ↔ value x < value y)
  beq_zero_iff : ∀ {x : α}, isFinite x = true → ((x == 0) = true ↔ value x = 0)
  value_exp_pos : ∀ {x : α}, isFinite x = true → 0 < value (exp x)
  value_exp_lt_iff : ∀ {x y : α}, isFinite x = true → isFinite y = true →
    (value (exp x) < value (exp y) ↔ value x < value y)

section Rational

theorem exp_rational_eq (x : Rat) : exp x = if x < 0 then 1 / (1 - x) else 1 + x := rfl

theorem strictMono_exp_rational : StrictMono (exp : Rat → Rat) := by
  intro x y less
  rw [exp_rational_eq, exp_rational_eq]
  by_cases xNegative : x < 0
  · rw [if_pos xNegative]
    by_cases yNegative : y < 0
    · rw [if_pos yNegative]
      exact one_div_lt_one_div_of_lt (by linarith) (by linarith)
    · rw [if_neg yNegative]
      have below : 1 / (1 - x) < 1 := (div_lt_one (by linarith)).mpr (by linarith)
      linarith
  · rw [if_neg xNegative, if_neg (by linarith)]
    linarith

instance : RealValued Rat where
  value x := (x : ℝ)
  isFinite_zero := rfl
  isFinite_one := rfl
  isFinite_natCast _ := rfl
  isFinite_add _ _ := rfl
  isFinite_sub _ _ := rfl
  isFinite_mul _ _ := rfl
  isFinite_div _ _ _ := rfl
  isFinite_exp _ := rfl
  value_zero := Rat.cast_zero
  value_one := Rat.cast_one
  value_natCast n := Rat.cast_natCast n
  value_add {x y} _ _ := Rat.cast_add x y
  value_div {x y} _ _ _ := Rat.cast_div x y
  le_iff _ _ := Rat.cast_le.symm
  lt_iff _ _ := Rat.cast_lt.symm
  beq_zero_iff {x} _ := by
    rw [IsRounded.beq_iff (isNumber_rational x) (isNumber_rational 0), Rat.cast_eq_zero]
    exact le_antisymm_iff.symm
  value_exp_pos {x} _ := Rat.cast_pos.mpr (exp_rational_pos x)
  value_exp_lt_iff _ _ :=
    Rat.cast_lt.trans (strictMono_exp_rational.lt_iff_lt.trans Rat.cast_lt.symm)

end Rational

section Laws

variable {α : Type} [Exponential α] [RealValued α]

open RealValued (value)

theorem RealValued.not_lt {x y : α} (xFinite : isFinite x = true) (yFinite : isFinite y = true) :
    ¬x < y ↔ y ≤ x :=
  Scalar.not_lt (IsOrdered.isNumber_of_isFinite xFinite) (IsOrdered.isNumber_of_isFinite yFinite)

theorem RealValued.lt_zero_iff {x : α} (finite : isFinite x = true) : x < 0 ↔ value x < 0 := by
  rw [RealValued.lt_iff finite RealValued.isFinite_zero, RealValued.value_zero]

theorem isFinite_sum {xs : List α} (finite : ∀ x ∈ xs, isFinite x = true) :
    isFinite (sum xs) = true := by
  induction xs using List.reverseRecOn with
  | nil => exact RealValued.isFinite_zero
  | append_singleton xs x ih =>
      rw [List.forall_mem_append, List.forall_mem_singleton] at finite
      rw [sum_append_singleton]
      exact RealValued.isFinite_add (ih finite.1) finite.2

theorem value_sum {xs : List α} (finite : ∀ x ∈ xs, isFinite x = true) :
    value (sum xs) = (xs.map value).sum := by
  induction xs using List.reverseRecOn with
  | nil => exact RealValued.value_zero
  | append_singleton xs x ih =>
      rw [List.forall_mem_append, List.forall_mem_singleton] at finite
      rw [sum_append_singleton, RealValued.value_add (isFinite_sum finite.1) finite.2, ih finite.1,
        List.map_append, List.sum_append, List.map_singleton, List.sum_singleton]

end Laws

end MotifVote.Scalar
