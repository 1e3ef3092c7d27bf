import MotifVote.Proofs.Scalar.Real
import Mathlib.Analysis.SpecialFunctions.Pow.Real

/-!
# Exact products

What proofs assume where numbers are only multiplied, compared and exponentiated. Each stands for a
real number, and products are not rounded. Of the exponential function it is only assumed that it is
one at zero, is never negative and never decreases. The real numbers themselves have these laws.
-/

namespace MotifVote.Scalar

open Exponential (exp)

/-- Numbers that stand for real numbers, compare by them, and are multiplied without rounding. -/
class RealProducts (α : Type) [Exponential α] where
  /-- The real number that a number stands for. -/
  value : α → ℝ
  value_injective : Function.Injective value
  value_zero : value 0 = 0
  value_one : value 1 = 1
  value_neg : ∀ x : α, value (-x) = -value x
  value_mul : ∀ x y : α, value (x * y) = value x * value y
  le_iff : ∀ {x y : α}, x ≤ y ↔ value x ≤ value y
  lt_iff : ∀ {x y : α}, x < y ↔ value x < value y
  exp_zero : exp (0 : α) = 1
  value_exp_nonneg : ∀ x : α, 0 ≤ value (exp x)
  value_exp_mono : ∀ {x y : α}, value x ≤ value y → value (exp x) ≤ value (exp y)

instance : RealProducts Rat where
  value x := (x : ℝ)
  value_injective := Rat.cast_injective
  value_zero := Rat.cast_zero
  value_one := Rat.cast_one
  value_neg x := Rat.cast_neg x
  value_mul x y := Rat.cast_mul x y
  le_iff := Rat.cast_le.symm
  lt_iff := Rat.cast_lt.symm
  exp_zero := by decide +kernel
  value_exp_nonneg x := Rat.cast_nonneg.mpr (exp_rational_pos x).le
  value_exp_mono atMost :=
    Rat.cast_le.mpr (strictMono_exp_rational.monotone (Rat.cast_le.mp atMost))

/-- A real number, as a number to compute with. Such numbers cannot be written. -/
@[ext]
structure Exact where
  value : ℝ

noncomputable instance : Exponential Exact where
  zero := ⟨0⟩
  one := ⟨1⟩
  add x y := ⟨x.value + y.value⟩
  sub x y := ⟨x.value - y.value⟩
  mul x y := ⟨x.value * y.value⟩
  div x y := ⟨x.value / y.value⟩
  neg x := ⟨-x.value⟩
  natCast n := ⟨n⟩
  le x y := x.value ≤ y.value
  lt x y := x.value < y.value
  beq x y := decide (x.value = y.value)
  decidableLE := Classical.decRel _
  decidableLT := Classical.decRel _
  isFinite _ := true
  sortsBefore x y := decide (x.value ≤ y.value)
  text _ := ""
  exp x := ⟨Real.exp x.value⟩
  pow x y := ⟨x.value ^ y.value⟩

instance : RealProducts Exact where
  value := Exact.value
  value_injective _ _ := Exact.ext
  value_zero := rfl
  value_one := rfl
  value_neg _ := rfl
  value_mul _ _ := rfl
  le_iff := Iff.rfl
  lt_iff := Iff.rfl
  exp_zero := Exact.ext Real.exp_zero
  value_exp_nonneg x := Real.exp_nonneg x.value
  value_exp_mono := Real.exp_le_exp.mpr

section Laws

variable {α : Type} [Exponential α] [RealProducts α] {x : α}

open RealProducts (value)

theorem RealProducts.nonneg_iff : 0 ≤ x ↔ 0 ≤ value x := by
  rw [RealProducts.le_iff, RealProducts.value_zero]

theorem RealProducts.nonpos_iff : x ≤ 0 ↔ value x ≤ 0 := by
  rw [RealProducts.le_iff, RealProducts.value_zero]

theorem RealProducts.value_abs (x : α) : value (abs x) = |value x| := by
  rw [Scalar.abs]
  split
  next negative =>
    rw [RealProducts.lt_iff, RealProducts.value_zero] at negative
    rw [RealProducts.value_neg, abs_of_neg negative]
  next notNegative =>
    rw [RealProducts.lt_iff, RealProducts.value_zero, not_lt] at notNegative
    rw [abs_of_nonneg notNegative]

theorem RealProducts.value_exp_eq_one (zero : value x = 0) : value (exp x) = 1 := by
  have same : x = 0 := RealProducts.value_injective (zero.trans RealProducts.value_zero.symm)
  rw [same, RealProducts.exp_zero, RealProducts.value_one]

theorem RealProducts.value_exp_le_one (nonpos : value x ≤ 0) : value (exp x) ≤ 1 := by
  rw [← RealProducts.value_one (α := α), ← RealProducts.exp_zero]
  exact RealProducts.value_exp_mono (nonpos.trans_eq RealProducts.value_zero.symm)

theorem RealProducts.one_le_value_exp (nonneg : 0 ≤ value x) : 1 ≤ value (exp x) := by
  rw [← RealProducts.value_one (α := α), ← RealProducts.exp_zero]
  exact RealProducts.value_exp_mono (RealProducts.value_zero.trans_le nonneg)

end Laws

end MotifVote.Scalar
