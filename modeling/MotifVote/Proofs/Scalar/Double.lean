import MotifVote.Proofs.Scalar.Comparison
import MotifVote.Scalar.Double
import Mathlib

/-!
# Comparisons of doubles

A double is undefined, infinite, a zero, or has a sign, an exponent and a mantissa. Its place among
the others is a triple of integers, and triples are compared from left to right.
-/

namespace MotifVote

open Float.Model (UnpackedFloat)

/-- Where a double stands among the others. An undefined one has no place, so its triple has no
meaning. -/
def doublePlace : UnpackedFloat → Int ×ₗ Int ×ₗ Int
  | .notANumber => toLex (3, toLex (0, 0))
  | .infinity .positive => toLex (2, toLex (0, 0))
  | .finite .positive mantissa exponent _ => toLex (1, toLex (exponent, mantissa))
  | .zero _ => toLex (0, toLex (0, 0))
  | .finite .negative mantissa exponent _ => toLex (-1, toLex (-exponent, -mantissa))
  | .infinity .negative => toLex (-2, toLex (0, 0))

section Unpacked

variable {x y : UnpackedFloat}

theorem compare_neg_int (m n : Int) : compare (-m) (-n) = (compare m n).swap := by
  rw [Int.compare_swap]
  simp only [compare, compareOfLessAndEq, neg_lt_neg_iff, neg_inj, eq_comm]

theorem compare_cast_nat (m n : Nat) : compare (m : Int) (n : Int) = compare m n := by
  simp only [compare, compareOfLessAndEq, Int.ofNat_lt, Int.natCast_inj]

/-- Doubles that are not undefined are compared by their places. -/
theorem unpacked_compare (xNumber : x ≠ .notANumber) (yNumber : y ≠ .notANumber) :
    x.compare y = some (compare (doublePlace x) (doublePlace y)) := by
  rcases x with (_ | _) | _ | _ | ⟨_ | _, _, _, _⟩ <;>
    rcases y with (_ | _) | _ | _ | ⟨_ | _, _, _, _⟩ <;>
    first | contradiction | rfl | skip
  -- What is left are two finite numbers with the same sign.
  all_goals
    simp [UnpackedFloat.compare, doublePlace, Prod.Lex.compare_def, compareLex, compareOn,
      compare_neg_int, compare_cast_nat, Ordering.swap_then]

theorem unpacked_compare_eq_none (undefined : ¬(x ≠ .notANumber ∧ y ≠ .notANumber)) :
    x.compare y = none := by
  rcases not_and_or.mp undefined with left | right
  · rw [not_not.mp left]
    rfl
  · rw [not_not.mp right]
    cases x <;> rfl

theorem unpacked_lt_iff :
    x.lt y = true ↔ (x ≠ .notANumber ∧ y ≠ .notANumber) ∧ doublePlace x < doublePlace y := by
  by_cases numbers : x ≠ .notANumber ∧ y ≠ .notANumber
  · rw [UnpackedFloat.lt, unpacked_compare numbers.1 numbers.2, beq_iff_eq, Option.some_inj,
      compare_lt_iff_lt, and_iff_right numbers]
  · simp [UnpackedFloat.lt, unpacked_compare_eq_none numbers, numbers]

theorem unpacked_le_iff :
    x.le y = true ↔ (x ≠ .notANumber ∧ y ≠ .notANumber) ∧ doublePlace x ≤ doublePlace y := by
  by_cases numbers : x ≠ .notANumber ∧ y ≠ .notANumber
  · rw [UnpackedFloat.le, unpacked_compare numbers.1 numbers.2, Option.any_some,
      and_iff_right numbers, ← Ordering.ne_gt_iff_isLE]
    exact compare_le_iff_le
  · simp [UnpackedFloat.le, unpacked_compare_eq_none numbers, numbers]

/-- Apart from the two zeros, doubles have places of their own. -/
theorem unpacked_eq_or_zero (same : doublePlace x = doublePlace y) :
    x = y ∨ ∃ sign other, x = .zero sign ∧ y = .zero other := by
  rcases x with (_ | _) | _ | _ | ⟨_ | _, _, _, _⟩ <;>
    rcases y with (_ | _) | _ | _ | ⟨_ | _, _, _, _⟩ <;>
    simp_all [doublePlace]

end Unpacked

section Double

variable {x y : Float}

theorem double_eq_of_unpack_eq (same : x.toModel.unpack = y.toModel.unpack) : x = y := by
  have bits := (UnpackedFloat.unpack_inj_of_valid x.toModel.valid y.toModel.valid).mp same
  exact Float.toBits_inj.mp (UInt64.toBitVec_inj.mp bits)

theorem double_zero : (0 : Float).toModel.unpack = .zero .positive := by rfl

theorem double_isFinite_zero : Scalar.isFinite (0 : Float) = true := by rfl

theorem double_isFinite_eq (x : Float) : Scalar.isFinite x = x.toModel.unpack.isFinite := rfl

theorem double_isNumber_iff : Scalar.IsNumber x ↔ x.toModel.unpack ≠ .notANumber := by
  have shape : Scalar.IsNumber x ↔ x.toModel.unpack.beq x.toModel.unpack = true := Iff.rfl
  rw [shape, UnpackedFloat.beq_iff_ne_notANumber_and_eq]
  simp

theorem double_lt_iff : x < y ↔ (Scalar.IsNumber x ∧ Scalar.IsNumber y) ∧
    doublePlace x.toModel.unpack < doublePlace y.toModel.unpack := by
  rw [double_isNumber_iff, double_isNumber_iff, ← unpacked_lt_iff]
  exact decide_eq_true_iff

theorem double_le_iff : x ≤ y ↔ (Scalar.IsNumber x ∧ Scalar.IsNumber y) ∧
    doublePlace x.toModel.unpack ≤ doublePlace y.toModel.unpack := by
  rw [double_isNumber_iff, double_isNumber_iff, ← unpacked_le_iff]
  exact decide_eq_true_iff

theorem double_beq_zero {sign : UnpackedFloat.Sign} (zero : x.toModel.unpack = .zero sign) :
    (x == 0) = true := by
  have shape : (x == 0) = x.toModel.unpack.beq (.zero .positive) := rfl
  rw [shape, zero]
  cases sign <;> rfl

instance : Scalar.IsComparable Float where
  isNumber_of_isFinite {x} finite := by
    rw [double_isNumber_iff]
    intro undefined
    rw [double_isFinite_eq, undefined] at finite
    cases finite
  isNumber_of_lt less := (double_lt_iff.mp less).1
  lt_asymm less greater := lt_asymm (double_lt_iff.mp less).2 (double_lt_iff.mp greater).2
  lt_or_lt {x y z} number less := by
    rcases double_lt_iff.mp less with ⟨⟨xNumber, zNumber⟩, places⟩
    rcases lt_or_ge (doublePlace x.toModel.unpack) (doublePlace y.toModel.unpack) with below | above
    · exact Or.inl (double_lt_iff.mpr ⟨⟨xNumber, number⟩, below⟩)
    · exact Or.inr (double_lt_iff.mpr ⟨⟨number, zNumber⟩, lt_of_le_of_lt above places⟩)
  eq_or_zero {x y} xNumber yNumber notLess notGreater := by
    have same : doublePlace x.toModel.unpack = doublePlace y.toModel.unpack := by
      refine le_antisymm (not_lt.mp fun greater => ?_) (not_lt.mp fun less => ?_)
      · exact notGreater (double_lt_iff.mpr ⟨⟨yNumber, xNumber⟩, greater⟩)
      · exact notLess (double_lt_iff.mpr ⟨⟨xNumber, yNumber⟩, less⟩)
    rcases unpacked_eq_or_zero same with equal | ⟨sign, other, xZero, yZero⟩
    · exact Or.inl (double_eq_of_unpack_eq equal)
    · exact Or.inr ⟨double_beq_zero xZero, double_beq_zero yZero⟩
  le_iff {x y} := by
    have shape : x ≤ y ↔ _ := double_le_iff
    rw [shape, and_assoc]
    refine and_congr_right fun xNumber => and_congr_right fun yNumber => ?_
    rw [← not_lt]
    refine not_congr ⟨fun less => double_lt_iff.mpr ⟨⟨yNumber, xNumber⟩, less⟩, fun less => ?_⟩
    exact (double_lt_iff.mp less).2
  zero_lt_one := by decide +kernel

theorem double_isNumber_zero : Scalar.IsNumber (0 : Float) :=
  Scalar.IsComparable.isNumber_of_isFinite double_isFinite_zero

end Double

end MotifVote
