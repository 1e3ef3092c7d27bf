import MotifVote.Proofs.Scalar.Bits

/-!
# Numbers and their complements

What proofs assume where a number is compared with its complement to one: the distance of the two is
a number again, even if it is infinite. For doubles this rests on the complement of an infinite
number being infinite with the other sign, because only infinities of one sign have no difference.
-/

namespace MotifVote

namespace Scalar

/-- Numbers have an opposite, and a distance from their complement to one. -/
class IsComplemented (α : Type) [Scalar α] : Prop extends IsComparable α where
  isNumber_neg : ∀ {x : α}, IsNumber x → IsNumber (-x)
  isNumber_sub_complement : ∀ {x : α}, IsNumber x → IsNumber (x - (1 - x))

instance : IsComplemented Rat where
  isNumber_neg _ := isNumber_rational _
  isNumber_sub_complement _ := isNumber_rational _

theorem isNumber_abs {α : Type} [Scalar α] [IsComplemented α] {x : α} (number : IsNumber x) :
    IsNumber (abs x) := by
  rw [abs]
  split
  · exact IsComplemented.isNumber_neg number
  · exact number

end Scalar

open Float.Model (UnpackedFloat)
open Float.Model.UnpackedFloat (Accuracy Sign pack packComponents roundWithAccuracy unpack)

section Unpacked

variable {x y : UnpackedFloat}

theorem unpack_packComponents_ne {sign : Sign} {exponent : BitVec 11} {mantissa : BitVec 52}
    (defined : exponent ≠ -1#11 ∨ mantissa = 0#52) :
    unpack .binary64 (packComponents .binary64 sign exponent mantissa) ≠ .notANumber := by
  simp only [unpack, Float.Model.UnpackedFloat.unpackExponent_packComponents,
    Float.Model.UnpackedFloat.unpackMantissa_packComponents, unpackSign_packComponents]
  split
  next last =>
    rw [if_pos (defined.resolve_left (not_not.mpr last))]
    simp
  · split
    · split <;> simp
    · simp

/-- Storing a result does not make it undefined. -/
theorem unpack_pack_ne (number : x ≠ .notANumber) :
    (Float.Model.pack x).unpack ≠ .notANumber := by
  rcases exists_pack_eq number with ⟨sign, exponent, mantissa, stored, defined, -⟩
  have shape : (Float.Model.pack x).unpack = unpack .binary64 (pack .binary64 x) := rfl
  rw [shape, stored]
  exact unpack_packComponents_ne defined

theorem roundWithAccuracy_ne (sign : Sign) (m : Nat) (e : Int) (accuracy : Accuracy) :
    roundWithAccuracy .binary64 sign m e accuracy ≠ .notANumber := by
  simp only [roundWithAccuracy]
  split <;> simp

theorem normalize_ne (m e : Int) (sign : Sign) :
    UnpackedFloat.normalize .binary64 m e sign ≠ .notANumber := by
  simp only [UnpackedFloat.normalize]
  split
  · exact roundWithAccuracy_ne _ _ _ _
  · simp
  · exact roundWithAccuracy_ne _ _ _ _

/-- Only infinities of one sign have no difference. -/
theorem sub_ne (xNumber : x ≠ .notANumber) (yNumber : y ≠ .notANumber)
    (apart : ∀ sign, x = .infinity sign → y ≠ .infinity sign) :
    UnpackedFloat.sub .binary64 x y ≠ .notANumber := by
  rcases x with sign | _ | _ | ⟨_, _, _, _⟩ <;>
    rcases y with other | _ | _ | ⟨_, _, _, _⟩ <;>
    first | contradiction | simp [UnpackedFloat.sub]; done | skip
  · have different : other ≠ sign := by
      rintro rfl
      exact apart other rfl rfl
    have opposite : (sign == -other) = true := by
      cases sign <;> cases other <;> first | contradiction | rfl
    simp [UnpackedFloat.sub, opposite]
  · simp only [UnpackedFloat.sub]
    split <;> simp
  · exact normalize_ne _ _ _

theorem neg_ne (number : x ≠ .notANumber) : UnpackedFloat.neg x ≠ .notANumber := by
  cases x <;> simp_all [UnpackedFloat.neg]

end Unpacked

section Double

variable {x y : Float}

theorem unpack_sub (x y : Float) : (x - y).toModel.unpack = (Float.Model.pack
    (UnpackedFloat.sub .binary64 x.toModel.unpack y.toModel.unpack)).unpack :=
  rfl

theorem double_isNumber_sub (xNumber : Scalar.IsNumber x) (yNumber : Scalar.IsNumber y)
    (apart : ∀ sign, x.toModel.unpack = .infinity sign → y.toModel.unpack ≠ .infinity sign) :
    Scalar.IsNumber (x - y) := by
  rw [double_isNumber_iff] at xNumber yNumber ⊢
  rw [unpack_sub]
  exact unpack_pack_ne (sub_ne xNumber yNumber apart)

theorem unpack_one_sub {sign : Sign} (infinite : x.toModel.unpack = .infinity sign) :
    (1 - x).toModel.unpack = .infinity (-sign) := by
  rw [unpack_sub, infinite]
  cases sign <;> rfl

instance : Scalar.IsComplemented Float where
  isNumber_neg {x} number := by
    rw [double_isNumber_iff] at number ⊢
    have shape : (-x).toModel.unpack = (Float.Model.pack x.toModel.unpack.neg).unpack := rfl
    rw [shape]
    exact unpack_pack_ne (neg_ne number)
  isNumber_sub_complement {x} number := by
    have one : Scalar.IsNumber (1 : Float) := Scalar.isNumber_zero_one.2
    apply double_isNumber_sub number
    · apply double_isNumber_sub one number
      intro sign infinite
      cases infinite
    · intro sign infinite same
      have both := (unpack_one_sub infinite).symm.trans same
      cases sign <;> cases both

end Double

end MotifVote
