import MotifVote.Proofs.Scalar.Quotient
import MotifVote.Proofs.Scalar.Sorting

/-!
# Doubles in the order of their bits

The bits of a double that is neither negative nor minus zero are a number, and the larger this
number is, the larger is the double. Sorting puts doubles in this order.
-/

namespace MotifVote

open Float.Model (Format UnpackedFloat)
open Float.Model.UnpackedFloat (Accuracy Sign pack packComponents roundWithAccuracy unpack
  unpackExponent unpackMantissa unpackSign)

section Plus

/-- A double with a plus sign. -/
def HasPlus : UnpackedFloat → Prop
  | .infinity .positive => True
  | .zero .positive => True
  | .finite .positive _ _ _ => True
  | _ => False

variable {x y : UnpackedFloat}

theorem IsPositive.hasPlus (positive : IsPositive x) : HasPlus x := by
  rcases positive.cases with rfl | ⟨m, e, some, rfl⟩
  · trivial
  · trivial

theorem hasPlus_unpack_packComponents {exponent : BitVec 11} {mantissa : BitVec 52}
    (defined : exponent ≠ -1#11 ∨ mantissa = 0#52) :
    HasPlus (unpack .binary64 (packComponents .binary64 .positive exponent mantissa)) := by
  simp only [unpack, Float.Model.UnpackedFloat.unpackExponent_packComponents,
    Float.Model.UnpackedFloat.unpackMantissa_packComponents, unpackSign_packComponents]
  split
  next last =>
    rw [if_pos (defined.resolve_left (not_not.mpr last))]
    trivial
  · split
    · split <;> trivial
    · trivial

/-- What is not undefined is stored with its sign, and not as something undefined. -/
theorem exists_pack_eq (number : x ≠ .notANumber) :
    ∃ sign, ∃ exponent : BitVec 11, ∃ mantissa : BitVec 52,
      pack .binary64 x = packComponents .binary64 sign exponent mantissa ∧
        (exponent ≠ -1#11 ∨ mantissa = 0#52) ∧ (HasPlus x → sign = .positive) := by
  rcases x with sign | _ | sign | ⟨sign, m, e, positive⟩
  · refine ⟨sign, -1#11, 0#52, rfl, Or.inr rfl, ?_⟩
    cases sign <;> simp [HasPlus]
  · contradiction
  · refine ⟨sign, 0#11, 0#52, rfl, Or.inr rfl, ?_⟩
    cases sign <;> simp [HasPlus]
  · have plus : HasPlus (.finite sign m e positive) → sign = .positive := by
      cases sign <;> simp [HasPlus]
    rw [pack_double]
    split
    · exact ⟨sign, -1#11, 0#52, rfl, Or.inr rfl, plus⟩
    next small =>
      split
      · refine ⟨sign, _, _, rfl, Or.inl ?_, plus⟩
        intro last
        have exponent := congrArg BitVec.toNat last
        rw [BitVec.toNat_ofNat, Nat.mod_eq_of_lt (by omega)] at exponent
        have all : (-1#11).toNat = 2047 := rfl
        omega
      · exact ⟨sign, 0#11, _, rfl, Or.inl (by decide), plus⟩

/-- A plus sign is stored with a result, whatever becomes of the rest. -/
theorem HasPlus.unpack_pack (plus : HasPlus x) : HasPlus (Float.Model.pack x).unpack := by
  have number : x ≠ .notANumber := by
    rintro rfl
    exact plus
  rcases exists_pack_eq number with ⟨sign, exponent, mantissa, stored, defined, positive⟩
  have shape : (Float.Model.pack x).unpack = unpack .binary64 (pack .binary64 x) := rfl
  rw [shape, stored, positive plus]
  exact hasPlus_unpack_packComponents defined

theorem hasPlus_roundWithAccuracy (m : Nat) (e : Int) (accuracy : Accuracy) :
    HasPlus (roundWithAccuracy .binary64 .positive m e accuracy) := by
  simp only [roundWithAccuracy]
  split <;> trivial

theorem HasPlus.add (left : HasPlus x) (right : HasPlus y) :
    HasPlus (UnpackedFloat.add .binary64 x y) := by
  rcases x with (_ | _) | _ | (_ | _) | ⟨_ | _, m, e, some⟩ <;> try contradiction
  all_goals rcases y with (_ | _) | _ | (_ | _) | ⟨_ | _, n, f, other⟩ <;> try contradiction
  all_goals try trivial
  rcases exists_add_eq_round some other with ⟨total, -, added⟩
  rw [added]
  exact hasPlus_roundWithAccuracy _ _ _

theorem HasPlus.div (left : HasPlus x) (right : HasPlus y)
    (defined : UnpackedFloat.div .binary64 x y ≠ .notANumber) :
    HasPlus (UnpackedFloat.div .binary64 x y) := by
  rcases x with (_ | _) | _ | (_ | _) | ⟨_ | _, m, e, some⟩ <;> try contradiction
  all_goals rcases y with (_ | _) | _ | (_ | _) | ⟨_ | _, n, f, other⟩ <;> try contradiction
  all_goals try trivial
  all_goals exact hasPlus_roundWithAccuracy _ _ _

end Plus

section Fields

variable {bits : BitVec Format.binary64.numBits}

theorem toNat_unpackMantissa (bits : BitVec Format.binary64.numBits) :
    (unpackMantissa bits).toNat = bits.toNat % 2 ^ 52 := by
  simp [unpackMantissa]

theorem toNat_unpackExponent (bits : BitVec Format.binary64.numBits) :
    (unpackExponent bits).toNat = bits.toNat / 2 ^ 52 % 2 ^ 11 := by
  simp [unpackExponent, Nat.shiftRight_eq_div_pow]

theorem toNat_unpackSign (bits : BitVec Format.binary64.numBits) :
    (unpackSign bits).toNat = bits.toNat / 2 ^ 63 % 2 := by
  simp [unpackSign, Nat.shiftRight_eq_div_pow]

/-- Nothing but the sign is read from the first bit. -/
theorem hasPlus_unpack_iff : HasPlus (unpack .binary64 bits) ↔
    unpack .binary64 bits ≠ .notANumber ∧ bits.toNat < 2 ^ 63 := by
  have width : bits.toNat < 2 ^ 64 := bits.isLt
  have first : unpackSign bits = 0#1 ↔ bits.toNat < 2 ^ 63 := by
    rw [← BitVec.toNat_inj, toNat_unpackSign]
    have zero : (0#1).toNat = 0 := rfl
    omega
  by_cases small : bits.toNat < 2 ^ 63
  · have sign : Sign.ofBitVec (unpackSign bits) = .positive := if_pos (first.mpr small)
    simp only [unpack, sign, small, and_true]
    split
    · split <;> simp [HasPlus]
    · split
      · split <;> simp [HasPlus]
      · simp [HasPlus]
  · have sign : Sign.ofBitVec (unpackSign bits) = .negative := if_neg (mt first.mp small)
    simp only [unpack, sign, small, and_false, iff_false]
    split
    · split <;> simp [HasPlus]
    · split
      · split <;> simp [HasPlus]
      · simp [HasPlus]

section Small

variable (small : bits.toNat < 2 ^ 63)

include small

theorem sign_of_small : Sign.ofBitVec (unpackSign bits) = .positive := by
  refine if_pos (BitVec.eq_of_toNat_eq ?_)
  rw [toNat_unpackSign, BitVec.toNat_ofNat]
  omega

theorem unpackExponent_eq_last_iff : unpackExponent bits = -1#11 ↔ bits.toNat / 2 ^ 52 = 2047 := by
  rw [← BitVec.toNat_inj, toNat_unpackExponent]
  have all : (-1#11).toNat = 2047 := rfl
  omega

theorem unpackExponent_eq_first_iff : unpackExponent bits = 0#11 ↔ bits.toNat / 2 ^ 52 = 0 := by
  rw [← BitVec.toNat_inj, toNat_unpackExponent]
  have none : (0#11).toNat = 0 := rfl
  omega

end Small

theorem unpackMantissa_eq_zero_iff : unpackMantissa bits = 0#52 ↔ bits.toNat % 2 ^ 52 = 0 := by
  rw [← BitVec.toNat_inj, toNat_unpackMantissa]
  rfl

theorem unpack_last (last : bits.toNat / 2 ^ 52 = 2047) (some : bits.toNat % 2 ^ 52 ≠ 0) :
    unpack .binary64 bits = .notANumber := by
  have exponent := (unpackExponent_eq_last_iff (by omega)).mpr last
  have mantissa := mt unpackMantissa_eq_zero_iff.mp some
  simp only [unpack, exponent, mantissa, if_true, if_false]

/-- A number with few bits is stored without an exponent. -/
theorem unpack_subnormal (some : 0 < bits.toNat) (low : bits.toNat < 2 ^ 52) : ∃ positive,
    unpack .binary64 bits = .finite .positive bits.toNat (-1074) positive := by
  have small : bits.toNat < 2 ^ 63 := by omega
  have notLast := mt (unpackExponent_eq_last_iff small).mp (by omega)
  have first := (unpackExponent_eq_first_iff small).mpr (by omega)
  have mantissa : ¬unpackMantissa bits = 0#52 := mt unpackMantissa_eq_zero_iff.mp (by omega)
  have bias : (Format.binary64.exponentBias : Int) = 1023 := rfl
  have same : (unpackMantissa bits).toNat = bits.toNat := by
    rw [toNat_unpackMantissa, Nat.mod_eq_of_lt low]
  have exponent : ((unpackExponent bits).toNat : Int) - (Format.binary64.exponentBias + 52) + 1 =
      -1074 := by
    rw [first, bias]
    rfl
  simp only [unpack, sign_of_small small, if_neg notLast, if_pos first, dif_neg mantissa]
  refine ⟨some, ?_⟩
  congr 1

theorem unpack_normal (least : 2 ^ 52 ≤ bits.toNat) (most : bits.toNat < 2047 * 2 ^ 52) :
    ∃ positive, unpack .binary64 bits = .finite .positive (2 ^ 52 + bits.toNat % 2 ^ 52)
      ((bits.toNat / 2 ^ 52 : Nat) - 1075) positive := by
  have small : bits.toNat < 2 ^ 63 := by omega
  have notLast := mt (unpackExponent_eq_last_iff small).mp (by omega)
  have notFirst := mt (unpackExponent_eq_first_iff small).mp (by omega)
  have bias : (Format.binary64.exponentBias : Int) = 1023 := rfl
  have implicit : (1#1 ++ unpackMantissa bits).toNat = 2 ^ 52 + bits.toNat % 2 ^ 52 := by
    rw [BitVec.toNat_append, ← Nat.shiftLeft_add_eq_or_of_lt (BitVec.isLt _), toNat_unpackMantissa]
    rfl
  have exponent : ((unpackExponent bits).toNat : Int) - (Format.binary64.exponentBias + 52) =
      (bits.toNat / 2 ^ 52 : Nat) - 1075 := by
    rw [toNat_unpackExponent, bias, Nat.mod_eq_of_lt (by omega)]
    omega
  simp only [unpack, sign_of_small small, if_neg notLast, if_neg notFirst]
  refine ⟨by omega, ?_⟩
  congr 1

/-- Where the double with these bits stands, if it has a plus sign. -/
def bitsPlace (bits : Nat) : Int ×ₗ Int ×ₗ Int :=
  if bits = 2047 * 2 ^ 52 then toLex (2, toLex (0, 0))
  else if bits = 0 then toLex (0, toLex (0, 0))
  else if bits < 2 ^ 52 then toLex (1, toLex (-1074, bits))
  else toLex (1, toLex ((bits / 2 ^ 52 : Nat) - 1075, (2 ^ 52 + bits % 2 ^ 52 : Nat)))

theorem doublePlace_unpack (plus : HasPlus (unpack .binary64 bits)) :
    bits.toNat ≤ 2047 * 2 ^ 52 ∧ doublePlace (unpack .binary64 bits) = bitsPlace bits.toNat := by
  rcases hasPlus_unpack_iff.mp plus with ⟨number, small⟩
  have atMost : bits.toNat ≤ 2047 * 2 ^ 52 := by
    by_contra above
    exact number (unpack_last (by omega) (by omega))
  refine ⟨atMost, ?_⟩
  by_cases infinite : bits.toNat = 2047 * 2 ^ 52
  · obtain rfl : bits = BitVec.ofNat 64 (2047 * 2 ^ 52) :=
      BitVec.eq_of_toNat_eq (infinite.trans rfl)
    rfl
  rw [bitsPlace, if_neg infinite]
  by_cases none : bits.toNat = 0
  · obtain rfl : bits = 0#64 := BitVec.eq_of_toNat_eq none
    rfl
  rw [if_neg none]
  by_cases low : bits.toNat < 2 ^ 52
  · rcases unpack_subnormal (Nat.pos_of_ne_zero none) low with ⟨positive, read⟩
    rw [read, if_pos low]
    rfl
  · rcases unpack_normal (not_lt.mp low) (lt_of_le_of_ne atMost infinite) with ⟨positive, read⟩
    rw [read, if_neg low]
    rfl

theorem bitsPlace_strictMonoOn : StrictMonoOn bitsPlace (Set.Iic (2047 * 2 ^ 52)) := by
  intro left _ right (atMost : right ≤ 2047 * 2 ^ 52) less
  simp only [bitsPlace]
  rw [if_neg (by omega), if_neg (by omega : ¬right = 0)]
  by_cases infinite : right = 2047 * 2 ^ 52
  · rw [if_pos infinite]
    split_ifs <;> simp [Prod.Lex.toLex_lt_toLex]
  rw [if_neg infinite]
  by_cases none : left = 0
  · rw [if_pos none]
    split_ifs <;> simp [Prod.Lex.toLex_lt_toLex]
  rw [if_neg none]
  -- What is left are two finite numbers above zero.
  split_ifs
  all_goals
    simp only [Prod.Lex.toLex_lt_toLex, lt_self_iff_false, false_or, true_and]
    omega

end Fields

section Rank

variable {x y : Float}

theorem rank_of_undefined (undefined : ¬Scalar.IsNumber x) :
    Decimal.rank x = -((2 ^ 64 : Nat) : Int) := by
  rw [double_isNumber_iff, not_not] at undefined
  have nan : x.isNaN = true := by
    have shape : x.isNaN = x.toModel.unpack.isNaN := rfl
    rw [shape, undefined]
    rfl
  simp only [Decimal.rank, nan, if_true]
  rfl

theorem rank_of_isNumber (number : Scalar.IsNumber x) :
    Decimal.rank x = if x.toBits.toNat < 2 ^ 63 then (x.toBits.toNat : Int)
      else -((x.toBits.toNat - 2 ^ 63 : Nat) : Int) - 1 := by
  rw [double_isNumber_iff] at number
  have defined : ¬x.isNaN = true := by
    have shape : x.isNaN = x.toModel.unpack.isNaN := rfl
    rw [shape]
    intro nan
    apply number
    cases read : x.toModel.unpack with
    | notANumber => rfl
    | _ => simp [read, UnpackedFloat.isNaN] at nan
  simp only [Decimal.rank, if_neg defined]
  rfl

theorem hasPlus_double_iff :
    HasPlus x.toModel.unpack ↔ Scalar.IsNumber x ∧ x.toBits.toNat < 2 ^ 63 := by
  rw [double_isNumber_iff]
  exact hasPlus_unpack_iff

theorem rank_nonneg_iff : 0 ≤ Decimal.rank x ↔ HasPlus x.toModel.unpack := by
  rw [hasPlus_double_iff]
  by_cases number : Scalar.IsNumber x
  · rw [rank_of_isNumber number, and_iff_right number]
    split <;> omega
  · rw [rank_of_undefined number]
    simp [number]

/-- Doubles of one rank have the same bits, or are undefined. -/
theorem rank_inj (same : Decimal.rank x = Decimal.rank y) : x = y := by
  have width : x.toBits.toNat < 2 ^ 64 := x.toBits.toNat_lt
  have otherWidth : y.toBits.toNat < 2 ^ 64 := y.toBits.toNat_lt
  by_cases number : Scalar.IsNumber x
  · by_cases otherNumber : Scalar.IsNumber y
    · apply Float.toBits_inj.mp
      apply UInt64.toNat_inj.mp
      rw [rank_of_isNumber number, rank_of_isNumber otherNumber] at same
      split at same <;> split at same <;> omega
    · rw [rank_of_isNumber number, rank_of_undefined otherNumber] at same
      split at same <;> omega
  · by_cases otherNumber : Scalar.IsNumber y
    · rw [rank_of_undefined number, rank_of_isNumber otherNumber] at same
      split at same <;> omega
    · rw [double_isNumber_iff, not_not] at number otherNumber
      exact double_eq_of_unpack_eq (number.trans otherNumber.symm)

theorem sortsBefore_double_iff :
    Scalar.sortsBefore x y = true ↔ Decimal.rank x ≤ Decimal.rank y :=
  decide_eq_true_iff

theorem isUnsigned_double_iff : Scalar.IsUnsigned x ↔ HasPlus x.toModel.unpack := by
  have zero : Decimal.rank (Zero.zero : Float) = 0 := by decide +kernel
  have above : Scalar.sortsBefore 0 x = true ↔ 0 ≤ Decimal.rank x := by
    rw [← zero]
    exact sortsBefore_double_iff
  constructor
  · intro unsigned
    exact rank_nonneg_iff.mp (above.mp unsigned.sortsBefore)
  · intro plus
    exact ⟨(hasPlus_double_iff.mp plus).1, above.mpr (rank_nonneg_iff.mpr plus)⟩

theorem rank_of_hasPlus (plus : HasPlus x.toModel.unpack) :
    Decimal.rank x = x.toBits.toNat := by
  rcases hasPlus_double_iff.mp plus with ⟨number, small⟩
  rw [rank_of_isNumber number, if_pos small]

theorem rank_le_iff (left : HasPlus x.toModel.unpack) (right : HasPlus y.toModel.unpack) :
    Decimal.rank x ≤ Decimal.rank y ↔ x ≤ y := by
  rcases doublePlace_unpack left with ⟨atMost, place⟩
  rcases doublePlace_unpack right with ⟨otherAtMost, otherPlace⟩
  have places := bitsPlace_strictMonoOn.le_iff_le atMost otherAtMost
  rw [← place, ← otherPlace] at places
  have numbers := And.intro (hasPlus_double_iff.mp left).1 (hasPlus_double_iff.mp right).1
  rw [double_le_iff, and_iff_right numbers, rank_of_hasPlus left, rank_of_hasPlus right,
    Int.ofNat_le]
  exact places.symm

theorem add_notANumber (x : UnpackedFloat) :
    UnpackedFloat.add .binary64 x .notANumber = .notANumber ∧
      UnpackedFloat.add .binary64 .notANumber x = .notANumber := by
  cases x <;> exact ⟨rfl, rfl⟩

theorem div_notANumber (x : UnpackedFloat) :
    UnpackedFloat.div .binary64 x .notANumber = .notANumber ∧
      UnpackedFloat.div .binary64 .notANumber x = .notANumber := by
  cases x <;> exact ⟨rfl, rfl⟩

theorem unpack_pack_notANumber : (Float.Model.pack .notANumber).unpack = .notANumber := by
  rfl

/-- What is computed with an undefined result is undefined. -/
theorem isNumber_of_isNumber_op {op : UnpackedFloat → UnpackedFloat → UnpackedFloat} {z : Float}
    (read : z.toModel.unpack =
      (Float.Model.pack (op x.toModel.unpack y.toModel.unpack)).unpack)
    (undefined : ∀ x, op x .notANumber = .notANumber ∧ op .notANumber x = .notANumber)
    (number : Scalar.IsNumber z) :
    op x.toModel.unpack y.toModel.unpack ≠ .notANumber ∧
      Scalar.IsNumber x ∧ Scalar.IsNumber y := by
  simp only [double_isNumber_iff] at number ⊢
  have defined : op x.toModel.unpack y.toModel.unpack ≠ .notANumber := by
    intro result
    rw [read, result] at number
    exact number unpack_pack_notANumber
  refine ⟨defined, ?_, ?_⟩
  · intro left
    rw [left] at defined
    exact defined (undefined _).2
  · intro right
    rw [right] at defined
    exact defined (undefined _).1

instance : Scalar.IsSorting Float where
  sortsBefore_total x y := by
    rw [Bool.or_eq_true, sortsBefore_double_iff, sortsBefore_double_iff]
    exact le_total _ _
  sortsBefore_trans x y z first second := by
    rw [sortsBefore_double_iff] at first second ⊢
    exact le_trans first second
  sortsBefore_antisymm first second :=
    rank_inj (le_antisymm (sortsBefore_double_iff.mp first) (sortsBefore_double_iff.mp second))
  sortsBefore_iff_le left right := by
    rw [isUnsigned_double_iff] at left right
    exact sortsBefore_double_iff.trans (rank_le_iff left right)
  isUnsigned_one :=
    isUnsigned_double_iff.mpr (double_pos_iff.mp Scalar.IsComparable.zero_lt_one).hasPlus
  isUnsigned_natCast n := by
    apply isUnsigned_double_iff.mpr
    rcases Nat.eq_zero_or_pos n with rfl | some
    · exact unpack_zero ▸ trivial
    · exact (double_pos_iff.mp (natCast_pos some)).hasPlus
  isNumber_of_add {x y} number := (isNumber_of_isNumber_op (unpack_add x y) add_notANumber number).2
  isNumber_of_div {x y} number := (isNumber_of_isNumber_op (unpack_div x y) div_notANumber number).2
  isUnsigned_add {x y} left right _ := by
    rw [isUnsigned_double_iff] at left right ⊢
    exact unpack_add x y ▸ (left.add right).unpack_pack
  isUnsigned_div {x y} left right number := by
    rcases isNumber_of_isNumber_op (unpack_div x y) div_notANumber number with ⟨defined, -⟩
    rw [isUnsigned_double_iff] at left right ⊢
    exact unpack_div x y ▸ (left.div right defined).unpack_pack

end Rank

end MotifVote
