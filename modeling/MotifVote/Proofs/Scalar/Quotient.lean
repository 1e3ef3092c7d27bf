import MotifVote.Proofs.Scalar.Nearest
import MotifVote.Proofs.Scalar.Proportion

/-!
# Quotients of counts as doubles

A count of less than 54 bits is a double, and one of two such counts divided by the other is off by
less than half of the difference that one more would make. So a larger part of some things is a
larger double, and all of them are one.
-/

namespace MotifVote

open Float.Model (Format UnpackedFloat totalExponent)
open Float.Model.UnpackedFloat (Accuracy ExtendedMantissa Sign accuracyOfFraction pack
  packComponents packedInfinity roundWithAccuracy unpack unpackSign)

section Packed

/-- A double above zero. -/
def IsPositive : UnpackedFloat → Prop
  | .infinity .positive => True
  | .finite .positive _ _ _ => True
  | _ => False

theorem isPositive_iff (x : UnpackedFloat) : IsPositive x ↔
    x ≠ .notANumber ∧ doublePlace (.zero .positive) < doublePlace x := by
  rcases x with (_ | _) | _ | _ | ⟨_ | _, _, _, _⟩ <;>
    simp [IsPositive, doublePlace, Prod.Lex.toLex_lt_toLex]

theorem unpackSign_packComponents {format : Format} (sign : Sign)
    (exponent : BitVec format.exponentBits) (mantissa : BitVec format.mantissaBitsWithoutImplicit) :
    Sign.ofBitVec (unpackSign (packComponents format sign exponent mantissa)) = sign := by
  have bit : unpackSign (packComponents format sign exponent mantissa) = sign.toBitVec := by
    ext i inside
    have first : i = 0 := by omega
    subst first
    simp [unpackSign, packComponents, BitVec.getLsbD_eq_getElem, BitVec.getLsbD_append,
      BitVec.getElem_append]
  rw [bit]
  cases sign <;> rfl

/-- A mantissa is stored without its first bit, which is put back. -/
theorem implicit_bit {m : Nat} (full : 2 ^ 52 ≤ m) (fits : m < 2 ^ 53) :
    (1#1 ++ BitVec.ofNat 52 m).toNat = m := by
  rw [BitVec.toNat_append, ← Nat.shiftLeft_add_eq_or_of_lt (BitVec.isLt _), BitVec.toNat_ofNat,
    BitVec.toNat_ofNat]
  have rest : m % 2 ^ 52 = m - 2 ^ 52 := by
    rw [Nat.mod_eq_sub_mod full, Nat.mod_eq_of_lt (by omega)]
  rw [rest]
  exact Nat.add_sub_of_le full

theorem pack_double (sign : Sign) {m : Nat} {e : Int} (positive : 0 < m) :
    pack .binary64 (.finite sign m e positive) =
      if 2047 ≤ (e + 1075).toNat then packedInfinity .binary64 sign
      else if m.log2 = 52 then
        packComponents .binary64 sign (BitVec.ofNat 11 (e + 1075).toNat) (BitVec.ofNat 52 m)
      else packComponents .binary64 sign 0#11 (BitVec.ofNat 52 m) := by
  have biased : e + (Format.binary64.exponentBias : Int) +
      (Format.binary64.mantissaBitsWithoutImplicit : Int) = e + 1075 := by
    have bias : (Format.binary64.exponentBias : Int) = 1023 := rfl
    have bits : (Format.binary64.mantissaBitsWithoutImplicit : Int) = 52 := rfl
    omega
  rw [pack, biased]
  have last : 2 ^ Format.binary64.exponentBits ≤ (e + 1075).toNat + 1 ↔
      2047 ≤ (e + 1075).toNat := Nat.succ_le_succ_iff
  have full : m.log2 + 1 = Format.binary64.mantissaBits ↔ m.log2 = 52 := Nat.succ_inj
  simp only [last, full]

/-- A number with all bits in use is read back as it was stored. -/
theorem unpack_pack_normal {sign : Sign} {m : Nat} {e : Int} (full : 2 ^ 52 ≤ m)
    (fits : m < 2 ^ 53) (least : -1074 ≤ e) (most : e ≤ 971) (positive : 0 < m) :
    unpack .binary64 (pack .binary64 (.finite sign m e positive)) =
      .finite sign m e positive := by
  have bits : m.log2 = 52 := (Nat.log2_eq_iff positive.ne').mpr ⟨full, fits⟩
  have exponent : (BitVec.ofNat 11 (e + 1075).toNat).toNat = (e + 1075).toNat := by
    rw [BitVec.toNat_ofNat]
    exact Nat.mod_eq_of_lt (by omega)
  have notLast : BitVec.ofNat 11 (e + 1075).toNat ≠ -1#11 := by
    intro last
    have same : (e + 1075).toNat = 2047 := exponent.symm.trans (congrArg BitVec.toNat last)
    omega
  have notFirst : BitVec.ofNat 11 (e + 1075).toNat ≠ 0#11 := by
    intro first
    have same : (e + 1075).toNat = 0 := exponent.symm.trans (congrArg BitVec.toNat first)
    omega
  rw [pack_double, if_neg (by omega), if_pos bits]
  simp only [unpack, Float.Model.UnpackedFloat.unpackExponent_packComponents,
    Float.Model.UnpackedFloat.unpackMantissa_packComponents, unpackSign_packComponents,
    notLast, notFirst, if_false, exponent, implicit_bit full fits]
  congr 1
  have bias : (Format.binary64.exponentBias : Int) = 1023 := rfl
  omega

/-- So is a number with the least exponent and fewer bits. -/
theorem unpack_pack_subnormal {sign : Sign} {m : Nat} (short : m < 2 ^ 52) (positive : 0 < m) :
    unpack .binary64 (pack .binary64 (.finite sign m (-1074) positive)) =
      .finite sign m (-1074) positive := by
  have bits : m.log2 < 52 := (Nat.log2_lt positive.ne').mpr short
  have stored : (BitVec.ofNat 52 m).toNat = m := by
    rw [BitVec.toNat_ofNat, Nat.mod_eq_of_lt short]
  have mantissa : BitVec.ofNat 52 m ≠ 0#52 := by
    intro zero
    have same : m = 0 := stored.symm.trans (congrArg BitVec.toNat zero)
    exact positive.ne' same
  rw [pack_double, if_neg (by omega), if_neg bits.ne]
  simp only [unpack, Float.Model.UnpackedFloat.unpackExponent_packComponents,
    Float.Model.UnpackedFloat.unpackMantissa_packComponents, unpackSign_packComponents]
  rw [if_neg (by decide), if_pos trivial, dif_neg mantissa]
  congr 1

/-- A number with too large an exponent is stored as an infinity. -/
theorem unpack_pack_overflow (sign : Sign) {m : Nat} {e : Int} (more : 971 < e)
    (positive : 0 < m) :
    unpack .binary64 (pack .binary64 (.finite sign m e positive)) = .infinity sign := by
  rw [pack_double, if_pos (by omega)]
  simp [packedInfinity, unpack]

/-- What is positive is stored as such, be it with fewer bits or as an infinity. -/
theorem isPositive_unpack_pack {m : Nat} {e : Int} (fits : m < 2 ^ 53) (least : -1074 ≤ e)
    (positive : 0 < m) :
    IsPositive (unpack .binary64 (pack .binary64 (.finite .positive m e positive))) := by
  by_cases most : e ≤ 971
  · by_cases full : 2 ^ 52 ≤ m
    · rw [unpack_pack_normal full fits least most positive]
      trivial
    · have bits : m.log2 < 52 := (Nat.log2_lt positive.ne').mpr (not_le.mp full)
      have mantissa : BitVec.ofNat 52 m ≠ 0#52 := by
        intro zero
        have same : m % 2 ^ 52 = 0 := congrArg BitVec.toNat zero
        rw [Nat.mod_eq_of_lt (not_le.mp full)] at same
        exact positive.ne' same
      rw [pack_double, if_neg (by omega), if_neg bits.ne]
      simp [unpack, mantissa, IsPositive]
  · rw [unpack_pack_overflow .positive (not_le.mp most) positive]
    trivial

end Packed

section Normal

variable {x y : UnpackedFloat} {v w : ℚ}

theorem IsNormal.isPositive (normal : IsNormal x v) : IsPositive x := by
  cases normal
  trivial

theorem IsNormal.unpack_pack (normal : IsNormal x v) : (Float.Model.pack x).unpack = x := by
  cases normal with
  | finite positive full fits least most => exact unpack_pack_normal full fits least most positive

theorem mantissa_mul_lt {m : Nat} {e f : Int} (fits : m < 2 ^ 53) (less : e < f) :
    (m : ℚ) * 2 ^ e < 2 ^ 52 * 2 ^ f := by
  refine lt_of_lt_of_le ?_ (mul_units_le less)
  gcongr
  exact_mod_cast fits

theorem exponent_le {m n : Nat} {e f : Int} (full : 2 ^ 52 ≤ m) (fits : n < 2 ^ 53)
    (atMost : (m : ℚ) * 2 ^ e ≤ n * 2 ^ f) : e ≤ f := by
  by_contra greater
  have mantissa : (2 : ℚ) ^ 52 * 2 ^ e ≤ m * 2 ^ e := by
    gcongr
    exact_mod_cast full
  exact not_lt.mpr atMost (lt_of_lt_of_le (mantissa_mul_lt fits (not_le.mp greater)) mantissa)

/-- A smaller number has a smaller exponent, or the same one and a smaller mantissa. -/
theorem IsNormal.doublePlace_lt (left : IsNormal x v) (right : IsNormal y w) (less : v < w) :
    doublePlace x < doublePlace y := by
  rcases left with @⟨m, e, _, full, _, _, _⟩
  rcases right with @⟨n, f, _, _, fits, _, _⟩
  rcases lt_or_eq_of_le (exponent_le full fits less.le) with below | rfl
  · simp [doublePlace, Prod.Lex.toLex_lt_toLex, below]
  · have mantissas : m < n := by
      exact_mod_cast lt_of_mul_lt_mul_right less (zpow_nonneg two_pos.le _)
    simp [doublePlace, Prod.Lex.toLex_lt_toLex, mantissas]

theorem IsNormal.unique (left : IsNormal x v) (right : IsNormal y w) (same : v = w) : x = y := by
  rcases left with @⟨m, e, _, full, fits, _, _⟩
  rcases right with @⟨n, f, _, otherFull, otherFits, _, _⟩
  obtain rfl : e = f :=
    le_antisymm (exponent_le full otherFits same.le) (exponent_le otherFull fits same.ge)
  obtain rfl : m = n := by
    exact_mod_cast mul_right_cancel₀ (zpow_ne_zero e two_ne_zero) same
  rfl

/-- A number from one on that is no larger than counts are. -/
structure IsCount (x : UnpackedFloat) (v : ℚ) : Prop where
  normal : IsNormal x v
  one_le : 1 ≤ v
  le : v ≤ 2 ^ 64

theorem IsCount.exists_eq (count : IsCount x v) : ∃ mantissa exponent positive,
    x = .finite .positive mantissa exponent positive ∧ v = mantissa * 2 ^ exponent ∧
      2 ^ 52 ≤ mantissa ∧ mantissa < 2 ^ 53 ∧ -52 ≤ exponent ∧ exponent ≤ 12 := by
  rcases count with ⟨@⟨m, e, positive, full, fits, -, -⟩, atLeast, atMost⟩
  refine ⟨m, e, positive, rfl, rfl, full, fits, ?_, ?_⟩
  · by_contra small
    have below := mantissa_mul_lt fits (not_le.mp small)
    norm_num at below
    exact not_le.mpr below atLeast
  · by_contra large
    have unit : (2 : ℚ) ^ (13 : ℤ) ≤ 2 ^ e := zpow_le_zpow_right₀ one_le_two (by omega)
    have above : (2 : ℚ) ^ 52 * 2 ^ (13 : ℤ) ≤ m * 2 ^ e := by
      gcongr
      exact_mod_cast full
    norm_num at above atMost
    linarith

/-- A number with fewer bits than a mantissa is shifted to the left and loses none of them. -/
theorem round_count {n : Nat} (some : 0 < n) (fits : n < 2 ^ 53) :
    IsCount (UnpackedFloat.round .binary64 .positive n 0) n := by
  have fewBits : n.log2 < 53 := (Nat.log2_lt some.ne').mpr fits
  have target : Format.binary64.targetExponent (totalExponent n 0) = n.log2 - 52 := by
    have subnormal : Format.binary64.minExponent = -1074 := rfl
    have all : Format.binary64.mantissaBits = 53 := rfl
    rw [Format.targetExponent, totalExponent, subnormal, all]
    omega
  have amount : (0 - ((n.log2 : Int) - 52)).toNat = 52 - n.log2 := by omega
  have full : 2 ^ 52 ≤ n * 2 ^ (52 - n.log2) := by
    calc 2 ^ 52 = 2 ^ n.log2 * 2 ^ (52 - n.log2) := by
          rw [← pow_add, Nat.add_sub_cancel' (by omega)]
      _ ≤ n * 2 ^ (52 - n.log2) := Nat.mul_le_mul_right _ (Nat.log2_self_le some.ne')
  have short : n * 2 ^ (52 - n.log2) < 2 ^ 53 := by
    calc n * 2 ^ (52 - n.log2) < 2 ^ (n.log2 + 1) * 2 ^ (52 - n.log2) :=
          Nat.mul_lt_mul_of_pos_right Nat.lt_log2_self (Nat.two_pow_pos _)
      _ = 2 ^ 53 := by rw [← pow_add]; congr 1; omega
  have bits : (n * 2 ^ (52 - n.log2)).log2 < 53 := (Nat.log2_lt (by omega)).mpr short
  have value : ((n * 2 ^ (52 - n.log2) : Nat) : ℚ) * 2 ^ (0 - ((52 - n.log2 : Nat) : ℤ)) = n := by
    rw [zero_sub, zpow_neg, zpow_natCast]
    push_cast
    field_simp
  have limit : (n : ℚ) ≤ 2 ^ 64 := by
    exact_mod_cast le_trans fits.le (Nat.pow_le_pow_right two_pos (by omega))
  refine ⟨?_, by exact_mod_cast some, limit⟩
  have kept := rounds_self full short (0 - ((52 - n.log2 : Nat) : ℤ))
  rw [value] at kept
  simp only [UnpackedFloat.round, UnpackedFloat.decreaseExponent, target, amount,
    Nat.shiftLeft_eq]
  exact (stands_exact _).round_exact full (by omega) (by omega) value kept

theorem IsCount.mul_one (count : IsCount x v) : IsCount (UnpackedFloat.mul .binary64 x
    (.finite .positive (2 ^ 52) (-52) (Nat.two_pow_pos 52))) v := by
  have kept := count.normal.rounds
  rcases count.exists_eq with ⟨m, e, positive, rfl, rfl, full, fits, least, most⟩
  refine ⟨?_, count.one_le, count.le⟩
  have bits : (m * 2 ^ 52).log2 = 104 :=
    (Nat.log2_eq_iff (by omega)).mpr ⟨by omega, by omega⟩
  have value : ((m * 2 ^ 52 : Nat) : ℚ) * 2 ^ (e + -52) = m * 2 ^ e := by
    rw [zpow_add₀ two_ne_zero]
    push_cast
    ring
  exact (stands_exact _).round_exact (by omega) (by omega) (by omega) value kept

/-- Shifted to the left by as many bits as a mantissa has, a count has enough bits to be divided by
another. -/
theorem div_double {m n : Nat} {e f : Int} (positive : 0 < m) (divisor : 0 < n)
    (full : 2 ^ 52 ≤ m) (fits : m < 2 ^ 53) (otherFull : 2 ^ 52 ≤ n) (otherFits : n < 2 ^ 53)
    (near : -1000 ≤ e - f) :
    UnpackedFloat.div .binary64 (.finite .positive m e positive) (.finite .positive n f divisor) =
      roundWithAccuracy .binary64 .positive (m * 2 ^ 53 / n) (e - f - 53)
        (accuracyOfFraction (m * 2 ^ 53 % n) n) := by
  have bits : m.log2 = 52 := (Nat.log2_eq_iff positive.ne').mpr ⟨full, fits⟩
  have otherBits : n.log2 = 52 := (Nat.log2_eq_iff divisor.ne').mpr ⟨otherFull, otherFits⟩
  have target : min (e - f) (Format.binary64.targetExponent
      (totalExponent m e - totalExponent n f)) = e - f - 53 := by
    have subnormal : Format.binary64.minExponent = -1074 := rfl
    have all : Format.binary64.mantissaBits = 53 := rfl
    rw [Format.targetExponent, totalExponent, totalExponent, bits, otherBits, subnormal, all]
    omega
  have shift : (e - f - (e - f - 53)).toNat = 53 := by omega
  have core : UnpackedFloat.divCore .binary64 m e n f =
      (m * 2 ^ 53 / n, e - f - 53, accuracyOfFraction (m * 2 ^ 53 % n) n) := by
    simp only [UnpackedFloat.divCore, target, shift, Nat.shiftLeft_eq]
  have sign : Sign.positive / Sign.positive = Sign.positive := rfl
  simp only [UnpackedFloat.div, core, sign]

theorem quotient_bits {m n : Nat} (full : 2 ^ 52 ≤ m) (fits : m < 2 ^ 53)
    (otherFull : 2 ^ 52 ≤ n) (otherFits : n < 2 ^ 53) :
    2 ^ 52 ≤ m * 2 ^ 53 / n ∧ (m * 2 ^ 53 / n).log2 ≤ 53 := by
  have divisor : 0 < n := by omega
  have least : 2 ^ 52 ≤ m * 2 ^ 53 / n := by
    rw [Nat.le_div_iff_mul_le divisor]
    exact Nat.mul_le_mul full otherFits.le
  have most : m * 2 ^ 53 / n < 2 ^ 54 := by
    rw [Nat.div_lt_iff_lt_mul divisor]
    omega
  refine ⟨least, Nat.lt_succ_iff.mp ((Nat.log2_lt ?_).mpr most)⟩
  omega

/-- A quotient of counts is the nearest double. -/
theorem IsCount.div (part : IsCount x v) (whole : IsCount y w) : ∃ q,
    IsNormal (UnpackedFloat.div .binary64 x y) q ∧ Rounds (v / w) q := by
  rcases part.exists_eq with ⟨m, e, positive, rfl, rfl, full, fits, least, most⟩
  rcases whole.exists_eq with ⟨n, f, divisor, rfl, rfl, otherFull, otherFits, otherLeast, otherMost⟩
  have value : (m * 2 ^ e : ℚ) / (n * 2 ^ f) =
      ((m * 2 ^ 53 : Nat) : ℚ) / n * 2 ^ (e - f - 53) := by
    rw [zpow_sub₀ two_ne_zero, zpow_sub₀ two_ne_zero]
    push_cast
    field_simp
  rcases quotient_bits full fits otherFull otherFits with ⟨long, bits⟩
  rw [div_double positive divisor full fits otherFull otherFits (by omega), value]
  exact (stands_quotient (m * 2 ^ 53) divisor).round_normal long (by omega) (by omega)

theorem rounds_one : Rounds 1 1 := by
  have kept := rounds_self (le_refl (2 ^ 52)) (by norm_num) (-52)
  norm_num at kept
  exact kept

theorem IsCount.div_self (count : IsCount x v) :
    IsNormal (UnpackedFloat.div .binary64 x x) 1 := by
  rcases count.div count with ⟨q, normal, rounds⟩
  have nonzero : v ≠ 0 := (lt_of_lt_of_le one_pos count.one_le).ne'
  rw [(div_eq_one_iff_eq nonzero).mpr rfl] at rounds
  rwa [rounds.unique rounds_one] at normal

end Normal

section Positive

variable {m : Nat} {e : Int}

theorem isPositive_roundWithAccuracy (accuracy : Accuracy) (least : -1074 ≤ e) (some : 0 < m) :
    IsPositive (Float.Model.pack
      (roundWithAccuracy .binary64 .positive m e accuracy)).unpack := by
  rcases exists_round_eq_finite accuracy least some with ⟨_, _, positive, rounded, fits, bounded⟩
  rw [rounded]
  exact isPositive_unpack_pack fits bounded positive

theorem isPositive_round (least : -1074 ≤ e) (some : 0 < m) :
    IsPositive (Float.Model.pack (UnpackedFloat.round .binary64 .positive m e)).unpack := by
  have target : -1074 ≤ Format.binary64.targetExponent (totalExponent m e) := le_max_right _ _
  refine isPositive_roundWithAccuracy .exact (by omega) ?_
  rw [Nat.shiftLeft_eq]
  exact Nat.mul_pos some (Nat.two_pow_pos _)

theorem normalize_natCast (some : 0 < m) (e : Int) :
    UnpackedFloat.normalize .binary64 m e .positive =
      UnpackedFloat.round .binary64 .positive m e := by
  have greater : compare (m : Int) 0 = .gt := compare_gt_iff_gt.mpr (by omega)
  simp only [UnpackedFloat.normalize, greater, Int.toNat_natCast]

/-- Two positive numbers are added as integers, with the smaller of their exponents. -/
theorem exists_add_eq_round {n : Nat} {f : Int} (some : 0 < m) (other : 0 < n) :
    ∃ total, 0 < total ∧ UnpackedFloat.add .binary64 (.finite .positive m e some)
      (.finite .positive n f other) =
        UnpackedFloat.round .binary64 .positive total (min e f) := by
  have above : 0 < m <<< (e - min e f).toNat + n <<< (f - min e f).toNat := by
    rw [Nat.shiftLeft_eq]
    exact Nat.add_pos_left (Nat.mul_pos some (Nat.two_pow_pos _)) _
  exact ⟨_, above, normalize_natCast above (min e f)⟩

theorem unpack_bounds {bits : BitVec Format.binary64.numBits} {sign : Sign} (positive : 0 < m)
    (read : unpack .binary64 bits = .finite sign m e positive) : m < 2 ^ 53 ∧ -1074 ≤ e := by
  have bias : (Format.binary64.exponentBias : Int) = 1023 := rfl
  have fraction : (Format.binary64.mantissaBitsWithoutImplicit : Int) = 52 := rfl
  simp only [unpack] at read
  split at read
  · split at read <;> cases read
  · split at read
    · split at read
      · cases read
      · cases read
        exact ⟨lt_trans (BitVec.isLt _) (by norm_num), by omega⟩
    next notFirst =>
      have stored : (UnpackedFloat.unpackExponent bits).toNat ≠ 0 :=
        fun zero => notFirst (BitVec.eq_of_toNat_eq zero)
      cases read
      exact ⟨BitVec.isLt _, by omega⟩

variable {x y : Float}

theorem double_pos_iff : 0 < x ↔ IsPositive x.toModel.unpack := by
  rw [double_lt_iff, isPositive_iff, double_zero, and_iff_right double_isNumber_zero,
    double_isNumber_iff]

theorem IsPositive.cases {x : UnpackedFloat} (positive : IsPositive x) :
    x = .infinity .positive ∨ ∃ m e some, x = .finite .positive m e some := by
  rcases x with (_ | _) | _ | _ | ⟨_ | _, m, e, some⟩ <;> try contradiction
  · exact Or.inl rfl
  · exact Or.inr ⟨m, e, some, rfl⟩

theorem isPositive_or_zero {x : UnpackedFloat} (number : x ≠ .notANumber)
    (notNegative : ¬doublePlace x < doublePlace (.zero .positive)) :
    IsPositive x ∨ ∃ sign, x = .zero sign := by
  rcases x with (_ | _) | _ | sign | ⟨_ | _, m, e, some⟩
  · exact absurd (Prod.Lex.toLex_lt_toLex.mpr (Or.inl (by decide))) notNegative
  · exact Or.inl trivial
  · contradiction
  · exact Or.inr ⟨sign, rfl⟩
  · exact absurd (Prod.Lex.toLex_lt_toLex.mpr (Or.inl neg_one_lt_zero)) notNegative
  · exact Or.inl trivial

theorem unpack_add (x y : Float) : (x + y).toModel.unpack = (Float.Model.pack
    (UnpackedFloat.add .binary64 x.toModel.unpack y.toModel.unpack)).unpack :=
  rfl

theorem unpack_div (x y : Float) : (x / y).toModel.unpack = (Float.Model.pack
    (UnpackedFloat.div .binary64 x.toModel.unpack y.toModel.unpack)).unpack :=
  rfl

theorem double_add_pos (positive : 0 < x) (number : Scalar.IsNumber y) (notNegative : ¬y < 0) :
    0 < x + y := by
  have infinite : IsPositive (Float.Model.pack (.infinity .positive)).unpack := trivial
  rw [double_pos_iff] at positive ⊢
  rw [double_lt_iff, double_zero, and_iff_right ⟨number, double_isNumber_zero⟩] at notNegative
  have second := isPositive_or_zero (double_isNumber_iff.mp number) notNegative
  rw [unpack_add]
  rcases positive.cases with left | ⟨m, e, some, left⟩
  · rcases second with positive | ⟨sign, right⟩
    · rcases positive.cases with right | ⟨n, f, other, right⟩
      · rw [left, right]
        exact infinite
      · rw [left, right]
        exact infinite
    · rw [left, right]
      exact infinite
  · rcases unpack_bounds some left with ⟨fits, least⟩
    rcases second with positive | ⟨sign, right⟩
    · rcases positive.cases with right | ⟨n, f, other, right⟩
      · rw [left, right]
        exact infinite
      · rcases unpack_bounds other right with ⟨-, otherLeast⟩
        rcases exists_add_eq_round some other with ⟨total, above, added⟩
        rw [left, right, added]
        exact isPositive_round (by omega) above
    · rw [left, right]
      exact isPositive_unpack_pack fits least some

theorem double_ne_zero (positive : 0 < x) : (x == 0) = false := by
  have shape : (x == 0) = x.toModel.unpack.beq (.zero .positive) := rfl
  rw [double_pos_iff] at positive
  rw [shape]
  rcases positive.cases with infinite | ⟨m, e, some, finite⟩
  · rw [infinite]
    rfl
  · rw [finite]
    rfl

/-- What is added to a positive number may also be undefined, and the sum is then undefined. -/
theorem double_add_ne_zero (positive : 0 < x) (notNegative : ¬y < 0) : (x + y == 0) = false := by
  by_cases number : Scalar.IsNumber y
  · exact double_ne_zero (double_add_pos positive number notNegative)
  · rw [double_isNumber_iff, not_not] at number
    have shape : (x + y == 0) = (Float.Model.pack (UnpackedFloat.add .binary64 x.toModel.unpack
      y.toModel.unpack)).unpack.beq (.zero .positive) := rfl
    have undefined : UnpackedFloat.add .binary64 x.toModel.unpack .notANumber = .notANumber := by
      cases x.toModel.unpack <;> rfl
    rw [shape, number, undefined]
    rfl

end Positive

section Counts

variable {n part more whole : Nat}

/-- A count with fewer bits than a mantissa is a double. -/
theorem isCount_natCast (some : 0 < n) (fits : n < 2 ^ 53) :
    IsCount (Float.ofNat n).toModel.unpack n := by
  have small : n < 2 ^ 53 ∧ 0 ≤ 22 := ⟨fits, Nat.zero_le 22⟩
  have product : Float.ofNat n = n.toUInt64.toFloat * Float.ofBits 0x3FF0000000000000 :=
    dif_pos small
  have one : (Float.ofBits 0x3FF0000000000000).toModel.unpack =
      .finite .positive (2 ^ 52) (-52) (Nat.two_pow_pos 52) := by rfl
  have converted : (n.toUInt64.toFloat).toModel =
      Float.Model.pack (UnpackedFloat.normalize .binary64 n.toUInt64.toNat 0 .positive) := rfl
  have count := round_count some fits
  have same : n.toUInt64.toNat = n := UInt64.toNat_ofNat_of_lt' (lt_trans fits (by norm_num))
  have rounded := normalize_natCast some 0
  have multiplied : (Float.ofNat n).toModel = Float.Model.pack (UnpackedFloat.mul .binary64
      n.toUInt64.toFloat.toModel.unpack (Float.ofBits 0x3FF0000000000000).toModel.unpack) := by
    rw [product]
    rfl
  rw [multiplied, one, converted, same, rounded, count.normal.unpack_pack,
    count.mul_one.normal.unpack_pack]
  exact count.mul_one

/-- A count with more bits is converted as if it were an integer times a power of ten, and rounded
then. -/
theorem unpack_natCast_of_long (some : 0 < n) (long : ¬n < 2 ^ 53) :
    (Float.ofNat n).toModel.unpack = (Float.Model.pack
      (roundWithAccuracy .binary64 .positive (n * 2 ^ 53) (-53) .exact)).unpack := by
  have slow : Float.ofNat n = .ofModel (Float.Model.ofScientific n 0) :=
    dif_neg fun small => long small.1
  have rounded : UnpackedFloat.ofScientific .binary64 n 0 =
      roundWithAccuracy .binary64 .positive (n <<< 53 * 10 ^ 0) (-53 + 0) .exact := by
    have exponents : (2 : Int) ^ Format.binary64.exponentBits = 2048 := rfl
    rw [UnpackedFloat.ofScientific, dif_neg some.ne', if_neg (by decide), if_neg (by omega),
      if_pos (le_refl 0)]
    rfl
  have read : (Float.ofNat n).toModel.unpack = (Float.Model.pack
      (UnpackedFloat.ofScientific .binary64 n 0)).unpack := by
    rw [slow]
    rfl
  rw [read, rounded, pow_zero, mul_one, add_zero, Nat.shiftLeft_eq]

theorem natCast_pos (some : 0 < n) : 0 < Float.ofNat n := by
  rw [double_pos_iff]
  by_cases fits : n < 2 ^ 53
  · exact (isCount_natCast some fits).normal.isPositive
  · rw [unpack_natCast_of_long some fits]
    exact isPositive_roundWithAccuracy .exact (by omega) (Nat.mul_pos some (Nat.two_pow_pos 53))

/-- A count becomes the nearest double. -/
theorem exists_natCast (some : 0 < n) (bounded : n ≤ 2 ^ 64) :
    ∃ v : ℚ, IsCount (Float.ofNat n).toModel.unpack v ∧ Rounds n v := by
  by_cases fits : n < 2 ^ 53
  · have count := isCount_natCast some fits
    exact ⟨n, count, count.normal.rounds⟩
  · have value : ((n * 2 ^ 53 : Nat) : ℚ) * 2 ^ (-53 : ℤ) = n := by
      rw [Nat.cast_mul, mul_assoc]
      norm_num
    have bits : (n * 2 ^ 53).log2 < 118 := (Nat.log2_lt (by omega)).mpr (by omega)
    rcases (stands_exact (n * 2 ^ 53)).round_normal (by omega)
      (by omega : (-1074 : ℤ) ≤ -53) (by omega) with ⟨v, normal, rounds⟩
    rw [value] at rounds
    rw [unpack_natCast_of_long some fits, normal.unpack_pack]
    refine ⟨v, ⟨normal, ?_, ?_⟩, rounds⟩
    · exact rounds_one.mono rounds (by exact_mod_cast some)
    · have limit := rounds_self (le_refl (2 ^ 52)) (by norm_num) 12
      norm_num at limit ⊢
      exact rounds.mono limit (by exact_mod_cast bounded)

section Comparison

variable {x y : Float} {v w : ℚ}

theorem IsNormal.isNumber (normal : IsNormal x.toModel.unpack v) : Scalar.IsNumber x := by
  rw [double_isNumber_iff]
  intro undefined
  rw [undefined] at normal
  cases normal

theorem IsNormal.lt (left : IsNormal x.toModel.unpack v) (right : IsNormal y.toModel.unpack w)
    (less : v < w) : x < y :=
  double_lt_iff.mpr ⟨⟨left.isNumber, right.isNumber⟩, left.doublePlace_lt right less⟩

theorem IsNormal.le (left : IsNormal x.toModel.unpack v) (right : IsNormal y.toModel.unpack w)
    (atMost : v ≤ w) : x ≤ y := by
  refine double_le_iff.mpr ⟨⟨left.isNumber, right.isNumber⟩, ?_⟩
  rcases lt_or_eq_of_le atMost with less | same
  · exact (left.doublePlace_lt right less).le
  · rw [left.unique right same]

end Comparison

/-- Counts are told apart as long as a mantissa has bits for all of them. -/
theorem counts_double_iff (limit : Nat) : Scalar.Counts Float limit ↔ limit < 2 ^ 53 := by
  constructor
  · intro counts
    by_contra large
    have last : ¬((2 ^ 53 : Nat) : Float) < ((2 ^ 53 + 1 : Nat) : Float) := by decide +kernel
    exact last (counts (2 ^ 53) (not_lt.mp large))
  · intro small n atMost
    rcases Nat.eq_zero_or_pos n with rfl | some
    · exact natCast_pos one_pos
    · rcases Nat.lt_or_ge (n + 1) (2 ^ 53) with fits | full
      · refine (isCount_natCast some (by omega)).normal.lt
          (isCount_natCast (Nat.succ_pos n) fits).normal ?_
        exact_mod_cast Nat.lt_succ_self n
      · obtain rfl : n = 2 ^ 53 - 1 := by omega
        decide +kernel

theorem unpack_zero : (Float.ofNat 0).toModel.unpack = .zero .positive := by
  rfl

theorem double_zero_div (some : 0 < whole) (bounded : whole ≤ 2 ^ 64) :
    Float.ofNat 0 / Float.ofNat whole = 0 := by
  apply double_eq_of_unpack_eq
  rcases exists_natCast some bounded with ⟨v, count, -⟩
  rcases count.exists_eq with ⟨m, e, positive, read, -⟩
  rw [unpack_div, unpack_zero, read]
  rfl

theorem isNormal_div_self (some : 0 < whole) (bounded : whole ≤ 2 ^ 64) :
    IsNormal (Float.ofNat whole / Float.ofNat whole).toModel.unpack 1 := by
  rcases exists_natCast some bounded with ⟨v, count, -⟩
  rw [unpack_div, count.div_self.unpack_pack]
  exact count.div_self

theorem quotient_le (ordered : part ≤ more) (atMost : more ≤ whole) (some : 0 < whole)
    (bounded : whole ≤ 2 ^ 64) :
    Float.ofNat part / Float.ofNat whole ≤ Float.ofNat more / Float.ofNat whole := by
  rcases exists_natCast some bounded with ⟨w, wholeCount, -⟩
  rcases Nat.eq_zero_or_pos more with rfl | someMore
  · obtain rfl : part = 0 := Nat.le_zero.mp ordered
    rw [double_zero_div some bounded]
    decide +kernel
  rcases exists_natCast someMore (atMost.trans bounded) with ⟨v, moreCount, moreRounds⟩
  rcases moreCount.div wholeCount with ⟨r, larger, rounds⟩
  rw [← larger.unpack_pack, ← unpack_div] at larger
  rcases Nat.eq_zero_or_pos part with rfl | somePart
  · rw [double_zero_div some bounded]
    have positive : 0 < Float.ofNat more / Float.ofNat whole :=
      double_pos_iff.mpr larger.isPositive
    rcases double_lt_iff.mp positive with ⟨numbers, places⟩
    exact double_le_iff.mpr ⟨numbers, places.le⟩
  · rcases exists_natCast somePart (ordered.trans (atMost.trans bounded)) with
      ⟨u, partCount, partRounds⟩
    rcases partCount.div wholeCount with ⟨q, smaller, otherRounds⟩
    rw [← smaller.unpack_pack, ← unpack_div] at smaller
    have positive : 0 < w := lt_of_lt_of_le one_pos wholeCount.one_le
    have parts : u ≤ v := partRounds.mono moreRounds (by exact_mod_cast ordered)
    have ratio : u / w ≤ v / w := by gcongr
    exact smaller.le larger (otherRounds.mono rounds ratio)

theorem double_div_self (some : 0 < whole) (bounded : whole ≤ 2 ^ 64) :
    Float.ofNat whole / Float.ofNat whole = 1 := by
  have one : (One.one : Float).toModel.unpack = (Float.ofNat 1).toModel.unpack := by rfl
  have normal := (isCount_natCast one_pos (by norm_num)).normal
  rw [← one] at normal
  apply double_eq_of_unpack_eq
  exact (isNormal_div_self some bounded).unique normal Nat.cast_one.symm

/-- A part of a count is between nothing and all of it, even where the count is rounded. -/
theorem double_isProbability_div (atMost : part ≤ whole) (some : 0 < whole)
    (bounded : whole ≤ 2 ^ 64) :
    Scalar.IsProbability (Float.ofNat part / Float.ofNat whole) := by
  have nonneg := quotient_le (Nat.zero_le part) atMost some bounded
  have le_one := quotient_le atMost (Nat.le_refl whole) some bounded
  rw [double_zero_div some bounded] at nonneg
  rw [double_div_self some bounded] at le_one
  exact ⟨(double_le_iff.mp nonneg).1.2, nonneg, le_one⟩

/-- A quotient is off by less than half of what one more part makes. -/
theorem exists_quotient (some : 0 < part) (atMost : part ≤ whole) (fits : whole < 2 ^ 53) :
    ∃ q : ℚ, IsNormal (Float.ofNat part / Float.ofNat whole).toModel.unpack q ∧
      |q - part / whole| ≤ 2 ^ (-54 : ℤ) := by
  have positive : 0 < whole := by omega
  rcases Nat.lt_or_eq_of_le atMost with less | rfl
  · rcases (isCount_natCast some (by omega)).div (isCount_natCast positive fits) with
      ⟨q, normal, rounds⟩
    rcases rounds.near with ⟨unit, bits, near⟩
    refine ⟨q, by rwa [unpack_div, normal.unpack_pack], le_trans near ?_⟩
    have proper : (part : ℚ) / whole < 1 :=
      (div_lt_one (Nat.cast_pos.mpr positive)).mpr (Nat.cast_lt.mpr less)
    have small : unit ≤ -53 := by
      by_contra large
      have units : (2 : ℚ) ^ (-52 : ℤ) ≤ 2 ^ unit := zpow_le_zpow_right₀ one_le_two (by omega)
      have one : (2 : ℚ) ^ 52 * 2 ^ (-52 : ℤ) ≤ 2 ^ 52 * 2 ^ unit := by gcongr
      norm_num at one
      linarith
    have units : (2 : ℚ) ^ unit ≤ 2 ^ (-53 : ℤ) := zpow_le_zpow_right₀ one_le_two small
    norm_num at units ⊢
    linarith
  · refine ⟨1, isNormal_div_self positive (le_trans fits.le (by norm_num)), ?_⟩
    rw [div_self (Nat.cast_ne_zero.mpr positive.ne'), sub_self, abs_zero]
    positivity

theorem quotient_lt (less : part < more) (atMost : more ≤ whole) (fits : whole < 2 ^ 53) :
    Float.ofNat part / Float.ofNat whole < Float.ofNat more / Float.ofNat whole := by
  rcases exists_quotient (by omega) atMost fits with ⟨r, larger, above⟩
  rcases Nat.eq_zero_or_pos part with rfl | some
  · rw [double_zero_div (by omega) (le_trans fits.le (by norm_num)), double_pos_iff]
    exact larger.isPositive
  · rcases exists_quotient some (by omega) fits with ⟨q, smaller, below⟩
    refine smaller.lt larger ?_
    have positive : (0 : ℚ) < whole := Nat.cast_pos.mpr (by omega)
    -- One more part is more than two roundings.
    have step : (part : ℚ) / whole + 1 / whole ≤ more / whole := by
      rw [← add_div]
      gcongr
      exact_mod_cast less
    have one : (2 : ℚ) ^ (-53 : ℤ) < 1 / whole := by
      rw [zpow_neg, ← one_div]
      apply one_div_lt_one_div_of_lt positive
      exact_mod_cast fits
    have twice : (2 : ℚ) ^ (-53 : ℤ) = 2 ^ (-54 : ℤ) + 2 ^ (-54 : ℤ) := by norm_num
    have left := abs_le.mp below
    have right := abs_le.mp above
    linarith

instance : Scalar.IsProportional Float where
  natCast_ne_zero some := double_ne_zero (natCast_pos some)
  add_ne_zero some notNegative := double_add_ne_zero (natCast_pos some) notNegative
  zero_div some counts :=
    double_zero_div some (le_trans ((counts_double_iff _).mp counts).le (by norm_num))
  div_self some counts :=
    double_div_self some (le_trans ((counts_double_iff _).mp counts).le (by norm_num))
  div_mono ordered atMost some bounded := quotient_le ordered atMost some bounded
  div_lt_div less atMost counts := quotient_lt less atMost ((counts_double_iff _).mp counts)

instance : Scalar.IsCounting Float where
  div_self := double_div_self

end Counts

end MotifVote
