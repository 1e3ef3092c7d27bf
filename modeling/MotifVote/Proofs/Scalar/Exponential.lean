import MotifVote.Proofs.Scalar.Difference

/-!
# Sums, quotients and exponentials of doubles

Sums and quotients of doubles are rounded, may be infinite or undefined, and have the laws of
rounded results. A quotient may also be too small for a mantissa with all of its bits, but then it
is far from one.

The exponential function of doubles belongs to the machine the program runs on. Three laws of it are
enough: it is defined exactly on numbers, it is never negative, and between zero and one it is
finite and positive.
-/

namespace MotifVote

open Float.Model (Format UnpackedFloat totalExponent)
open Float.Model.UnpackedFloat (Accuracy ExtendedMantissa Sign accuracyOfFraction
  roundWithAccuracy shiftToExponent shiftToTargetExponent unpack)
open Scalar (IsNonneg IsNumber IsProbability)

section Sums

variable {m : Nat} {e : Int} {x y : Float}

theorem add_eq_sub_neg (x y : UnpackedFloat) :
    UnpackedFloat.add .binary64 x y = UnpackedFloat.sub .binary64 x y.neg := by
  rcases x with (_ | _) | _ | (_ | _) | ⟨sign, m, e, some⟩ <;>
    rcases y with (_ | _) | _ | (_ | _) | ⟨other, n, f, more⟩ <;> try rfl
  · cases other <;> rfl
  · cases other <;> rfl
  · have opposite : ∀ k, (-other).apply k = -other.apply k := by
      intro k
      cases other with
      | positive => rfl
      | negative => exact (neg_neg _).symm
    simp only [UnpackedFloat.add, UnpackedFloat.sub, UnpackedFloat.neg, opposite, sub_neg_eq_add]

/-- The sign of a double is stored apart from the rest. -/
theorem unpack_neg (x : Float) : (-x).toModel.unpack = x.toModel.unpack.neg := by
  have shape : (-x).toModel.unpack = (Float.Model.pack x.toModel.unpack.neg).unpack := rfl
  rw [shape]
  rcases read : x.toModel.unpack with (_ | _) | _ | (_ | _) | ⟨sign, m, e, some⟩ <;> try rfl
  rcases roundsTo_unpack read with ⟨rounds, most⟩
  rcases rounds.unpack_pack some with ⟨stored, kept, above, below⟩
  cases kept with
  | infinite more => omega
  | finite =>
      cases sign with
      | positive => exact below
      | negative => exact above

theorem double_add_eq_sub_neg (x y : Float) : x + y = x - -y := by
  apply double_eq_of_unpack_eq
  rw [unpack_add, unpack_sub, unpack_neg, add_eq_sub_neg]

theorem neg_isFinite (finite : Scalar.isFinite x = true) : Scalar.isFinite (-x) = true := by
  rw [double_isFinite_eq, unpack_neg]
  rcases isFinite_cases finite with ⟨sign, read⟩ | ⟨sign, m, e, some, read⟩
  · rw [read]
    rfl
  · rw [read]
    rfl

theorem exactValue_neg (x : UnpackedFloat) : exactValue x.neg = -exactValue x := by
  rcases x with _ | _ | _ | ⟨_ | _, m, e, some⟩ <;>
    simp [UnpackedFloat.neg, exactValue]

/-- The sum of finite doubles is the exact one, rounded. -/
theorem nearest_add (xFinite : Scalar.isFinite x = true) (yFinite : Scalar.isFinite y = true) :
    Nearest (exactValue x.toModel.unpack + exactValue y.toModel.unpack) (x + y).toModel.unpack := by
  have difference := nearest_sub xFinite (neg_isFinite yFinite)
  rwa [unpack_neg, exactValue_neg, sub_neg_eq_add, ← double_add_eq_sub_neg] at difference

/-- A number that is not negative may still be minus zero. -/
theorem isNonneg_cases (nonneg : IsNonneg x) :
    (Scalar.isFinite x = true ∧ 0 ≤ exactValue x.toModel.unpack) ∨
      x.toModel.unpack = .infinity .positive := by
  rcases isFinite_or_infinite nonneg.isNumber with finite | ⟨_ | _, infinite⟩
  · exact Or.inl ⟨finite, exactValue_le double_isFinite_zero finite nonneg.nonneg⟩
  · have places := (double_le_iff.mp nonneg.nonneg).2
    rw [infinite] at places
    exact absurd places (by decide +kernel)
  · exact Or.inr infinite

/-- Two numbers that are not negative have a sum, and it is infinite if one of them is. -/
theorem isNonneg_add_cases (left : IsNonneg x) (right : IsNonneg y) :
    (Scalar.isFinite x = true ∧ Scalar.isFinite y = true ∧ 0 ≤ exactValue y.toModel.unpack) ∨
      (x + y).toModel.unpack = .infinity .positive := by
  rcases isNonneg_cases left with ⟨xFinite, -⟩ | xInfinite
  · rcases isNonneg_cases right with ⟨yFinite, above⟩ | yInfinite
    · exact Or.inl ⟨xFinite, yFinite, above⟩
    · right
      have sum : UnpackedFloat.add .binary64 x.toModel.unpack (.infinity .positive) =
          .infinity .positive := by
        rcases isFinite_cases xFinite with ⟨sign, read⟩ | ⟨sign, m, e, some, read⟩
        · rw [read]
          rfl
        · rw [read]
          rfl
      rw [unpack_add, yInfinite, sum]
      rfl
  · right
    rcases isNonneg_cases right with ⟨yFinite, -⟩ | yInfinite
    · rw [double_add_eq_sub_neg]
      exact unpack_sub_of_infinite xInfinite (neg_isFinite yFinite)
    · rw [unpack_add, xInfinite, yInfinite]
      rfl

theorem Nearest.ne {v : ℚ} {x : UnpackedFloat} (nearest : Nearest v x) : x ≠ .notANumber := by
  cases nearest with
  | zero sign => simp
  | above rounds stored => exact ((isPositive_iff _).mp stored.isPositive).1
  | below rounds stored => exact neg_ne ((isPositive_iff _).mp stored.isPositive).1

theorem double_isNumber_add (left : IsNonneg x) (right : IsNonneg y) : IsNumber (x + y) := by
  rw [double_isNumber_iff]
  rcases isNonneg_add_cases left right with ⟨xFinite, yFinite, -⟩ | infinite
  · exact (nearest_add xFinite yFinite).ne
  · simp [infinite]

theorem double_le_add_right (left : IsNonneg x) (right : IsNonneg y) : x ≤ x + y := by
  have number := double_isNumber_add left right
  refine double_le_iff.mpr ⟨⟨left.isNumber, number⟩, ?_⟩
  rcases isNonneg_add_cases left right with ⟨xFinite, yFinite, above⟩ | infinite
  · refine (nearest_unpack xFinite).mono (nearest_add xFinite yFinite) ?_
    exact le_add_of_nonneg_right above
  · rw [infinite]
    exact (doublePlace_le_infinity (double_isNumber_iff.mp left.isNumber)).2

end Sums

section Quotients

variable {m n : Nat} {e f : Int} {accuracy : Accuracy}

theorem targetExponent_double (m : Nat) (e : Int) :
    Format.binary64.targetExponent (totalExponent m e) = max (m.log2 + 1 + e - 53) (-1074) := by
  rfl

theorem log2_le (fits : m < 2 ^ 53) : m.log2 ≤ 52 := by
  rcases Nat.eq_zero_or_pos m with rfl | some
  · decide
  · exact Nat.lt_succ_iff.mp ((Nat.log2_lt some.ne').mpr fits)

/-- What is too small for all bits of a mantissa is rounded to something small. -/
theorem round_small (fits : m < 2 ^ 53) (low : e ≤ -1074) :
    roundWithAccuracy .binary64 .positive m e accuracy = .zero .positive ∨
      ∃ mantissa exponent positive, roundWithAccuracy .binary64 .positive m e accuracy =
        .finite .positive mantissa exponent positive ∧ mantissa < 2 ^ 53 ∧ -1074 ≤ exponent ∧
        exponent ≤ -1073 ∧ (2 ^ 52 ≤ mantissa ∨ exponent = -1074) := by
  obtain ⟨amount, same⟩ : ∃ amount : Nat, amount = (-1074 - e).toNat := ⟨_, rfl⟩
  have bits := log2_le fits
  have target : Format.binary64.targetExponent (totalExponent m e) = -1074 := by
    rw [targetExponent_double]
    omega
  have shifted : shiftToTargetExponent .binary64 m e accuracy =
      (ExtendedMantissa.ofMantissaAndAccuracy m accuracy >>> amount, -1074) := by
    simp only [shiftToTargetExponent, shiftToExponent, target, ← same, Prod.mk.injEq, true_and]
    omega
  have atMost : (ExtendedMantissa.ofMantissaAndAccuracy m accuracy >>> amount).roundedMantissa ≤
      2 ^ 53 := by
    refine (roundedMantissa_le _).trans ?_
    rw [mantissa_shiftRight, mantissa_ofMantissaAndAccuracy]
    exact lt_of_le_of_lt (Nat.div_le_self m _) fits
  rcases roundWithAccuracy_of_shift shifted atMost le_rfl with
    ⟨-, zero⟩ | ⟨positive, less, rounded⟩ | ⟨positive, -, rounded⟩
  · exact Or.inl zero
  · exact Or.inr ⟨_, _, positive, rounded, less, le_rfl, by norm_num, Or.inr rfl⟩
  · exact Or.inr ⟨_, _, positive, rounded, by norm_num, by norm_num, by norm_num, Or.inl le_rfl⟩

/-- The mantissa of a quotient has as many bits as the least exponent leaves. -/
theorem exists_div_eq (some : 0 < m) (divisor : 0 < n) : ∃ (amount : Nat) (unit : Int),
    unit = min (e - f) (max (m.log2 + e - (n.log2 + f) - 53) (-1074)) ∧ amount = e - f - unit ∧
      UnpackedFloat.div .binary64 (.finite .positive m e some) (.finite .positive n f divisor) =
        roundWithAccuracy .binary64 .positive (m * 2 ^ amount / n) unit
          (accuracyOfFraction (m * 2 ^ amount % n) n) := by
  obtain ⟨unit, same⟩ : ∃ unit : Int,
      unit = min (e - f) (Format.binary64.targetExponent (totalExponent m e - totalExponent n f)) :=
    ⟨_, rfl⟩
  have exponents : totalExponent m e - totalExponent n f = m.log2 + e - (n.log2 + f) := by
    simp only [totalExponent]
    omega
  have sign : Sign.positive / Sign.positive = Sign.positive := rfl
  refine ⟨(e - f - unit).toNat, unit, ?_, ?_, ?_⟩
  · rw [same, exponents]
    rfl
  · omega
  · simp only [UnpackedFloat.div, UnpackedFloat.divCore, ← same, Nat.shiftLeft_eq, sign]

/-- Where a number stands that is neither negative nor larger than one. -/
theorem double_isProbability_iff {x : Float} : IsProbability x ↔
    x.toModel.unpack ≠ .notANumber ∧
      doublePlace (.zero .positive) ≤ doublePlace x.toModel.unpack ∧
      doublePlace x.toModel.unpack ≤ toLex (1, toLex (-52, 2 ^ 52)) := by
  have one : doublePlace (1 : Float).toModel.unpack = toLex (1, toLex (-52, 2 ^ 52)) := by rfl
  rw [← double_isNumber_iff, ← double_zero, ← one]
  constructor
  · rintro ⟨number, nonneg, le_one⟩
    exact ⟨number, (double_le_iff.mp nonneg).2, (double_le_iff.mp le_one).2⟩
  · rintro ⟨number, above, below⟩
    exact ⟨number, double_le_iff.mpr ⟨⟨double_isNumber_zero, number⟩, above⟩,
      double_le_iff.mpr ⟨⟨number, Scalar.isNumber_zero_one.2⟩, below⟩⟩

/-- A quotient of at most one with all of its bits is rounded to at most one. -/
theorem div_le_one_of_large (some : 0 < m) (divisor : 0 < n) (fits : m < 2 ^ 53)
    (large : -1021 ≤ m.log2 + e - (n.log2 + f)) (atMost : (m : ℚ) * 2 ^ e ≤ n * 2 ^ f) :
    ∃ mantissa exponent positive,
      (Float.Model.pack (UnpackedFloat.div .binary64 (.finite .positive m e some)
        (.finite .positive n f divisor))).unpack = .finite .positive mantissa exponent positive ∧
      toLex (exponent, (mantissa : Int)) ≤ toLex (-52, 2 ^ 52) := by
  rcases exists_div_eq (e := e) (f := f) some divisor with ⟨amount, unit, least, same, divided⟩
  have bits := log2_le fits
  have long : 2 ^ 52 ≤ m * 2 ^ amount / n := by
    have amounts : 52 + (n.log2 + 1) = m.log2 + amount := by omega
    rw [Nat.le_div_iff_mul_le divisor]
    calc 2 ^ 52 * n ≤ 2 ^ 52 * 2 ^ (n.log2 + 1) := Nat.mul_le_mul_left _ Nat.lt_log2_self.le
      _ = 2 ^ m.log2 * 2 ^ amount := by rw [← pow_add, ← pow_add, amounts]
      _ ≤ m * 2 ^ amount := Nat.mul_le_mul_right _ (Nat.log2_self_le some.ne')
  rcases (stands_quotient (m * 2 ^ amount) divisor).exists_round_eq long (by omega : -1074 ≤ unit)
    .positive with ⟨mantissa, exponent, positive, rounded, full, short, above, -, rounds⟩
  have value : ((m * 2 ^ amount : Nat) : ℚ) / n * 2 ^ unit = m * 2 ^ e / (n * 2 ^ f) := by
    have exponents : e = amount + unit + f := by omega
    rw [exponents, zpow_add₀ two_ne_zero, zpow_add₀ two_ne_zero, zpow_natCast]
    push_cast
    field_simp
  have le_one : (mantissa : ℚ) * 2 ^ exponent ≤ 1 := by
    rw [value] at rounds
    refine rounds.mono rounds_one (div_le_one_of_le₀ atMost ?_)
    positivity
  have one : (1 : ℚ) = (2 ^ 52 : Nat) * 2 ^ (-52 : ℤ) := by norm_num
  rw [one] at le_one
  have exponents := exponent_le full (by norm_num) le_one
  refine ⟨mantissa, exponent, positive, ?_, ?_⟩
  · rw [divided, rounded]
    exact unpack_pack_normal full short above (by omega) positive
  · rw [Prod.Lex.toLex_le_toLex]
    rcases lt_or_eq_of_le exponents with less | rfl
    · exact Or.inl less
    · have mantissas : (mantissa : Int) ≤ 2 ^ 52 := by
        exact_mod_cast le_of_mul_le_mul_right le_one (by positivity)
      exact Or.inr ⟨rfl, mantissas⟩

/-- A quotient that does not have all bits of a mantissa is rounded to something small. -/
theorem div_le_one_of_small (some : 0 < m) (divisor : 0 < n) (fits : m < 2 ^ 53)
    (small : m.log2 + e - (n.log2 + f) < -1021) :
    (Float.Model.pack (UnpackedFloat.div .binary64 (.finite .positive m e some)
        (.finite .positive n f divisor))).unpack = .zero .positive ∨
      ∃ mantissa exponent positive,
        (Float.Model.pack (UnpackedFloat.div .binary64 (.finite .positive m e some)
          (.finite .positive n f divisor))).unpack = .finite .positive mantissa exponent positive ∧
        exponent < -52 := by
  rcases exists_div_eq (e := e) (f := f) some divisor with ⟨amount, unit, least, same, divided⟩
  have bits := log2_le fits
  have short : m * 2 ^ amount / n < 2 ^ 53 := by
    have amounts : m.log2 + 1 + amount ≤ 53 + n.log2 := by omega
    rw [Nat.div_lt_iff_lt_mul divisor]
    calc m * 2 ^ amount < 2 ^ (m.log2 + 1) * 2 ^ amount :=
          Nat.mul_lt_mul_of_pos_right Nat.lt_log2_self (Nat.two_pow_pos _)
      _ = 2 ^ (m.log2 + 1 + amount) := (pow_add _ _ _).symm
      _ ≤ 2 ^ (53 + n.log2) := Nat.pow_le_pow_right two_pos amounts
      _ = 2 ^ 53 * 2 ^ n.log2 := pow_add _ _ _
      _ ≤ 2 ^ 53 * n := Nat.mul_le_mul_left _ (Nat.log2_self_le divisor.ne')
  rw [divided]
  rcases round_small short (by omega : unit ≤ -1074) with
    zero | ⟨mantissa, exponent, positive, rounded, fewBits, above, below, full | last⟩
  · left
    rw [zero]
    rfl
  · refine Or.inr ⟨mantissa, exponent, positive, ?_, by omega⟩
    rw [rounded]
    exact unpack_pack_normal full fewBits above (by omega) positive
  · refine Or.inr ⟨mantissa, exponent, positive, ?_, by omega⟩
    rw [rounded, last]
    rcases Nat.lt_or_ge mantissa (2 ^ 52) with few | full
    · exact unpack_pack_subnormal few positive
    · exact unpack_pack_normal full fewBits le_rfl (by norm_num) positive

variable {x y : Float}

theorem double_isProbability_of_zero {sign : Sign} (zero : x.toModel.unpack = .zero sign) :
    IsProbability x := by
  rw [double_isProbability_iff, zero]
  exact ⟨by simp, le_refl _, Prod.Lex.toLex_le_toLex.mpr (Or.inl one_pos)⟩

theorem double_isProbability_of_finite {positive : 0 < m}
    (finite : x.toModel.unpack = .finite .positive m e positive)
    (le_one : toLex (e, (m : Int)) ≤ toLex (-52, 2 ^ 52)) : IsProbability x := by
  rw [double_isProbability_iff, finite]
  exact ⟨by simp, Prod.Lex.toLex_le_toLex.mpr (Or.inl one_pos),
    Prod.Lex.toLex_le_toLex.mpr (Or.inr ⟨rfl, le_one⟩)⟩

/-- A part of something positive is in a proportion to it that is a number from zero to one, also
where the whole is infinite. -/
theorem double_isProbability_part (part : IsNonneg x) (finite : Scalar.isFinite x = true)
    (atMost : x ≤ y) (positive : 0 < y) : IsProbability (x / y) := by
  have divided := unpack_div x y
  have stored : ∀ sign, (Float.Model.pack (.zero sign)).unpack = .zero sign := by
    intro sign
    cases sign <;> rfl
  rw [double_pos_iff] at positive
  rcases isFinite_cases finite with ⟨sign, left⟩ | ⟨sign, m, e, some, left⟩
  · have zero : UnpackedFloat.div .binary64 (.zero sign) y.toModel.unpack =
        .zero (sign / .positive) := by
      rcases positive.cases with right | ⟨n, f, divisor, right⟩
      · rw [right]
        rfl
      · rw [right]
        rfl
    rw [left, zero, stored] at divided
    exact double_isProbability_of_zero divided
  · cases sign with
    | negative =>
        have places := (double_le_iff.mp part.nonneg).2
        rw [left] at places
        exact absurd places (not_le.mpr (doublePlace_neg_lt (x := .finite .positive m e some)
          trivial .positive))
    | positive =>
        rcases positive.cases with right | ⟨n, f, divisor, right⟩
        · have zero : UnpackedFloat.div .binary64 (.finite .positive m e some)
              (.infinity .positive) = .zero .positive := rfl
          rw [left, right, zero, stored] at divided
          exact double_isProbability_of_zero divided
        · have fits := (unpack_bounds some left).1
          have otherFinite : Scalar.isFinite y = true := by
            rw [double_isFinite_eq, right]
            rfl
          have values := exactValue_le finite otherFinite atMost
          rw [left, right] at values divided
          rcases lt_or_ge (m.log2 + e - (n.log2 + f)) (-1021) with small | large
          · rcases div_le_one_of_small some divisor fits small with
              zero | ⟨mantissa, exponent, above, read, low⟩
            · exact double_isProbability_of_zero (divided.trans zero)
            · exact double_isProbability_of_finite (divided.trans read)
                (Prod.Lex.toLex_le_toLex.mpr (Or.inl low))
          · rcases div_le_one_of_large some divisor fits large values with
              ⟨mantissa, exponent, above, read, le_one⟩
            exact double_isProbability_of_finite (divided.trans read) le_one

end Quotients

section Exponentials

/-- What is assumed of an exponential function of doubles. -/
structure IsExponential (exp : Float → Float) : Prop where
  isNumber_iff : ∀ x, IsNumber (exp x) ↔ IsNumber x
  nonneg : ∀ x, IsNumber x → 0 ≤ exp x
  unit : ∀ x, IsProbability x → Scalar.isFinite (exp x) = true ∧ 0 < exp x

/-- Doubles with any exponential function and any powers. -/
@[reducible]
def doublesWith (exp : Float → Float) (pow : Float → Float → Float) : Exponential Float where
  exp := exp
  pow := pow

/-- The doubles of the program are those with the functions of its machine. -/
example : doublesWith Float.exp Float.pow = inferInstanceAs (Exponential Float) := rfl

variable {x y : Float}

theorem double_beq_iff (left : IsNumber x) (right : IsNumber y) :
    (x == y) = true ↔ x ≤ y ∧ y ≤ x := by
  have shape : (x == y) = x.toModel.unpack.beq y.toModel.unpack := rfl
  have numbers := And.intro (double_isNumber_iff.mp left) (double_isNumber_iff.mp right)
  rw [shape, UnpackedFloat.beq, unpacked_compare numbers.1 numbers.2, beq_iff_eq, Option.some_inj,
    compare_eq_iff_eq, double_le_iff, double_le_iff, and_iff_right (And.intro left right),
    and_iff_right (And.intro right left)]
  exact le_antisymm_iff

theorem double_isFinite_of_le (nonneg : IsNonneg x) (atMost : x ≤ y)
    (finite : Scalar.isFinite y = true) : Scalar.isFinite x = true := by
  rcases isNonneg_cases nonneg with ⟨xFinite, -⟩ | infinite
  · exact xFinite
  · rcases double_le_iff.mp atMost with ⟨⟨-, number⟩, places⟩
    rw [infinite] at places
    have most := (doublePlace_le_infinity (double_isNumber_iff.mp number)).2
    have same := eq_infinity_of_doublePlace_eq (le_antisymm most places)
    rw [double_isFinite_eq, same] at finite
    cases finite

theorem double_isFinite_of_div (number : IsNumber (x / y)) :
    Scalar.isFinite x = true ∨ Scalar.isFinite y = true := by
  rcases isNumber_of_isNumber_op (unpack_div x y) div_notANumber number with
    ⟨defined, left, right⟩
  rcases isFinite_or_infinite left with finite | ⟨sign, xInfinite⟩
  · exact Or.inl finite
  · rcases isFinite_or_infinite right with finite | ⟨other, yInfinite⟩
    · exact Or.inr finite
    · rw [xInfinite, yInfinite] at defined
      exact absurd rfl defined

theorem exists_eq_zero {x : UnpackedFloat} {other : Sign}
    (same : doublePlace x = doublePlace (.zero other)) : ∃ sign, x = .zero sign := by
  rcases unpacked_eq_or_zero same with equal | ⟨sign, -, zero, -⟩
  · exact ⟨other, equal⟩
  · exact ⟨sign, zero⟩

/-- Zero is in no proportion to zero. -/
theorem double_pos_of_div (left : IsNonneg x) (right : IsNonneg y)
    (number : IsNumber (x / (x + y))) : 0 < x + y := by
  have sum := double_isNumber_add left right
  have least : doublePlace (.zero .positive) ≤ doublePlace x.toModel.unpack :=
    (double_le_iff.mp left.nonneg).2
  have most := (double_le_iff.mp (double_le_add_right left right)).2
  rcases isNumber_of_isNumber_op (unpack_div x (x + y)) div_notANumber number with ⟨defined, -⟩
  refine double_lt_iff.mpr ⟨⟨double_isNumber_zero, sum⟩, ?_⟩
  rw [double_zero]
  refine lt_of_le_of_ne (least.trans most) ?_
  intro same
  rcases exists_eq_zero same.symm with ⟨sign, whole⟩
  rcases exists_eq_zero (le_antisymm (most.trans_eq same.symm) least) with ⟨other, part⟩
  rw [part, whole] at defined
  exact defined rfl

/-- Doubles have the laws of rounded results, whatever their exponential function is. -/
theorem isRounded_doublesWith {exp : Float → Float} (laws : IsExponential exp)
    (pow : Float → Float → Float) :
    letI := doublesWith exp pow
    Scalar.IsRounded Float := by
  let _ := doublesWith exp pow
  exact {
    isNumber_one := Scalar.isNumber_zero_one.2
    zero_lt_one := Scalar.IsComparable.zero_lt_one
    beq_iff := double_beq_iff
    isFinite_of_le := double_isFinite_of_le
    isNumber_of_add := fun {x y} number =>
      (isNumber_of_isNumber_op (unpack_add x y) add_notANumber number).2
    isNumber_add := double_isNumber_add
    le_add_right := double_le_add_right
    isNumber_of_div := fun {x y} number =>
      (isNumber_of_isNumber_op (unpack_div x y) div_notANumber number).2
    isFinite_of_div := double_isFinite_of_div
    isProbability_div := fun part finite _ atMost positive =>
      double_isProbability_part part finite atMost positive
    isNumber_exp_iff := laws.isNumber_iff _
    exp_nonneg := laws.nonneg _
    exp_unit := laws.unit _
    exp_add_exp_pos := fun {x y} number => by
      rcases (isNumber_of_isNumber_op (unpack_div _ _) div_notANumber number).2 with ⟨left, sum⟩
      have right := (isNumber_of_isNumber_op (unpack_add _ _) add_notANumber sum).2.2
      have first := laws.nonneg x ((laws.isNumber_iff x).mp left)
      have second := laws.nonneg y ((laws.isNumber_iff y).mp right)
      exact double_pos_of_div ⟨left, first⟩ ⟨right, second⟩ number }

end Exponentials

end MotifVote
