import MotifVote.Proofs.Scalar.Complement

/-!
# Differences of doubles

A difference of doubles is rounded once, from the exact difference. Rounding keeps the order of all
numbers, those included that are too small to have all bits of a mantissa and those that become
infinite. So taking a number off the larger of two leaves no less than taking it off the smaller,
and taking off a positive number leaves no more than there was, even where it is too small to leave
less.
-/

namespace MotifVote

open Float.Model (Format UnpackedFloat totalExponent)
open Float.Model.UnpackedFloat (Accuracy Sign roundWithAccuracy unpack)

section Magnitude

/-- A positive number is rounded to a mantissa and an exponent. All bits of the mantissa are in use,
or else the exponent is the least one and the number is kept as it is. -/
inductive RoundsTo (v : ℚ) : Nat → Int → Prop
  | full {m : Nat} {e : Int} (full : 2 ^ 52 ≤ m) (fits : m < 2 ^ 53) (least : -1074 ≤ e)
      (large : 2 ^ 52 * 2 ^ (-1074 : ℤ) ≤ v) (rounds : Rounds v (m * 2 ^ e)) : RoundsTo v m e
  | short {m : Nat} (positive : 0 < m) (short : m < 2 ^ 52) (same : v = m * 2 ^ (-1074 : ℤ)) :
      RoundsTo v m (-1074)

variable {v w : ℚ} {m n : Nat} {e f : Int}

theorem RoundsTo.value_pos (rounds : RoundsTo v m e) : 0 < v := by
  cases rounds with
  | full _ _ _ large _ => exact lt_of_lt_of_le (by positivity) large
  | short positive _ same =>
      rw [same]
      positivity

/-- Numbers that have a mantissa and an exponent are kept. -/
theorem roundsTo_self (full : 2 ^ 52 ≤ m) (fits : m < 2 ^ 53) (least : -1074 ≤ e) :
    RoundsTo (m * 2 ^ e) m e := by
  refine .full full fits least ?_ (rounds_self full fits e)
  gcongr
  · exact_mod_cast full
  · exact one_le_two

/-- Rounding keeps the order: first the exponents decide, and then the mantissas. -/
theorem RoundsTo.mono (left : RoundsTo v m e) (right : RoundsTo w n f) (ordered : v ≤ w) :
    toLex (e, (m : Int)) ≤ toLex (f, (n : Int)) := by
  have unit : (0 : ℚ) < 2 ^ (-1074 : ℤ) := by positivity
  rw [Prod.Lex.toLex_le_toLex]
  cases left with
  | full full fits least large rounds =>
      cases right with
      | full otherFull otherFits otherLeast otherLarge otherRounds =>
          have values := rounds.mono otherRounds ordered
          rcases lt_or_eq_of_le (exponent_le full otherFits values) with less | rfl
          · exact Or.inl less
          · refine Or.inr ⟨rfl, Int.ofNat_le.mpr ?_⟩
            exact_mod_cast le_of_mul_le_mul_right values (by positivity)
      | short _ short same =>
          exfalso
          have small : w < 2 ^ 52 * 2 ^ (-1074 : ℤ) := by
            rw [same]
            gcongr
            exact_mod_cast short
          exact absurd (le_trans large ordered) (not_le.mpr small)
  | short _ short same =>
      cases right with
      | full otherFull _ otherLeast _ _ =>
          rcases lt_or_eq_of_le otherLeast with less | rfl
          · exact Or.inl less
          · exact Or.inr ⟨rfl, Int.ofNat_le.mpr (by omega)⟩
      | short _ _ otherSame =>
          refine Or.inr ⟨rfl, Int.ofNat_le.mpr ?_⟩
          rw [same, otherSame] at ordered
          exact_mod_cast le_of_mul_le_mul_right ordered unit

/-- A positive double that a mantissa and an exponent are stored as. -/
inductive StoredAs (m : Nat) (e : Int) : UnpackedFloat → Prop
  | finite (most : e ≤ 971) (positive : 0 < m) : StoredAs m e (.finite .positive m e positive)
  | infinite (more : 971 < e) : StoredAs m e (.infinity .positive)

variable {x y : UnpackedFloat}

theorem StoredAs.isPositive (stored : StoredAs m e x) : IsPositive x := by
  cases stored <;> trivial

theorem StoredAs.mono (left : StoredAs m e x) (right : StoredAs n f y)
    (ordered : toLex (e, (m : Int)) ≤ toLex (f, (n : Int))) : doublePlace x ≤ doublePlace y := by
  have exponents : e ≤ f := by
    rw [Prod.Lex.toLex_le_toLex] at ordered
    rcases ordered with less | ⟨same, -⟩
    · exact less.le
    · exact same.le
  cases left with
  | finite most positive =>
      cases right with
      | finite otherMost otherPositive =>
          exact Prod.Lex.toLex_le_toLex.mpr (Or.inr ⟨rfl, ordered⟩)
      | infinite more => exact Prod.Lex.toLex_le_toLex.mpr (Or.inl one_lt_two)
  | infinite more =>
      cases right with
      | finite otherMost otherPositive => omega
      | infinite more => exact le_refl _

/-- What is rounded is stored with its sign. -/
theorem RoundsTo.unpack_pack (rounds : RoundsTo v m e) (positive : 0 < m) :
    ∃ x, StoredAs m e x ∧
      (Float.Model.pack (.finite .positive m e positive)).unpack = x ∧
      (Float.Model.pack (.finite .negative m e positive)).unpack = x.neg := by
  rcases lt_or_ge 971 e with more | most
  · exact ⟨_, .infinite more, unpack_pack_overflow .positive more positive,
      unpack_pack_overflow .negative more positive⟩
  · refine ⟨_, .finite most positive, ?_⟩
    cases rounds with
    | full full fits least =>
        exact ⟨unpack_pack_normal full fits least most positive,
          unpack_pack_normal full fits least most positive⟩
    | short _ short =>
        exact ⟨unpack_pack_subnormal short positive, unpack_pack_subnormal short positive⟩

end Magnitude

section Nearest

/-- A number is rounded to a double. -/
inductive Nearest : ℚ → UnpackedFloat → Prop
  | zero (sign : Sign) : Nearest 0 (.zero sign)
  | above {v : ℚ} {m : Nat} {e : Int} {x : UnpackedFloat} (rounds : RoundsTo v m e)
      (stored : StoredAs m e x) : Nearest v x
  | below {v : ℚ} {m : Nat} {e : Int} {x : UnpackedFloat} (rounds : RoundsTo v m e)
      (stored : StoredAs m e x) : Nearest (-v) x.neg

variable {v w : ℚ} {x y : UnpackedFloat}

/-- The negatives of positive doubles are in the opposite order. -/
theorem doublePlace_neg_le (left : IsPositive x) (right : IsPositive y)
    (ordered : doublePlace x ≤ doublePlace y) : doublePlace y.neg ≤ doublePlace x.neg := by
  rcases left.cases with rfl | ⟨m, e, some, rfl⟩ <;>
    rcases right.cases with rfl | ⟨n, f, other, rfl⟩ <;>
    simp [doublePlace, UnpackedFloat.neg, Prod.Lex.toLex_le_toLex] at ordered ⊢
  exact ordered.imp_right (And.imp_left Eq.symm)

theorem doublePlace_neg_lt (positive : IsPositive x) (sign : Sign) :
    doublePlace x.neg < doublePlace (.zero sign) := by
  rcases positive.cases with rfl | ⟨m, e, some, rfl⟩
  · exact Prod.Lex.toLex_lt_toLex.mpr (Or.inl (by decide))
  · exact Prod.Lex.toLex_lt_toLex.mpr (Or.inl neg_one_lt_zero)

theorem doublePlace_lt (positive : IsPositive x) (sign : Sign) :
    doublePlace (.zero sign) < doublePlace x :=
  ((isPositive_iff x).mp positive).2

/-- Rounding keeps the order. -/
theorem Nearest.mono (left : Nearest v x) (right : Nearest w y) (ordered : v ≤ w) :
    doublePlace x ≤ doublePlace y := by
  cases left with
  | zero sign =>
      cases right with
      | zero other => exact le_refl _
      | above rounds stored => exact (doublePlace_lt stored.isPositive sign).le
      | below rounds stored =>
          have positive := rounds.value_pos
          linarith
  | above rounds stored =>
      have positive := rounds.value_pos
      cases right with
      | zero other => linarith
      | above otherRounds otherStored =>
          exact stored.mono otherStored (rounds.mono otherRounds ordered)
      | below otherRounds otherStored =>
          have otherPositive := otherRounds.value_pos
          linarith
  | below rounds stored =>
      cases right with
      | zero other => exact (doublePlace_neg_lt stored.isPositive other).le
      | above otherRounds otherStored =>
          exact ((doublePlace_neg_lt stored.isPositive .positive).trans
            (doublePlace_lt otherStored.isPositive .positive)).le
      | below otherRounds otherStored =>
          exact doublePlace_neg_le otherStored.isPositive stored.isPositive
            (otherStored.mono stored (otherRounds.mono rounds (neg_le_neg_iff.mp ordered)))

theorem RoundsTo.nearest {m : Nat} {e : Int} (rounds : RoundsTo v m e) (positive : 0 < m) :
    Nearest v (Float.Model.pack (.finite .positive m e positive)).unpack ∧
      Nearest (-v) (Float.Model.pack (.finite .negative m e positive)).unpack := by
  rcases rounds.unpack_pack positive with ⟨x, stored, above, below⟩
  rw [above, below]
  exact ⟨.above rounds stored, .below rounds stored⟩

end Nearest

section Results

variable {m : Nat} {e : Int}

/-- A result that is not rounded yet has enough bits, or the least exponent. -/
theorem exists_roundWithAccuracy_eq (some : 0 < m) (enough : 2 ^ 52 ≤ m ∨ e = -1074)
    (least : -1074 ≤ e) (sign : Sign) :
    ∃ mantissa exponent positive, roundWithAccuracy .binary64 sign m e .exact =
      .finite sign mantissa exponent positive ∧ RoundsTo (m * 2 ^ e) mantissa exponent := by
  rcases Nat.lt_or_ge m (2 ^ 52) with short | full
  · obtain rfl : e = -1074 := enough.resolve_left (not_le.mpr short)
    have bits : m.log2 - 52 = 0 := by
      have few : m.log2 < 52 := (Nat.log2_lt some.ne').mpr short
      omega
    have kept : (shortened m .exact).roundedMantissa = m := by
      rw [shortened, bits]
      rfl
    rcases roundWithAccuracy_cases sign .exact least some with
      ⟨positive, -, rounded⟩ | ⟨-, carry, -⟩
    · refine ⟨_, _, positive, rounded, ?_⟩
      rw [kept, bits, Nat.cast_zero, add_zero]
      exact .short some short rfl
    · omega
  · rcases (stands_exact m).exists_round_eq full least sign with
      ⟨mantissa, exponent, positive, rounded, long, fits, above, -, rounds⟩
    refine ⟨mantissa, exponent, positive, rounded, .full long fits above ?_ rounds⟩
    gcongr
    · exact_mod_cast full
    · exact one_le_two

/-- A positive integer with an exponent is rounded. -/
theorem exists_round_eq (some : 0 < m) (least : -1074 ≤ e) (sign : Sign) :
    ∃ mantissa exponent positive, UnpackedFloat.round .binary64 sign m e =
      .finite sign mantissa exponent positive ∧ RoundsTo (m * 2 ^ e) mantissa exponent := by
  obtain ⟨amount, same⟩ : ∃ amount : Nat,
      amount = (e - Format.binary64.targetExponent (totalExponent m e)).toNat := ⟨_, rfl⟩
  have shape : UnpackedFloat.round .binary64 sign m e =
      roundWithAccuracy .binary64 sign (m * 2 ^ amount) (e - amount) .exact := by
    rw [same, ← Nat.shiftLeft_eq]
    rfl
  have subnormal : Format.binary64.minExponent = -1074 := rfl
  have precision : Format.binary64.mantissaBits = 53 := rfl
  rw [Format.targetExponent, totalExponent, subnormal, precision] at same
  have enough : 2 ^ 52 ≤ m * 2 ^ amount ∨ e - amount = -1074 := by
    by_cases last : e - amount = -1074
    · exact Or.inr last
    · left
      have bits : 52 ≤ m.log2 + amount := by omega
      calc 2 ^ 52 ≤ 2 ^ (m.log2 + amount) := Nat.pow_le_pow_right two_pos bits
        _ = 2 ^ m.log2 * 2 ^ amount := pow_add _ _ _
        _ ≤ m * 2 ^ amount := Nat.mul_le_mul_right _ (Nat.log2_self_le some.ne')
  have value : ((m * 2 ^ amount : Nat) : ℚ) * 2 ^ (e - amount) = m * 2 ^ e := by
    rw [zpow_sub₀ two_ne_zero, zpow_natCast]
    push_cast
    field_simp
  rw [shape, ← value]
  exact exists_roundWithAccuracy_eq (Nat.mul_pos some (Nat.two_pow_pos _)) enough (by omega) sign

/-- An integer with an exponent is rounded. -/
theorem nearest_normalize (n : Int) (least : -1074 ≤ e) :
    Nearest (n * 2 ^ e)
      (Float.Model.pack (UnpackedFloat.normalize .binary64 n e .positive)).unpack := by
  rcases lt_trichotomy n 0 with negative | rfl | above
  · obtain ⟨m, rfl⟩ : ∃ m : Nat, n = -m := ⟨n.natAbs, by omega⟩
    have some : 0 < m := by omega
    have less : compare (-(m : Int)) 0 = .lt := compare_lt_iff_lt.mpr negative
    rcases exists_round_eq some least .negative with ⟨_, _, positive, rounded, rounds⟩
    have normalized : UnpackedFloat.normalize .binary64 (-(m : Int)) e .positive =
        UnpackedFloat.round .binary64 .negative m e := by
      simp only [UnpackedFloat.normalize, less, neg_neg, Int.toNat_natCast]
    rw [normalized, rounded, Int.cast_neg, Int.cast_natCast, neg_mul]
    exact (rounds.nearest positive).2
  · have equal : compare (0 : Int) 0 = .eq := rfl
    have normalized : UnpackedFloat.normalize .binary64 0 e .positive = .zero .positive := by
      simp only [UnpackedFloat.normalize, equal]
    rw [normalized, Int.cast_zero, zero_mul]
    exact .zero .positive
  · obtain ⟨m, rfl⟩ : ∃ m : Nat, n = m := ⟨n.natAbs, by omega⟩
    have some : 0 < m := by omega
    rcases exists_round_eq some least .positive with ⟨_, _, positive, rounded, rounds⟩
    rw [normalize_natCast some, rounded, Int.cast_natCast]
    exact (rounds.nearest positive).1

end Results

section Differences

/-- The number that a double is, if it is neither infinite nor undefined. -/
def exactValue : UnpackedFloat → ℚ
  | .finite .positive m e _ => m * 2 ^ e
  | .finite .negative m e _ => -(m * 2 ^ e)
  | .zero _ | .infinity _ | .notANumber => 0

variable {m : Nat} {e : Int} {x y part : Float}

/-- What is read from bits has enough bits, or the least exponent. -/
theorem roundsTo_unpack {bits : BitVec Format.binary64.numBits} {sign : Sign} {positive : 0 < m}
    (read : unpack .binary64 bits = .finite sign m e positive) :
    RoundsTo (m * 2 ^ e) m e ∧ e ≤ 971 := by
  have bias : (Format.binary64.exponentBias : Int) = 1023 := rfl
  have fraction : (Format.binary64.mantissaBitsWithoutImplicit : Int) = 52 := rfl
  rcases unpack_bounds positive read with ⟨fits, least⟩
  simp only [unpack] at read
  split at read
  · split at read <;> cases read
  next notLast =>
    split at read
    next first =>
      split at read
      · cases read
      · injection read with _ mantissa exponent
        rw [first, bias, fraction] at exponent
        obtain rfl : -1074 = e := exponent
        exact ⟨.short positive (mantissa ▸ BitVec.isLt _) rfl, by norm_num⟩
    next notFirst =>
      injection read with _ mantissa exponent
      have stored : (UnpackedFloat.unpackExponent bits).toNat < 2047 := by
        have bounded : (UnpackedFloat.unpackExponent bits).toNat < 2 ^ 11 := BitVec.isLt _
        have different : (UnpackedFloat.unpackExponent bits).toNat ≠ 2047 :=
          fun last => notLast (BitVec.eq_of_toNat_eq last)
        omega
      have full : 2 ^ 52 ≤ m := by
        rw [← mantissa, BitVec.toNat_append]
        exact Nat.left_le_or
      exact ⟨roundsTo_self full fits least, by omega⟩

theorem isFinite_cases (finite : Scalar.isFinite x = true) :
    (∃ sign, x.toModel.unpack = .zero sign) ∨
      ∃ sign m e positive, x.toModel.unpack = .finite sign m e positive := by
  rw [double_isFinite_eq] at finite
  rcases read : x.toModel.unpack with _ | _ | sign | ⟨sign, m, e, positive⟩
  · rw [read] at finite
    cases finite
  · rw [read] at finite
    cases finite
  · exact Or.inl ⟨sign, rfl⟩
  · exact Or.inr ⟨sign, m, e, positive, rfl⟩

/-- A finite double is kept by rounding. -/
theorem nearest_unpack (finite : Scalar.isFinite x = true) :
    Nearest (exactValue x.toModel.unpack) x.toModel.unpack := by
  rcases isFinite_cases finite with ⟨sign, read⟩ | ⟨sign, m, e, positive, read⟩
  · rw [read]
    exact .zero sign
  · rcases roundsTo_unpack read with ⟨rounds, most⟩
    rw [read]
    cases sign with
    | positive => exact .above rounds (.finite most positive)
    | negative => exact .below rounds (.finite most positive)

/-- A finite double is kept when it is stored once more, as it is or with the other sign. -/
theorem nearest_pack {sign : Sign} {positive : 0 < m}
    (read : x.toModel.unpack = .finite sign m e positive) :
    Nearest (exactValue x.toModel.unpack) (Float.Model.pack x.toModel.unpack).unpack ∧
      Nearest (-exactValue x.toModel.unpack) (Float.Model.pack x.toModel.unpack.neg).unpack := by
  rcases (roundsTo_unpack read).1.nearest positive with ⟨above, below⟩
  rw [read]
  cases sign with
  | positive => exact ⟨above, below⟩
  | negative =>
      rw [exactValue, neg_neg]
      exact ⟨below, above⟩

theorem cast_apply_shiftLeft (sign : Sign) (positive : 0 < m) {f : Int} (below : f ≤ e) :
    ((sign.apply (m <<< (e - f).toNat : Nat) : Int) : ℚ) * 2 ^ f =
      exactValue (.finite sign m e positive) := by
  have value : ((m <<< (e - f).toNat : Nat) : ℚ) * 2 ^ f = m * 2 ^ e := by
    have amount : (2 : ℚ) ^ (e - f).toNat * 2 ^ f = 2 ^ e := by
      rw [← zpow_natCast, ← zpow_add₀ two_ne_zero]
      congr 1
      omega
    rw [Nat.shiftLeft_eq, ← amount]
    push_cast
    ring
  cases sign with
  | positive =>
      rw [Sign.apply, Int.cast_natCast, value, exactValue]
  | negative =>
      rw [Sign.apply, Int.cast_neg, Int.cast_natCast, neg_mul, value, exactValue]

/-- The difference of finite doubles is the exact one, rounded. -/
theorem nearest_sub (xFinite : Scalar.isFinite x = true) (yFinite : Scalar.isFinite y = true) :
    Nearest (exactValue x.toModel.unpack - exactValue y.toModel.unpack) (x - y).toModel.unpack := by
  rw [unpack_sub]
  rcases isFinite_cases xFinite with ⟨sign, left⟩ | ⟨sign, m, e, some, left⟩ <;>
    rcases isFinite_cases yFinite with ⟨other, right⟩ | ⟨other, n, f, more, right⟩
  · rw [left, right, exactValue, exactValue, sub_zero]
    cases sign <;> cases other <;> exact .zero _
  · have kept := (nearest_pack right).2
    rw [right] at kept
    rw [left, right, exactValue, zero_sub]
    exact kept
  · have kept := (nearest_pack left).1
    rw [left] at kept
    rw [left, right, exactValue, sub_zero]
    exact kept
  · have xLeast := (unpack_bounds some left).2
    have yLeast := (unpack_bounds more right).2
    rw [left, right, ← cast_apply_shiftLeft sign some (min_le_left e f),
      ← cast_apply_shiftLeft other more (min_le_right e f), ← sub_mul, ← Int.cast_sub]
    exact nearest_normalize _ (le_min xLeast yLeast)

/-- Taking a finite number off an infinite one leaves all of it. -/
theorem unpack_sub_of_infinite {sign : Sign} (infinite : x.toModel.unpack = .infinity sign)
    (finite : Scalar.isFinite part = true) : (x - part).toModel.unpack = .infinity sign := by
  have kept : UnpackedFloat.sub .binary64 (.infinity sign) part.toModel.unpack =
      .infinity sign := by
    rcases isFinite_cases finite with ⟨other, read⟩ | ⟨other, n, f, more, read⟩
    · rw [read]
      rfl
    · rw [read]
      rfl
  rw [unpack_sub, infinite, kept]
  cases sign <;> rfl

theorem isFinite_or_infinite (number : Scalar.IsNumber x) :
    Scalar.isFinite x = true ∨ ∃ sign, x.toModel.unpack = .infinity sign := by
  rw [double_isNumber_iff] at number
  rw [double_isFinite_eq]
  rcases read : x.toModel.unpack with sign | _ | _ | _
  · exact Or.inr ⟨sign, rfl⟩
  · exact absurd read number
  · exact Or.inl rfl
  · exact Or.inl rfl

theorem doublePlace_le_infinity {x : UnpackedFloat} (number : x ≠ .notANumber) :
    doublePlace (.infinity .negative) ≤ doublePlace x ∧
      doublePlace x ≤ doublePlace (.infinity .positive) := by
  rcases x with (_ | _) | _ | _ | ⟨_ | _, _, _, _⟩ <;>
    first | contradiction | simp [doublePlace, Prod.Lex.toLex_le_toLex]

theorem eq_infinity_of_doublePlace_eq {x : UnpackedFloat} {sign : Sign}
    (same : doublePlace x = doublePlace (.infinity sign)) : x = .infinity sign := by
  rcases unpacked_eq_or_zero same with equal | ⟨_, _, -, zero⟩
  · exact equal
  · cases zero

/-- The order of finite doubles is the order of the numbers that they are. -/
theorem exactValue_le (xFinite : Scalar.isFinite x = true) (yFinite : Scalar.isFinite y = true)
    (ordered : x ≤ y) : exactValue x.toModel.unpack ≤ exactValue y.toModel.unpack := by
  by_contra greater
  have reversed := (nearest_unpack yFinite).mono (nearest_unpack xFinite) (not_le.mp greater).le
  have same := le_antisymm (double_le_iff.mp ordered).2 reversed
  rcases unpacked_eq_or_zero same with equal | ⟨sign, other, xZero, yZero⟩
  · rw [equal] at greater
    exact greater le_rfl
  · rw [xZero, yZero] at greater
    exact greater le_rfl

theorem exactValue_pos (finite : Scalar.isFinite x = true) (positive : 0 < x) :
    0 < exactValue x.toModel.unpack := by
  rw [double_pos_iff] at positive
  rcases isFinite_cases finite with ⟨sign, read⟩ | ⟨sign, m, e, some, read⟩
  · rw [read] at positive
    cases positive
  · rw [read] at positive ⊢
    cases sign with
    | positive => exact mul_pos (Nat.cast_pos.mpr some) (by positivity)
    | negative => cases positive

theorem double_isNumber_sub_part (number : Scalar.IsNumber x)
    (finite : Scalar.isFinite part = true) : Scalar.IsNumber (x - part) := by
  refine double_isNumber_sub number (Scalar.IsComparable.isNumber_of_isFinite finite) ?_
  intro sign _ infinite
  rcases isFinite_cases finite with ⟨other, read⟩ | ⟨other, n, f, more, read⟩
  · rw [read] at infinite
    cases infinite
  · rw [read] at infinite
    cases infinite

theorem double_sub_le (number : Scalar.IsNumber x) (finite : Scalar.isFinite part = true)
    (positive : 0 < part) : x - part ≤ x := by
  refine double_le_iff.mpr ⟨⟨double_isNumber_sub_part number finite, number⟩, ?_⟩
  rcases isFinite_or_infinite number with xFinite | ⟨sign, infinite⟩
  · refine (nearest_sub xFinite finite).mono (nearest_unpack xFinite) ?_
    exact sub_le_self _ (exactValue_pos finite positive).le
  · rw [unpack_sub_of_infinite infinite finite, infinite]

theorem double_sub_le_sub (xNumber : Scalar.IsNumber x) (yNumber : Scalar.IsNumber y)
    (finite : Scalar.isFinite part = true) (ordered : x ≤ y) : x - part ≤ y - part := by
  have xLeft := double_isNumber_sub_part xNumber finite
  have yLeft := double_isNumber_sub_part yNumber finite
  refine double_le_iff.mpr ⟨⟨xLeft, yLeft⟩, ?_⟩
  have places := (double_le_iff.mp ordered).2
  have least := doublePlace_le_infinity (double_isNumber_iff.mp xLeft)
  have most := doublePlace_le_infinity (double_isNumber_iff.mp yLeft)
  have xPlace := doublePlace_le_infinity (double_isNumber_iff.mp xNumber)
  have yPlace := doublePlace_le_infinity (double_isNumber_iff.mp yNumber)
  rcases isFinite_or_infinite xNumber with xFinite | ⟨_ | _, xInfinite⟩
  · rcases isFinite_or_infinite yNumber with yFinite | ⟨_ | _, yInfinite⟩
    · refine (nearest_sub xFinite finite).mono (nearest_sub yFinite finite) ?_
      exact sub_le_sub_right (exactValue_le xFinite yFinite ordered) _
    · rw [yInfinite] at places
      have same := eq_infinity_of_doublePlace_eq (le_antisymm places xPlace.1)
      rw [unpack_sub_of_infinite same finite, unpack_sub_of_infinite yInfinite finite]
    · rw [unpack_sub_of_infinite yInfinite finite]
      exact least.2
  · rw [unpack_sub_of_infinite xInfinite finite]
    exact most.1
  · rw [xInfinite] at places
    have same := eq_infinity_of_doublePlace_eq (le_antisymm yPlace.2 places)
    rw [unpack_sub_of_infinite same finite, unpack_sub_of_infinite xInfinite finite]

instance : Scalar.IsMonotone Float where
  isNumber_zero := double_isNumber_zero
  isNumber_of_isFinite := Scalar.IsComparable.isNumber_of_isFinite
  isNumber_sub := double_isNumber_sub_part
  le_total {x y} xNumber yNumber := by
    have left : x ≤ y ↔ _ := double_le_iff
    have right : y ≤ x ↔ _ := double_le_iff
    rw [left, right, and_iff_right ⟨xNumber, yNumber⟩, and_iff_right ⟨yNumber, xNumber⟩]
    exact le_total _ _
  le_trans _ _ _ first second := Scalar.IsComparable.le_trans first second
  not_le {x y} xNumber yNumber := by
    have left : x ≤ y ↔ _ := double_le_iff
    have right : y < x ↔ _ := double_lt_iff
    rw [left, right, and_iff_right ⟨xNumber, yNumber⟩, and_iff_right ⟨yNumber, xNumber⟩]
    exact not_le
  sub_le := double_sub_le
  sub_le_sub := double_sub_le_sub

theorem double_isFinite_of_isProbability (probability : Scalar.IsProbability x) :
    Scalar.isFinite x = true := by
  rcases isFinite_or_infinite probability.isNumber with finite | ⟨_ | _, infinite⟩
  · exact finite
  · have places := (double_le_iff.mp probability.nonneg).2
    rw [infinite] at places
    exact absurd places (by decide +kernel)
  · have places := (double_le_iff.mp probability.le_one).2
    rw [infinite] at places
    exact absurd places (by decide +kernel)

/-- What a number from zero to one leaves of one is such a number again. -/
theorem double_isProbability_one_sub (probability : Scalar.IsProbability x) :
    Scalar.IsProbability (1 - x) := by
  have oneFinite : Scalar.isFinite (1 : Float) = true := by rfl
  have finite := double_isFinite_of_isProbability probability
  have nonneg := exactValue_le double_isFinite_zero finite probability.nonneg
  have le_one := exactValue_le finite oneFinite probability.le_one
  have nearest := nearest_sub oneFinite finite
  have number := double_isNumber_sub_part Scalar.isNumber_zero_one.2 finite
  refine ⟨number, ?_, ?_⟩
  · refine double_le_iff.mpr ⟨⟨double_isNumber_zero, number⟩, ?_⟩
    exact (Nearest.zero .positive).mono nearest (sub_nonneg.mpr le_one)
  · refine double_le_iff.mpr ⟨⟨number, Scalar.isNumber_zero_one.2⟩, ?_⟩
    rw [double_zero, exactValue] at nonneg
    exact nearest.mono (nearest_unpack oneFinite) (sub_le_self _ nonneg)

end Differences

end MotifVote
