import MotifVote.Proofs.Scalar.Double

/-!
# Doubles next to a result

A result is rounded from a mantissa of any length with what is known of the bits that were cut off
behind it. It is shifted until it has as many bits as a double can hold, and then goes up or down to
the nearer neighbour. So the double differs from the exact result by half of its last bit at most,
and a positive result stays positive.
-/

namespace MotifVote

open Float.Model (Format UnpackedFloat totalExponent)
open Float.Model.UnpackedFloat (Accuracy ExtendedMantissa Sign accuracyOfFraction pack unpack
  packComponents unpackSign roundWithAccuracy shiftToExponent shiftToTargetExponent)

section Mantissa

/-- A mantissa with what is known of the bits behind it stands for a number. -/
def Stands (extended : ExtendedMantissa) (x : ℚ) : Prop :=
  match extended.roundBit, extended.stickyBit with
  | false, false => x = extended.mantissa
  | false, true => extended.mantissa < x ∧ x < extended.mantissa + 1 / 2
  | true, false => x = extended.mantissa + 1 / 2
  | true, true => extended.mantissa + 1 / 2 < x ∧ x < extended.mantissa + 1

variable {extended : ExtendedMantissa} {x : ℚ}

theorem stands_exact (m : Nat) : Stands (.ofMantissaAndAccuracy m .exact) m :=
  rfl

/-- A quotient is cut off to its whole part, and the rest says how it goes on. -/
theorem stands_quotient (n : Nat) {d : Nat} (positive : 0 < d) :
    Stands (.ofMantissaAndAccuracy (n / d) (accuracyOfFraction (n % d) d)) (n / d : ℚ) := by
  have divisor : (0 : ℚ) < d := Nat.cast_pos.mpr positive
  have parts : (n : ℚ) / d = (n / d : Nat) + (n % d : Nat) / d := by
    have whole : (n : ℚ) = d * (n / d : Nat) + (n % d : Nat) := by
      exact_mod_cast (Nat.div_add_mod n d).symm
    rw [div_eq_iff divisor.ne', add_mul, div_mul_cancel₀ _ divisor.ne', mul_comm]
    exact whole
  rw [accuracyOfFraction, parts]
  split
  next exact => simp [Stands, ExtendedMantissa.ofMantissaAndAccuracy, exact]
  next inexact =>
    have rest : (0 : ℚ) < (n % d : Nat) / d :=
      div_pos (Nat.cast_pos.mpr (Nat.pos_of_ne_zero inexact)) divisor
    have less : ((n % d : Nat) : ℚ) / d < 1 :=
      (div_lt_one divisor).mpr (Nat.cast_lt.mpr (Nat.mod_lt n positive))
    rcases compared : compare (2 * (n % d)) d
    case lt =>
      have half : ((n % d : Nat) : ℚ) * 2 < d := by
        exact_mod_cast Nat.mul_comm 2 (n % d) ▸ Nat.compare_eq_lt.mp compared
      have below : ((n % d : Nat) : ℚ) / d < 1 / 2 := by
        rwa [div_lt_div_iff₀ divisor two_pos, one_mul]
      exact ⟨lt_add_of_pos_right _ rest, add_lt_add_right below _⟩
    case eq =>
      have half : ((n % d : Nat) : ℚ) * 2 = d := by
        exact_mod_cast Nat.mul_comm 2 (n % d) ▸ Nat.compare_eq_eq.mp compared
      have tie : ((n % d : Nat) : ℚ) / d = 1 / 2 := by
        rwa [div_eq_div_iff divisor.ne' two_ne_zero, one_mul]
      rw [tie]
      rfl
    case gt =>
      have half : (d : ℚ) < ((n % d : Nat) : ℚ) * 2 := by
        exact_mod_cast Nat.mul_comm 2 (n % d) ▸ Nat.compare_eq_gt.mp compared
      have above : (1 : ℚ) / 2 < ((n % d : Nat) : ℚ) / d := by
        rwa [div_lt_div_iff₀ two_pos divisor, one_mul]
      exact ⟨add_lt_add_right above _, add_lt_add_right less _⟩

theorem Stands.shiftRightOne (stands : Stands extended x) :
    Stands extended.shiftRightOne (x / 2) := by
  rcases extended with ⟨m, round, sticky⟩
  -- The bit that goes is the new round bit; the old round bit is one of the bits behind it.
  have shifted : (ExtendedMantissa.mk m round sticky).shiftRightOne =
      ⟨m / 2, m % 2 != 0, round || sticky⟩ := rfl
  have parts : (m : ℚ) = 2 * (m / 2 : Nat) + (m % 2 : Nat) := by
    exact_mod_cast (Nat.div_add_mod m 2).symm
  rw [shifted]
  rcases Nat.mod_two_eq_zero_or_one m with bit | bit
  · rw [bit, Nat.cast_zero, add_zero] at parts
    rw [bit]
    cases round <;> cases sticky <;> simp [Stands] at stands ⊢
    · linarith
    · constructor <;> linarith
    · constructor <;> linarith
    · constructor <;> linarith
  · rw [bit, Nat.cast_one] at parts
    rw [bit]
    cases round <;> cases sticky <;> simp [Stands] at stands ⊢
    · linarith
    · constructor <;> linarith
    · constructor <;> linarith
    · constructor <;> linarith

theorem Stands.shiftRight (stands : Stands extended x) (n : Nat) :
    Stands (extended >>> n) (x / 2 ^ n) := by
  induction n with
  | zero =>
      rw [pow_zero, div_one]
      exact stands
  | succ n ih =>
      have next := ih.shiftRightOne
      rwa [div_div, ← pow_succ] at next

theorem roundedMantissa_cases (extended : ExtendedMantissa) :
    extended.roundedMantissa = extended.mantissa ∨
      extended.roundedMantissa = extended.mantissa + 1 := by
  rcases extended with ⟨m, _ | _, _ | _⟩
  · exact Or.inl rfl
  · exact Or.inl rfl
  · have tie : (ExtendedMantissa.mk m true false).roundedMantissa = m + m % 2 := rfl
    rw [tie]
    exact (Nat.mod_two_eq_zero_or_one m).imp (congrArg (m + ·)) (congrArg (m + ·))
  · exact Or.inr rfl

theorem le_roundedMantissa (extended : ExtendedMantissa) :
    extended.mantissa ≤ extended.roundedMantissa := by
  rcases roundedMantissa_cases extended with down | up
  · exact down.ge
  · exact up ▸ Nat.le_succ _

theorem roundedMantissa_le (extended : ExtendedMantissa) :
    extended.roundedMantissa ≤ extended.mantissa + 1 := by
  rcases roundedMantissa_cases extended with down | up
  · exact down ▸ Nat.le_succ _
  · exact up.le

theorem Stands.mantissa_le (stands : Stands extended x) : (extended.mantissa : ℚ) ≤ x := by
  rcases extended with ⟨m, _ | _, _ | _⟩
  · exact ge_of_eq stands
  · exact stands.1.le
  · have tie : x = m + 1 / 2 := stands
    rw [tie]
    exact le_add_of_nonneg_right (by norm_num)
  · exact le_trans (le_add_of_nonneg_right (by norm_num)) stands.1.le

theorem Stands.lt_mantissa_add_one (stands : Stands extended x) : x < extended.mantissa + 1 := by
  rcases extended with ⟨m, _ | _, _ | _⟩
  · have exact : x = m := stands
    rw [exact]
    exact lt_add_one _
  · exact lt_trans stands.2 (add_lt_add_right (by norm_num) _)
  · have tie : x = m + 1 / 2 := stands
    rw [tie]
    exact add_lt_add_right (by norm_num) _
  · exact stands.2

/-- A larger number has no smaller rounded mantissa. -/
theorem Stands.roundedMantissa_le_roundedMantissa {larger : ExtendedMantissa} {y : ℚ}
    (left : Stands extended x) (right : Stands larger y) (ordered : x ≤ y) :
    extended.roundedMantissa ≤ larger.roundedMantissa := by
  have atMost : extended.mantissa ≤ larger.mantissa := by
    have less : (extended.mantissa : ℚ) < larger.mantissa + 1 :=
      lt_of_le_of_lt (le_trans left.mantissa_le ordered) right.lt_mantissa_add_one
    exact Nat.lt_succ_iff.mp (by exact_mod_cast less)
  rcases Nat.lt_or_eq_of_le atMost with less | same
  · exact le_trans (roundedMantissa_le extended) (le_trans less (le_roundedMantissa larger))
  · rcases extended with ⟨m, round, sticky⟩
    rcases larger with ⟨n, otherRound, otherSticky⟩
    obtain rfl : m = n := same
    cases round with
    | false =>
        have down : (ExtendedMantissa.mk m false sticky).roundedMantissa = m := by
          cases sticky <;> rfl
        rw [down]
        exact le_roundedMantissa ⟨m, otherRound, otherSticky⟩
    | true =>
        cases otherRound with
        | false =>
            -- The larger number would be below a half, and the smaller one would not.
            exfalso
            cases sticky <;> cases otherSticky <;> simp [Stands] at left right <;> linarith
        | true =>
            cases sticky with
            | false =>
                cases otherSticky with
                | false => exact le_refl _
                | true => exact roundedMantissa_le ⟨m, true, false⟩
            | true =>
                cases otherSticky with
                | false =>
                    exfalso
                    simp [Stands] at left right
                    linarith
                | true => exact le_refl _

/-- The rounded mantissa is no further from the number than a half. -/
theorem Stands.abs_roundedMantissa_sub_le (stands : Stands extended x) :
    |(extended.roundedMantissa : ℚ) - x| ≤ 1 / 2 := by
  rw [abs_le]
  rcases extended with ⟨m, _ | _, _ | _⟩
  · have exact : x = m := stands
    have kept : (ExtendedMantissa.mk m false false).roundedMantissa = m := rfl
    rw [kept, exact]
    norm_num
  · rcases stands with ⟨above, below⟩
    have kept : (ExtendedMantissa.mk m false true).roundedMantissa = m := rfl
    rw [kept]
    constructor <;> linarith
  · have tie : x = m + 1 / 2 := stands
    rcases roundedMantissa_cases ⟨m, true, false⟩ with down | up
    · rw [down, tie]
      norm_num
    · rw [up, tie]
      push_cast
      norm_num
  · rcases stands with ⟨above, below⟩
    have next : (ExtendedMantissa.mk m true true).roundedMantissa = m + 1 := rfl
    rw [next]
    push_cast
    constructor <;> linarith

end Mantissa

section Rounding

variable {x y q r : ℚ}

theorem mul_units_le {unit other : ℤ} (less : unit < other) :
    (2 : ℚ) ^ 53 * 2 ^ unit ≤ 2 ^ 52 * 2 ^ other := by
  calc (2 : ℚ) ^ 53 * 2 ^ unit = 2 ^ 52 * 2 ^ (unit + 1) := by
        rw [zpow_add_one₀ two_ne_zero]
        ring
    _ ≤ 2 ^ 52 * 2 ^ other := by
        gcongr
        · exact one_le_two
        · exact less

/-- A number is cut off behind as many bits as a mantissa has, and then goes up or down. -/
def Rounds (x q : ℚ) : Prop :=
  ∃ (extended : ExtendedMantissa) (unit : ℤ), Stands extended (x / 2 ^ unit) ∧
    2 ^ 52 ≤ extended.mantissa ∧ extended.mantissa < 2 ^ 53 ∧
    q = extended.roundedMantissa * 2 ^ unit

theorem Rounds.mono (left : Rounds x q) (right : Rounds y r) (ordered : x ≤ y) : q ≤ r := by
  rcases left with ⟨extended, unit, stands, full, fits, rfl⟩
  rcases right with ⟨larger, other, otherStands, otherFull, otherFits, rfl⟩
  have positive : (0 : ℚ) < 2 ^ unit := zpow_pos two_pos _
  have otherPositive : (0 : ℚ) < 2 ^ other := zpow_pos two_pos _
  rcases lt_trichotomy unit other with less | rfl | greater
  · have carried : (extended.roundedMantissa : ℚ) ≤ 2 ^ 53 := by
      exact_mod_cast le_trans (roundedMantissa_le extended) fits
    have least : (2 : ℚ) ^ 52 ≤ larger.roundedMantissa := by
      exact_mod_cast le_trans otherFull (le_roundedMantissa larger)
    calc (extended.roundedMantissa : ℚ) * 2 ^ unit ≤ 2 ^ 53 * 2 ^ unit := by gcongr
      _ ≤ 2 ^ 52 * 2 ^ other := mul_units_le less
      _ ≤ larger.roundedMantissa * 2 ^ other := by gcongr
  · have scaled : x / 2 ^ unit ≤ y / 2 ^ unit := by gcongr
    have mantissas := stands.roundedMantissa_le_roundedMantissa otherStands scaled
    gcongr
  · -- The larger number would be smaller than the smaller one.
    exfalso
    have least : (2 : ℚ) ^ 52 ≤ x / 2 ^ unit := by
      refine le_trans ?_ stands.mantissa_le
      exact_mod_cast full
    have most : y / 2 ^ other < 2 ^ 53 := by
      refine lt_of_lt_of_le otherStands.lt_mantissa_add_one ?_
      exact_mod_cast otherFits
    rw [le_div_iff₀ positive] at least
    rw [div_lt_iff₀ otherPositive] at most
    exact absurd ordered (not_le.mpr (lt_of_lt_of_le most (le_trans (mul_units_le greater) least)))

theorem Rounds.unique (left : Rounds x q) (right : Rounds x r) : q = r :=
  le_antisymm (left.mono right le_rfl) (right.mono left le_rfl)

theorem rounds_self {m : Nat} (full : 2 ^ 52 ≤ m) (fits : m < 2 ^ 53) (unit : ℤ) :
    Rounds (m * 2 ^ unit) (m * 2 ^ unit) := by
  refine ⟨.ofMantissaAndAccuracy m .exact, unit, ?_, full, fits, rfl⟩
  rw [mul_div_cancel_right₀ _ (zpow_ne_zero _ two_ne_zero)]
  exact stands_exact m

/-- What is rounded is off by half of the last bit at most. -/
theorem Rounds.near (rounds : Rounds x q) :
    ∃ unit : ℤ, 2 ^ 52 * 2 ^ unit ≤ x ∧ |q - x| ≤ 2 ^ unit / 2 := by
  rcases rounds with ⟨extended, unit, stands, full, -, rfl⟩
  have positive : (0 : ℚ) < 2 ^ unit := zpow_pos two_pos _
  refine ⟨unit, ?_, ?_⟩
  · rw [← le_div_iff₀ positive]
    refine le_trans ?_ stands.mantissa_le
    exact_mod_cast full
  · have distance : extended.roundedMantissa * 2 ^ unit - x =
        (extended.roundedMantissa - x / 2 ^ unit) * 2 ^ unit := by
      rw [sub_mul, div_mul_cancel₀ _ positive.ne']
    have half := mul_le_mul_of_nonneg_right stands.abs_roundedMantissa_sub_le positive.le
    rw [distance, abs_mul, abs_of_pos positive]
    rwa [one_div_mul_eq_div] at half

end Rounding

section Rounded

variable {m : Nat} {e : Int} {accuracy : Accuracy} {extended : ExtendedMantissa} {x : ℚ}

theorem mantissa_ofMantissaAndAccuracy (m : Nat) (accuracy : Accuracy) :
    (ExtendedMantissa.ofMantissaAndAccuracy m accuracy).mantissa = m := by
  rcases accuracy with _ | (_ | _ | _) <;> rfl

theorem mantissa_shiftRight (extended : ExtendedMantissa) (n : Nat) :
    (extended >>> n).mantissa = extended.mantissa / 2 ^ n := by
  induction n with
  | zero => exact (Nat.div_one _).symm
  | succ n ih =>
      have next : (extended >>> (n + 1)).mantissa = (extended >>> n).mantissa / 2 := rfl
      rw [next, ih, Nat.div_div_eq_div_mul, pow_succ]

/-- A mantissa without the bits it has too many. -/
def shortened (m : Nat) (accuracy : Accuracy) : ExtendedMantissa :=
  ExtendedMantissa.ofMantissaAndAccuracy m accuracy >>> (m.log2 - 52)

theorem mantissa_shortened (m : Nat) (accuracy : Accuracy) :
    (shortened m accuracy).mantissa = m / 2 ^ (m.log2 - 52) := by
  rw [shortened, mantissa_shiftRight, mantissa_ofMantissaAndAccuracy]

theorem mantissa_shortened_lt (m : Nat) (accuracy : Accuracy) :
    (shortened m accuracy).mantissa < 2 ^ 53 := by
  rw [mantissa_shortened, Nat.div_lt_iff_lt_mul (Nat.two_pow_pos _), ← pow_add]
  exact lt_of_lt_of_le Nat.lt_log2_self (Nat.pow_le_pow_right two_pos (by omega))

theorem mantissa_shortened_pos (accuracy : Accuracy) (positive : 0 < m) :
    0 < (shortened m accuracy).mantissa := by
  rw [mantissa_shortened]
  refine Nat.div_pos ?_ (Nat.two_pow_pos _)
  exact le_trans (Nat.pow_le_pow_right two_pos (Nat.sub_le _ _)) (Nat.log2_self_le positive.ne')

theorem le_mantissa_shortened (accuracy : Accuracy) (full : 2 ^ 52 ≤ m) :
    2 ^ 52 ≤ (shortened m accuracy).mantissa := by
  have nonzero : m ≠ 0 := by omega
  have bits : 52 ≤ m.log2 := (Nat.le_log2 nonzero).mpr full
  rw [mantissa_shortened, Nat.le_div_iff_mul_le (Nat.two_pow_pos _), ← pow_add,
    Nat.add_sub_cancel' bits]
  exact Nat.log2_self_le nonzero

theorem shiftToTargetExponent_double (m : Nat) (accuracy : Accuracy) (least : -1074 ≤ e) :
    shiftToTargetExponent .binary64 m e accuracy =
      (shortened m accuracy, e + (m.log2 - 52 : Nat)) := by
  have amount : (Format.binary64.targetExponent (totalExponent m e) - e).toNat = m.log2 - 52 := by
    have subnormal : Format.binary64.minExponent = -1074 := rfl
    have bits : Format.binary64.mantissaBits = 53 := rfl
    rw [Format.targetExponent, totalExponent, subnormal, bits]
    omega
  simp only [shiftToTargetExponent, shiftToExponent, amount, shortened]

/-- The rounded mantissa is kept, unless it has got one bit more, which is a zero then. -/
theorem roundWithAccuracy_of_shift {sign : Sign} {exponent : Int}
    (shifted : shiftToTargetExponent .binary64 m e accuracy = (extended, exponent))
    (atMost : extended.roundedMantissa ≤ 2 ^ 53) (least : -1074 ≤ exponent) :
    (extended.roundedMantissa = 0 ∧ roundWithAccuracy .binary64 sign m e accuracy = .zero sign) ∨
    (∃ positive, extended.roundedMantissa < 2 ^ 53 ∧
      roundWithAccuracy .binary64 sign m e accuracy =
        .finite sign extended.roundedMantissa exponent positive) ∨
    (∃ positive, extended.roundedMantissa = 2 ^ 53 ∧
      roundWithAccuracy .binary64 sign m e accuracy =
        .finite sign (2 ^ 52) (exponent + 1) positive) := by
  obtain ⟨rounded, same⟩ : ∃ rounded, rounded = extended.roundedMantissa := ⟨_, rfl⟩
  simp only [roundWithAccuracy, shifted, ← same, shiftToTargetExponent_double rounded .exact least,
    mantissa_shortened]
  rw [← same] at atMost
  rcases Nat.eq_zero_or_pos rounded with rfl | positive
  · exact Or.inl ⟨rfl, rfl⟩
  · rcases Nat.lt_or_eq_of_le atMost with less | full
    · have bits : rounded.log2 - 52 = 0 := by
        have short : rounded.log2 < 53 := (Nat.log2_lt positive.ne').mpr less
        omega
      simp only [bits, pow_zero, Nat.div_one, positive.ne', Nat.cast_zero, add_zero]
      exact Or.inr (Or.inl ⟨positive, less, rfl⟩)
    · have bits : rounded.log2 - 52 = 1 := by
        rw [full, Nat.log2_two_pow]
      have half : rounded / 2 ^ 1 = 2 ^ 52 := by
        rw [full]
        rfl
      simp only [bits, half, Nat.cast_one]
      exact Or.inr (Or.inr ⟨Nat.two_pow_pos 52, full, dif_neg (Nat.two_pow_pos 52).ne'⟩)

/-- A result is not rounded to zero where its last bit may have the least exponent. -/
theorem roundWithAccuracy_cases (sign : Sign) (accuracy : Accuracy) (least : -1074 ≤ e)
    (some : 0 < m) :
    (∃ positive, (shortened m accuracy).roundedMantissa < 2 ^ 53 ∧
      roundWithAccuracy .binary64 sign m e accuracy =
        .finite sign (shortened m accuracy).roundedMantissa (e + (m.log2 - 52 : Nat)) positive) ∨
    (∃ positive, (shortened m accuracy).roundedMantissa = 2 ^ 53 ∧
      roundWithAccuracy .binary64 sign m e accuracy =
        .finite sign (2 ^ 52) (e + (m.log2 - 52 : Nat) + 1) positive) := by
  have positive := lt_of_lt_of_le (mantissa_shortened_pos accuracy some) (le_roundedMantissa _)
  have atMost : (shortened m accuracy).roundedMantissa ≤ 2 ^ 53 :=
    (roundedMantissa_le _).trans (mantissa_shortened_lt m accuracy)
  rcases roundWithAccuracy_of_shift (shiftToTargetExponent_double m accuracy least) atMost
    (by omega) with ⟨zero, -⟩ | rounded
  · exact absurd zero positive.ne'
  · exact rounded

theorem exists_round_eq_finite (accuracy : Accuracy) (least : -1074 ≤ e) (some : 0 < m) :
    ∃ mantissa exponent positive, roundWithAccuracy .binary64 .positive m e accuracy =
      .finite .positive mantissa exponent positive ∧ mantissa < 2 ^ 53 ∧ -1074 ≤ exponent := by
  rcases roundWithAccuracy_cases .positive accuracy least some with
    ⟨positive, fits, rounded⟩ | ⟨positive, -, rounded⟩
  · exact ⟨_, _, positive, rounded, fits, by omega⟩
  · exact ⟨_, _, positive, rounded, by norm_num, by omega⟩

/-- A positive double with all of its bits in use is a number. -/
inductive IsNormal : UnpackedFloat → ℚ → Prop
  | finite {mantissa : Nat} {exponent : Int} (positive : 0 < mantissa)
      (full : 2 ^ 52 ≤ mantissa) (fits : mantissa < 2 ^ 53) (least : -1074 ≤ exponent)
      (most : exponent ≤ 971) :
      IsNormal (.finite .positive mantissa exponent positive) (mantissa * 2 ^ exponent)

theorem IsNormal.rounds {y : UnpackedFloat} {v : ℚ} (normal : IsNormal y v) : Rounds v v := by
  cases normal with
  | finite _ full fits _ _ => exact rounds_self full fits _

/-- A result with enough bits is rounded, and has all bits in use then. -/
theorem Stands.exists_round_eq (stands : Stands (.ofMantissaAndAccuracy m accuracy) x)
    (full : 2 ^ 52 ≤ m) (least : -1074 ≤ e) (sign : Sign) :
    ∃ mantissa exponent positive, roundWithAccuracy .binary64 sign m e accuracy =
        .finite sign mantissa exponent positive ∧
      2 ^ 52 ≤ mantissa ∧ mantissa < 2 ^ 53 ∧ -1074 ≤ exponent ∧
      exponent ≤ e + (m.log2 - 52 : Nat) + 1 ∧ Rounds (x * 2 ^ e) (mantissa * 2 ^ exponent) := by
  have some : 0 < m := by omega
  have long := le_mantissa_shortened accuracy full
  have scaled : x * 2 ^ e / 2 ^ (e + (m.log2 - 52 : Nat)) = x / 2 ^ (m.log2 - 52) := by
    rw [zpow_add₀ two_ne_zero, zpow_natCast]
    field_simp
  have rounds : Rounds (x * 2 ^ e)
      ((shortened m accuracy).roundedMantissa * 2 ^ (e + (m.log2 - 52 : Nat))) := by
    refine ⟨shortened m accuracy, _, ?_, long, mantissa_shortened_lt m accuracy, rfl⟩
    rw [scaled]
    exact stands.shiftRight (m.log2 - 52)
  rcases roundWithAccuracy_cases sign accuracy least some with
    ⟨positive, fits, rounded⟩ | ⟨positive, carry, rounded⟩
  · exact ⟨_, _, positive, rounded, le_trans long (le_roundedMantissa _), fits, by omega, by omega,
      rounds⟩
  · -- Units of twice the size are half as many.
    have units : ((2 ^ 53 : Nat) : ℚ) * 2 ^ (e + (m.log2 - 52 : Nat)) =
        (2 ^ 52 : Nat) * 2 ^ (e + (m.log2 - 52 : Nat) + 1) := by
      rw [zpow_add_one₀ two_ne_zero]
      push_cast
      ring
    rw [carry, units] at rounds
    exact ⟨_, _, positive, rounded, le_refl _, by norm_num, by omega, le_refl _, rounds⟩

theorem Stands.round_normal (stands : Stands (.ofMantissaAndAccuracy m accuracy) x)
    (full : 2 ^ 52 ≤ m) (least : -1074 ≤ e) (most : e + (m.log2 - 52 : Nat) ≤ 970) :
    ∃ q, IsNormal (roundWithAccuracy .binary64 .positive m e accuracy) q ∧
      Rounds (x * 2 ^ e) q := by
  rcases stands.exists_round_eq full least .positive with
    ⟨mantissa, exponent, positive, rounded, long, fits, above, below, rounds⟩
  rw [rounded]
  exact ⟨_, .finite positive long fits above (by omega), rounds⟩

/-- A result that has no bits to lose is not rounded. -/
theorem Stands.round_exact (stands : Stands (.ofMantissaAndAccuracy m accuracy) x)
    (full : 2 ^ 52 ≤ m) (least : -1074 ≤ e) (most : e + (m.log2 - 52 : Nat) ≤ 970) {v : ℚ}
    (exact : x * 2 ^ e = v) (kept : Rounds v v) :
    IsNormal (roundWithAccuracy .binary64 .positive m e accuracy) v := by
  rcases stands.round_normal full least most with ⟨q, normal, rounds⟩
  rw [exact] at rounds
  rwa [rounds.unique kept] at normal

end Rounded

end MotifVote
