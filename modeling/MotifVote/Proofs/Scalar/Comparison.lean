import MotifVote.Proofs.Scalar.Order

/-!
# Laws of comparisons

What proofs assume where numbers are compared and nothing is computed with them. Undefined results
compare with nothing. Two numbers of which neither is smaller are the same, or both are zero.

The largest of some numbers is then determined by which numbers there are, up to the two zeros: it
does not matter in which order they are compared, nor where among them the undefined results stand.
-/

namespace MotifVote.Scalar

/-- Comparisons put the numbers in an order, and apart from zero no two numbers in one place. -/
class IsComparable (α : Type) [Scalar α] : Prop where
  isNumber_of_isFinite : ∀ {x : α}, isFinite x = true → IsNumber x
  isNumber_of_lt : ∀ {x y : α}, x < y → IsNumber x ∧ IsNumber y
  lt_asymm : ∀ {x y : α}, x < y → ¬y < x
  lt_or_lt : ∀ {x y z : α}, IsNumber y → x < z → x < y ∨ y < z
  eq_or_zero : ∀ {x y : α}, IsNumber x → IsNumber y → ¬x < y → ¬y < x →
    x = y ∨ (x == 0) = true ∧ (y == 0) = true
  le_iff : ∀ {x y : α}, x ≤ y ↔ IsNumber x ∧ IsNumber y ∧ ¬y < x
  zero_lt_one : (0 : α) < 1

instance : IsComparable Rat where
  isNumber_of_isFinite _ := isNumber_rational _
  isNumber_of_lt _ := ⟨isNumber_rational _, isNumber_rational _⟩
  lt_asymm less := Rat.not_lt.mpr (Rat.le_of_lt less)
  lt_or_lt {x y _} _ less := (lt_or_ge x y).imp_right fun atMost => lt_of_le_of_lt atMost less
  eq_or_zero _ _ notLess notGreater :=
    Or.inl (Rat.le_antisymm (Rat.not_lt.mp notGreater) (Rat.not_lt.mp notLess))
  le_iff {x y} := by
    rw [and_iff_right (isNumber_rational x), and_iff_right (isNumber_rational y)]
    exact Rat.not_lt.symm
  zero_lt_one := by decide

variable {α : Type} [Scalar α]

section Unit

variable [IsComparable α]

theorem IsComparable.le_refl {x : α} (number : IsNumber x) : x ≤ x :=
  le_iff.mpr ⟨number, number, fun less => lt_asymm less less⟩

theorem IsComparable.le_of_lt {x y : α} (less : x < y) : x ≤ y :=
  le_iff.mpr ⟨(isNumber_of_lt less).1, (isNumber_of_lt less).2, lt_asymm less⟩

theorem IsComparable.lt_of_not_le {x y : α} (xNumber : IsNumber x) (yNumber : IsNumber y)
    (above : ¬x ≤ y) : y < x := by
  by_contra notLess
  exact above (le_iff.mpr ⟨xNumber, yNumber, notLess⟩)

theorem IsComparable.lt_of_lt_of_le {x y z : α} (less : x < y) (atMost : y ≤ z) : x < z := by
  rcases le_iff.mp atMost with ⟨-, number, notLess⟩
  exact (lt_or_lt number less).resolve_right notLess

theorem IsComparable.le_trans {x y z : α} (first : x ≤ y) (second : y ≤ z) : x ≤ z := by
  rcases le_iff.mp first with ⟨xNumber, yNumber, notLess⟩
  rcases le_iff.mp second with ⟨-, zNumber, notLessEither⟩
  refine le_iff.mpr ⟨xNumber, zNumber, ?_⟩
  intro less
  rcases lt_or_lt yNumber less with below | above
  · exact notLessEither below
  · exact notLess above

theorem IsComparable.zero_ne_one : (0 : α) ≠ 1 := by
  intro same
  have less : (0 : α) < 1 := zero_lt_one
  rw [← same] at less
  exact lt_asymm less less

/-- One for what holds and zero for the rest: what follows from something counts no less than it. -/
theorem IsComparable.ite_one_mono {p q : Prop} [Decidable p] [Decidable q] (implies : p → q) :
    (if p then 1 else 0 : α) ≤ if q then 1 else 0 := by
  have numbers : IsNumber (0 : α) ∧ IsNumber (1 : α) := isNumber_of_lt zero_lt_one
  by_cases holds : p
  · rw [if_pos holds, if_pos (implies holds)]
    exact le_refl numbers.2
  · rw [if_neg holds]
    split
    · exact le_iff.mpr ⟨numbers.1, numbers.2, lt_asymm zero_lt_one⟩
    · exact le_refl numbers.1

end Unit

section Largest

/-- One of some values that none of them exceeds. It is undefined only if all of them are. -/
structure IsLargest (xs : List α) (most : α) : Prop where
  mem : most ∈ xs
  not_lt : ∀ x ∈ xs, ¬most < x
  isNumber : ∀ x ∈ xs, IsNumber x → IsNumber most

variable [IsComparable α] {xs ys : List α} {most other : α}

theorem isLargest_singleton (x : α) : IsLargest [x] x := by
  refine ⟨List.mem_singleton_self x, ?_, ?_⟩
  · intro y member less
    rw [List.mem_singleton.mp member] at less
    exact IsComparable.lt_asymm less less
  · intro y member number
    rwa [← List.mem_singleton.mp member]

/-- The largest of some values is compared with one more. -/
theorem IsLargest.larger (largest : IsLargest xs most) (next : α) :
    IsLargest (xs ++ [next]) (larger most next) := by
  by_cases number : IsNumber most
  · by_cases less : most < next
    · have second : Scalar.larger most next = next := by simp [Scalar.larger, less]
      rw [second]
      refine ⟨by simp, ?_, fun _ _ _ => (IsComparable.isNumber_of_lt less).2⟩
      intro x member greater
      rcases List.mem_append.mp member with before | here
      · rcases IsComparable.lt_or_lt number greater with above | below
        · exact IsComparable.lt_asymm less above
        · exact largest.not_lt x before below
      · rw [List.mem_singleton.mp here] at greater
        exact IsComparable.lt_asymm greater greater
    · have defined : (most == most) = true := number
      have first : Scalar.larger most next = most := by simp [Scalar.larger, less, defined]
      rw [first]
      refine ⟨by simp [largest.mem], ?_, fun _ _ _ => number⟩
      intro x member greater
      rcases List.mem_append.mp member with before | here
      · exact largest.not_lt x before greater
      · exact less (List.mem_singleton.mp here ▸ greater)
  · -- Everything before is undefined, so that nothing compares with it.
    have undefined : (most == most) = false := by simpa [IsNumber] using number
    have second : Scalar.larger most next = next := by simp [Scalar.larger, undefined]
    rw [second]
    refine ⟨by simp, ?_, ?_⟩
    · intro x member greater
      rcases List.mem_append.mp member with before | here
      · exact number (largest.isNumber x before (IsComparable.isNumber_of_lt greater).2)
      · rw [List.mem_singleton.mp here] at greater
        exact IsComparable.lt_asymm greater greater
    · intro x member defined
      rcases List.mem_append.mp member with before | here
      · exact absurd (largest.isNumber x before defined) number
      · rwa [← List.mem_singleton.mp here]

theorem exists_foldl_larger (largest : IsLargest xs most) (later : List α) :
    ∃ last, later.foldl (fun best x => some ((best.map (Scalar.larger · x)).getD x)) (some most) =
      some last ∧ IsLargest (xs ++ later) last := by
  induction later generalizing xs most with
  | nil => exact ⟨most, rfl, by rwa [List.append_nil]⟩
  | cons next later ih =>
      rcases ih (largest.larger next) with ⟨last, folded, isLargest⟩
      exact ⟨last, folded, by rwa [List.append_assoc] at isLargest⟩

theorem exists_largest?_eq_some (nonempty : xs ≠ []) :
    ∃ most, largest? xs = some most ∧ IsLargest xs most := by
  rcases xs with _ | ⟨first, later⟩
  · exact absurd rfl nonempty
  · exact exists_foldl_larger (isLargest_singleton first) later

/-- Two largest ones are the same number, or of no use as a divisor. -/
theorem IsLargest.eq_or_useless (largest : IsLargest xs most)
    (otherLargest : IsLargest ys other) (same : ∀ x, x ∈ xs ↔ x ∈ ys) :
    most = other ∨ (isFinite most && !(most == 0)) = false ∧
      (isFinite other && !(other == 0)) = false := by
  have undefined : ∀ {x : α}, ¬IsNumber x → isFinite x = false := by
    intro x notNumber
    exact eq_false_of_ne_true (mt IsComparable.isNumber_of_isFinite notNumber)
  by_cases number : IsNumber most
  · have otherNumber := otherLargest.isNumber most ((same most).mp largest.mem) number
    have notLess := largest.not_lt other ((same other).mpr otherLargest.mem)
    have notGreater := otherLargest.not_lt most ((same most).mp largest.mem)
    rcases IsComparable.eq_or_zero number otherNumber notLess notGreater with equal | zeros
    · exact Or.inl equal
    · exact Or.inr (by simp [zeros])
  · have otherUndefined : ¬IsNumber other := by
      intro otherNumber
      exact number (largest.isNumber other ((same other).mpr otherLargest.mem) otherNumber)
    exact Or.inr (by simp [undefined number, undefined otherUndefined])

end Largest

end MotifVote.Scalar
