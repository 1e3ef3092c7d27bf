import MotifVote.Proofs.Name.Closest
import MotifVote.Proofs.Name.TwoRows
import MotifVote.Proofs.Scalar.Difference

/-!
# Edit distance as a metric

The least number of edits is a metric on lists: an edit can be undone by an edit, and edits can be
made after one another. No edit changes a length by more than one, and a list is turned into another
one in no more edits than the longer of them has elements, if each element is replaced and the rest
inserted or deleted. So the edits in parts of the longer list are a number from zero to one, and so
is the similarity of two texts, also where it is computed with doubles.
-/

namespace MotifVote.Name

section Edits

variable {α : Type} {left middle right : List α} {m n : Nat}

theorem Edit.symm (edit : Edit left right) : Edit right left := by
  induction edit with
  | insert x list => exact .delete x list
  | delete x list => exact .insert x list
  | replace x y list => exact .replace y x list
  | later x _ ih => exact ih.later x

theorem Edit.length_le (edit : Edit left right) : left.length ≤ right.length + 1 := by
  induction edit with
  | insert x list =>
      simp only [List.length_cons]
      omega
  | delete x list => simp
  | replace x y list => simp
  | later x _ ih =>
      simp only [List.length_cons]
      omega

theorem Edits.trans (first : Edits m left middle) (second : Edits n middle right) :
    Edits (m + n) left right := by
  induction second with
  | none list => exact first
  | step _ edit ih => exact (ih first).step edit

theorem Edits.symm (edits : Edits n left right) : Edits n right left := by
  induction edits with
  | none list => exact .none list
  | @step n _ _ _ _ edit ih =>
      have back := (Edits.none _).step edit.symm
      simpa [Nat.add_comm] using back.trans ih

theorem Edits.length_le (edits : Edits n left right) : left.length ≤ right.length + n := by
  induction edits with
  | none list => exact Nat.le_refl _
  | step _ edit ih =>
      have one := edit.length_le
      omega

theorem exists_aligns_le (left right : List α) :
    ∃ n ≤ max left.length right.length, Aligns left right n := by
  induction left generalizing right with
  | nil => exact ⟨right.length, by simp, (isCost_nil_left right).1⟩
  | cons x left ih =>
      rcases right with _ | ⟨y, right⟩
      · exact ⟨(x :: left).length, by simp, (isCost_nil_right (x :: left)).1⟩
      · rcases ih right with ⟨n, atMost, aligns⟩
        refine ⟨n + 1, ?_, aligns.replace x y⟩
        simp only [List.length_cons]
        omega

/-- The least number of edits, with the laws of a metric. -/
structure IsEditMetric (distance : List α → List α → Nat) : Prop where
  isLeast : ∀ left right, IsLeast {n | Edits n left right} (distance left right)
  comm : ∀ left right, distance left right = distance right left
  triangle : ∀ left middle right,
    distance left right ≤ distance left middle + distance middle right
  eq_zero_iff : ∀ left right, distance left right = 0 ↔ left = right
  length_difference_le : ∀ left right,
    max left.length right.length - min left.length right.length ≤ distance left right
  le_longer_length : ∀ left right, distance left right ≤ max left.length right.length

theorem isEditMetric_of_isLeast [DecidableEq α] {distance : List α → List α → Nat}
    (least : ∀ left right, IsLeast {n | Edits n left right} (distance left right)) :
    IsEditMetric distance := by
  have back : ∀ left right, distance left right ≤ distance right left := by
    intro left right
    exact (least left right).2 (Edits.symm (least right left).1)
  refine {
    isLeast := least
    comm := ?comm
    triangle := ?triangle
    eq_zero_iff := ?eq_zero_iff
    length_difference_le := ?length_difference_le
    le_longer_length := ?le_longer_length }
  case comm =>
    intro left right
    exact Nat.le_antisymm (back left right) (back right left)
  case triangle =>
    intro left middle right
    exact (least left right).2 (Edits.trans (least left middle).1 (least middle right).1)
  case eq_zero_iff =>
    intro left right
    have same : leastEdits left right = distance left right := (least left right).csInf_eq
    rw [← same]
    exact leastEdits_eq_zero_iff
  case length_difference_le =>
    intro left right
    have edits : Edits (distance left right) left right := (least left right).1
    have shorter := edits.length_le
    have longer := edits.symm.length_le
    omega
  case le_longer_length =>
    intro left right
    rcases exists_aligns_le left right with ⟨n, atMost, aligns⟩
    exact Nat.le_trans ((least left right).2 aligns.edits) atMost

end Edits

section Similarity

variable {left right : String}

theorem editDistance_le_longerLength (left right : String) :
    editDistance (Text.lower left) (Text.lower right) ≤ longerLength left right :=
  (isEditMetric_of_isLeast isLeast_editDistance).le_longer_length _ _

theorem isProbability_similarity_rational (left right : String) :
    Scalar.IsProbability (similarity ℚ left right) := by
  refine ⟨Scalar.isNumber_rational _, ?_, ?_⟩
  · rw [similarity_eq_score, score_eq, editsBetween, leastEdits_eq_editDistance]
    apply sub_nonneg.mpr
    apply div_le_one_of_le₀ _ (Nat.cast_nonneg _)
    exact_mod_cast editDistance_le_longerLength left right
  · rw [similarity_eq_score]
    exact score_le_one left right

/-- The edits in parts of the longer text are rounded, and so is what they leave of one. -/
theorem isProbability_similarity_double (bounded : longerLength left right ≤ UInt64.size) :
    Scalar.IsProbability (similarity Float left right) := by
  rw [similarity]
  split
  · exact Scalar.isProbability_one
  next nonempty =>
    apply double_isProbability_one_sub
    exact double_isProbability_div (editDistance_le_longerLength left right)
      (Nat.pos_of_ne_zero nonempty) bounded

/-- The edit distance is the least number of edits and a metric, no less than the difference of the
lengths and no more than the longer length. It can be computed in two rows. So the similarity of two
texts is a number from zero to one, without rounding and also with doubles, if the texts are no
longer than a word of 64 bits can count. -/
theorem editDistance_isEditMetric {α : Type} [DecidableEq α] :
    IsEditMetric (editDistance : List α → List α → Nat) ∧
    (∀ left right : List α, twoRowDistance left right = editDistance left right) ∧
    (∀ left right : String, Scalar.IsProbability (similarity ℚ left right)) ∧
    ∀ left right : String, longerLength left right ≤ UInt64.size →
      Scalar.IsProbability (similarity Float left right) := by
  refine ⟨isEditMetric_of_isLeast isLeast_editDistance, twoRowDistance_eq_editDistance,
    isProbability_similarity_rational, ?_⟩
  intro left right bounded
  exact isProbability_similarity_double bounded

/-- Two characters are replaced and one is inserted. -/
theorem editDistance_isEditMetric_kitten :
    IsLeast {n | Edits n "kitten".toList "sitting".toList} 3 ∧
      twoRowDistance "sitting".toList "kitten".toList = 3 ∧
      longerLength "kitten" "sitting" ≤ UInt64.size ∧
      Scalar.IsProbability (similarity Float "kitten" "sitting") := by
  rcases @editDistance_isEditMetric Char _ with ⟨metric, rows, -, similar⟩
  have three : editDistance "kitten".toList "sitting".toList = 3 := by decide +kernel
  have bounded : longerLength "kitten" "sitting" ≤ UInt64.size := by decide +kernel
  refine ⟨?_, ?_, bounded, similar _ _ bounded⟩
  · rw [← three]
    exact metric.isLeast _ _
  · rw [rows, metric.comm, three]

end Similarity

end MotifVote.Name
