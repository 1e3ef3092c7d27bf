import MotifVote.Proofs.Ensemble.Lessons
import MotifVote.Proofs.Ensemble.Probability
import MotifVote.Proofs.Scalar.Complement

/-!
# The point that an ensemble is least certain about

The entries of an ensemble are gone through in order, and the best candidate so far gives way to
every entry of the pool that is no more certain. So after each entry the best candidate is one that
no entry so far is less certain than, and that every later one is more certain than. There is only
one place in a list with this property, and entries outside the pool have no part in it.
-/

namespace MotifVote

open Scalar (IsComparable IsComplemented IsNumber)

/-- An element that a list is split at is the one of another split, or it comes before or behind. -/
theorem eq_or_mem_of_splits {β : Type} {earlier later before behind : List β} {x y : β}
    (same : earlier ++ x :: later = before ++ y :: behind) : x = y ∨ y ∈ later ∨ x ∈ behind := by
  rcases List.append_eq_append_iff.mp same with ⟨between, -, rest⟩ | ⟨between, -, rest⟩
  · cases between with
    | nil => simp_all
    | cons first between => simp_all
  · cases between with
    | nil => simp_all
    | cons first between => simp_all

namespace Ensemble

variable {α : Type} [Exponential α] {pool other : PointSet} {entries : List (Point × α)}
variable {point : Point} {p : α}

/-- The last of the entries of a pool whose probabilities are closest to their complements. -/
structure IsLastLeast (pool : PointSet) (entries : List (Point × α)) (point : Point) (p : α) :
    Prop where
  mem_pool : point ∈ pool
  least : ∀ entry ∈ entries, entry.1 ∈ pool →
    Scalar.abs (p - (1 - p)) ≤ Scalar.abs (entry.2 - (1 - entry.2))
  exists_split : ∃ earlier later, entries = earlier ++ (point, p) :: later ∧
    ∀ entry ∈ later, entry.1 ∈ pool →
      Scalar.abs (p - (1 - p)) < Scalar.abs (entry.2 - (1 - entry.2))

theorem IsLastLeast.mem (isLast : IsLastLeast pool entries point p) : (point, p) ∈ entries := by
  rcases isLast.exists_split with ⟨earlier, later, rfl, -⟩
  simp

section Step

variable [IsComparable α] {next : Point × α}

theorem IsLastLeast.isNumber (isLast : IsLastLeast pool entries point p) :
    IsNumber (certainty p) :=
  (IsComparable.le_iff.mp (isLast.least _ isLast.mem isLast.mem_pool)).1

/-- A candidate stays if the next entry is outside the pool or more certain. -/
theorem IsLastLeast.stays (isLast : IsLastLeast pool entries point p)
    (above : next.1 ∈ pool → certainty p < certainty next.2) :
    IsLastLeast pool (entries ++ [next]) point p := by
  rcases isLast.exists_split with ⟨earlier, later, rfl, more⟩
  refine ⟨isLast.mem_pool, ?_, earlier, later ++ [next], by simp, ?_⟩
  · intro entry member inside
    rcases List.mem_append.mp member with before | here
    · exact isLast.least entry before inside
    · rw [List.mem_singleton.mp here] at inside ⊢
      exact IsComparable.le_of_lt (above inside)
  · intro entry member inside
    rcases List.mem_append.mp member with before | here
    · exact more entry before inside
    · rw [List.mem_singleton.mp here] at inside ⊢
      exact above inside

/-- The next entry of the pool is chosen if none before it is less certain. -/
theorem isLastLeast_next (inside : next.1 ∈ pool) (number : IsNumber (certainty next.2))
    (bound : ∀ entry ∈ entries, entry.1 ∈ pool → certainty next.2 ≤ certainty entry.2) :
    IsLastLeast pool (entries ++ [next]) next.1 next.2 := by
  refine ⟨inside, ?_, entries, [], rfl, by simp⟩
  intro entry member entryInside
  rcases List.mem_append.mp member with before | here
  · exact bound entry before entryInside
  · rw [List.mem_singleton.mp here]
    exact IsComparable.le_refl number

/-- There is only one such entry. -/
theorem IsLastLeast.unique {otherPoint : Point} {q : α} (isLast : IsLastLeast pool entries point p)
    (isLastToo : IsLastLeast pool entries otherPoint q) : point = otherPoint := by
  rcases isLast.exists_split with ⟨earlier, later, split, more⟩
  rcases isLastToo.exists_split with ⟨before, behind, splitToo, moreToo⟩
  have first := isLast.least _ isLastToo.mem isLastToo.mem_pool
  have second := isLastToo.least _ isLast.mem isLast.mem_pool
  rcases eq_or_mem_of_splits (split.symm.trans splitToo) with same | after | after
  · exact congrArg Prod.fst same
  · exact absurd (more _ after isLastToo.mem_pool) (IsComparable.le_iff.mp second).2.2
  · exact absurd (moreToo _ after isLast.mem_pool) (IsComparable.le_iff.mp first).2.2

end Step

/-- What the best candidate is after some entries. -/
inductive IsBest (pool : PointSet) (entries : List (Point × α)) : Option (Point × α) → Prop
  | none (outside : ∀ entry ∈ entries, entry.1 ∉ pool) : IsBest pool entries none
  | some {point : Point} {p : α} (isLast : IsLastLeast pool entries point p) :
      IsBest pool entries (some (point, certainty p))

section Run

variable [IsComplemented α] {next : Point × α} {best : Option (Point × α)}

theorem IsBest.lessCertain (isBest : IsBest pool entries best)
    (number : next.1 ∈ pool → IsNumber next.2) :
    IsBest pool (entries ++ [next]) (lessCertain pool best next) := by
  by_cases inside : next.1 ∈ pool
  · have nextNumber : IsNumber (certainty next.2) :=
      Scalar.isNumber_abs (IsComplemented.isNumber_sub_complement (number inside))
    cases isBest with
    | none outside =>
        simp only [Ensemble.lessCertain, Std.TreeSet.contains_iff_mem.mpr inside]
        apply IsBest.some
        apply isLastLeast_next inside nextNumber
        intro entry member entryInside
        exact absurd entryInside (outside entry member)
    | @some point p isLast =>
        simp only [Ensemble.lessCertain, Std.TreeSet.contains_iff_mem.mpr inside]
        by_cases atMost : certainty next.2 ≤ certainty p
        · simp only [atMost]
          apply IsBest.some
          apply isLastLeast_next inside nextNumber
          intro entry member entryInside
          exact IsComparable.le_trans atMost (isLast.least entry member entryInside)
        · simp only [atMost]
          apply IsBest.some
          apply isLast.stays
          intro _
          exact IsComparable.lt_of_not_le nextNumber isLast.isNumber atMost
  · rw [lessCertain_of_not_mem inside]
    cases isBest with
    | none outside =>
        apply IsBest.none
        rw [List.forall_mem_append, List.forall_mem_singleton]
        exact ⟨outside, inside⟩
    | some isLast => exact .some (isLast.stays fun insideToo => absurd insideToo inside)

/-- After any entries, the candidate is the last one that none of them is less certain than. -/
theorem isBest_foldl_lessCertain
    (numbers : ∀ entry ∈ entries, entry.1 ∈ pool → IsNumber entry.2) :
    IsBest pool entries (entries.foldl (Ensemble.lessCertain pool) none) := by
  induction entries using List.reverseRecOn with
  | nil => exact .none (by simp)
  | append_singleton entries next ih =>
      rw [List.forall_mem_append, List.forall_mem_singleton] at numbers
      rw [List.foldl_append, List.foldl_cons, List.foldl_nil]
      exact (ih numbers.1).lessCertain numbers.2

end Run

/-- Entries outside the pool have no part in the choice. -/
theorem foldl_lessCertain_congr (same : ∀ entry ∈ entries, (entry.1 ∈ other ↔ entry.1 ∈ pool))
    (best : Option (Point × α)) :
    entries.foldl (lessCertain other) best = entries.foldl (lessCertain pool) best := by
  apply List.foldl_ext
  intro best entry member
  have contained : other.contains entry.1 = pool.contains entry.1 := by
    rw [Bool.eq_iff_iff]
    exact same entry member
  simp only [lessCertain, contained]

/-- The point that an ensemble is least certain about is the last one of the pool whose probability
is closest to its complement. There is none only if the pool has no point of the ensemble, and it
makes no difference what else is in the pool. -/
theorem leastCertain?_isLastLeast [IsComplemented α] {ensemble : Ensemble α}
    (arises : ensemble.Arises) {pool : PointSet}
    (numbers : ∀ entry ∈ ensemble.ranking, entry.1 ∈ pool → IsNumber entry.2) :
    ensemble.ranking.map (·.1) = ensemble.domain ∧
    (ensemble.leastCertain? pool = none ↔ ∀ point ∈ ensemble.domain, point ∉ pool) ∧
    (∀ point, ensemble.leastCertain? pool = some point ↔
      ∃ p, IsLastLeast pool ensemble.ranking point p) ∧
    ∀ other : PointSet, (∀ point ∈ ensemble.domain, (point ∈ other ↔ point ∈ pool)) →
      ensemble.leastCertain? other = ensemble.leastCertain? pool := by
  refine ⟨arises.map_ranking, arises.leastCertain?_eq_none_iff, ?_, ?_⟩
  · intro point
    have isBest := isBest_foldl_lessCertain numbers
    rw [leastCertain?]
    generalize ensemble.ranking.foldl (lessCertain pool) none = best at isBest ⊢
    cases isBest with
    | none outside =>
        simp only [Option.map_none, reduceCtorEq, false_iff, not_exists]
        intro p isLast
        exact outside _ isLast.mem isLast.mem_pool
    | @some found p isLast =>
        simp only [Option.map_some, Option.some.injEq]
        constructor
        · rintro rfl
          exact ⟨p, isLast⟩
        · rintro ⟨q, isLastToo⟩
          exact isLast.unique isLastToo
  · intro other same
    rw [leastCertain?, leastCertain?, foldl_lessCertain_congr]
    intro entry member
    exact same entry.1 (List.of_mem_zip member).1

/-- The first point has been called positive so often that its probability is undefined, but it is
not in the pool. The other two are equally probable, and the last one of them is chosen. -/
theorem leastCertain?_isLastLeast_undefined_outside :
    letI := doublesWithPowers
    let image : Image :=
      ⟨[⟨.ofVertex 0, [⟨"a", 0⟩]⟩, ⟨.ofVertex 1, [⟨"a", 1⟩, ⟨"b", 0⟩]⟩]⟩
    let ensemble := (ofImage .weightedVote image .default).attempt
      (List.replicate 72 (⟨"a", 0⟩, true, .default))
    let pool : PointSet := .ofList [(⟨"a", 1⟩ : Point), ⟨"b", 0⟩, ⟨"z", 9⟩]
    ensemble.Arises ∧ ensemble.probabilities.map (fun p => p == p) = [false, true, true] ∧
      (∀ entry ∈ ensemble.ranking, entry.1 ∈ pool → IsNumber entry.2) ∧
      ensemble.leastCertain? pool = some ⟨"b", 0⟩ ∧
      ∃ p, IsLastLeast pool ensemble.ranking ⟨"b", 0⟩ p := by
  let exponentials := doublesWithPowers
  intro image ensemble pool
  have arises : ensemble.Arises := (Arises.ofImage .weightedVote image .default).attempt _
  have evaluated : ensemble.probabilities.map (fun p => p == p) = [false, true, true] ∧
      ensemble.ranking.all (fun entry => !pool.contains entry.1 || entry.2 == entry.2) = true ∧
      ensemble.leastCertain? pool = some ⟨"b", 0⟩ := by decide +kernel
  rcases evaluated with ⟨undefined, defined, chosen⟩
  have numbers : ∀ entry ∈ ensemble.ranking, entry.1 ∈ pool → IsNumber entry.2 := by
    intro entry member inside
    have either := List.all_eq_true.mp defined entry member
    rwa [Std.TreeSet.contains_iff_mem.mpr inside, Bool.not_true, Bool.false_or] at either
  rcases leastCertain?_isLastLeast arises numbers with ⟨-, -, isLastLeast, -⟩
  exact ⟨arises, undefined, numbers, chosen, (isLastLeast _).mp chosen⟩

end Ensemble

end MotifVote
