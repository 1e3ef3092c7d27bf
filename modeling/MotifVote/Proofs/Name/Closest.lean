import MotifVote.Name.Closest
import MotifVote.Scalar
import MotifVote.Proofs.Name.Distance
import Mathlib.Data.List.Induction
import Mathlib.Data.Rat.Cast.Order
import Mathlib.Tactic.Linarith

/-!
# The closest name

With rational scores a candidate is close enough to a name exactly if five times the edits between
them are at most twice the length of the longer one. Of the candidates that are, the first with the
highest score is taken. The others might as well not be there.
-/

namespace MotifVote.Name

section Score

/-- The least number of edits between two names in lower case. -/
noncomputable def editsBetween (left right : String) : Nat :=
  leastEdits (Text.lower left) (Text.lower right)

/-- The length of the longer of two names in lower case. -/
def longerLength (left right : String) : Nat :=
  max (Text.lower left).length (Text.lower right).length

/-- No more than two edits for every five characters. -/
def IsClose (name candidate : String) : Prop :=
  5 * editsBetween name candidate ≤ 2 * longerLength name candidate

/-- One less the edits in parts of the longer name, and one for two empty names. -/
noncomputable def score (name candidate : String) : ℚ :=
  if longerLength name candidate = 0 then 1
  else 1 - (editsBetween name candidate : ℚ) / longerLength name candidate

instance (name candidate : String) : Decidable (IsClose name candidate) :=
  decidable_of_iff
    (5 * editDistance (Text.lower name) (Text.lower candidate) ≤ 2 * longerLength name candidate)
    (by rw [IsClose, editsBetween, leastEdits_eq_editDistance])

theorem leastEdits_eq_zero_iff {α : Type} [DecidableEq α] {left right : List α} :
    leastEdits left right = 0 ↔ left = right := by
  constructor
  · intro none
    have least := (isLeast_editDistance left right).1
    rw [← leastEdits_eq_editDistance, none] at least
    cases least
    rfl
  · rintro rfl
    exact Nat.eq_zero_of_le_zero (Nat.sInf_le (.none left))

variable {name candidate : String}

theorem editsBetween_eq_zero_iff :
    editsBetween name candidate = 0 ↔ Text.lower name = Text.lower candidate :=
  leastEdits_eq_zero_iff

theorem editsBetween_of_longerLength_eq_zero (empty : longerLength name candidate = 0) :
    editsBetween name candidate = 0 := by
  have bothEmpty := Nat.max_eq_zero_iff.mp empty
  rw [editsBetween_eq_zero_iff, List.eq_nil_of_length_eq_zero bothEmpty.1,
    List.eq_nil_of_length_eq_zero bothEmpty.2]

/-- Nothing is divided by zero in the end, because there are no edits between empty names. -/
theorem score_eq (name candidate : String) :
    score name candidate = 1 - (editsBetween name candidate : ℚ) / longerLength name candidate := by
  rw [score]
  split
  next empty => rw [editsBetween_of_longerLength_eq_zero empty, Nat.cast_zero, zero_div, sub_zero]
  next => rfl

theorem similarity_eq_score (name candidate : String) :
    similarity ℚ name candidate = score name candidate := by
  rw [score, editsBetween, leastEdits_eq_editDistance]
  rfl

theorem score_le_one (name candidate : String) : score name candidate ≤ 1 := by
  rw [score_eq]
  exact sub_le_self 1 (div_nonneg (Nat.cast_nonneg _) (Nat.cast_nonneg _))

theorem score_eq_one_iff : score name candidate = 1 ↔ Text.lower name = Text.lower candidate := by
  rw [← editsBetween_eq_zero_iff, score_eq, sub_eq_self, div_eq_zero_iff, Nat.cast_eq_zero,
    Nat.cast_eq_zero, or_iff_left_iff_imp]
  exact editsBetween_of_longerLength_eq_zero

theorem score_lt_cutoff_iff : score name candidate < cutoff ℚ ↔ ¬IsClose name candidate := by
  have threeFifths : cutoff ℚ = 3 / 5 := rfl
  rw [threeFifths, score_eq, IsClose, not_le]
  rcases Nat.eq_zero_or_pos (longerLength name candidate) with empty | positive
  · rw [empty, editsBetween_of_longerLength_eq_zero empty]
    norm_num
  · have length : (0 : ℚ) < longerLength name candidate := Nat.cast_pos.mpr positive
    have scaled : 1 - (editsBetween name candidate : ℚ) / longerLength name candidate < 3 / 5 ↔
        (2 / 5 : ℚ) < editsBetween name candidate / longerLength name candidate := by
      constructor <;> intro less <;> linarith
    rw [scaled, div_lt_div_iff₀ (by norm_num) length, mul_comm (editsBetween name candidate : ℚ)]
    exact_mod_cast Iff.rfl

end Score

section Choice

/-- A close candidate that scores higher than all close ones before it, and no less than all close
ones after it. -/
def IsFirstBest (name : String) (candidates : List String) (chosen : String) : Prop :=
  ∃ before after, candidates = before ++ chosen :: after ∧ IsClose name chosen ∧
    (∀ other ∈ before, IsClose name other → score name other < score name chosen) ∧
    ∀ other ∈ after, IsClose name other → score name other ≤ score name chosen

variable {name chosen : String} {candidates : List String}

theorem closer_eq (name : String) (best : Option (String × ℚ)) (candidate : String) :
    closer ℚ name best candidate =
      if IsClose name candidate then
        match best with
        | none => some (candidate, score name candidate)
        | some (_, top) =>
          if score name candidate > top then some (candidate, score name candidate) else best
      else best := by
  simp only [closer, similarity_eq_score]
  by_cases close : IsClose name candidate
  · rw [if_pos close, if_neg (score_lt_cutoff_iff.not.mpr (not_not.mpr close))]
    rcases best with _ | ⟨chosen, top⟩
    · rfl
    · by_cases higher : score name candidate > top
      · exact (if_pos higher).trans (if_pos higher).symm
      · exact (if_neg higher).trans (if_neg higher).symm
  · rw [if_neg close, if_pos (score_lt_cutoff_iff.mpr close)]

/-- Candidates that are not close enough play no part. -/
theorem closest?_filter (name : String) (candidates : List String) :
    closest? ℚ name (candidates.filter fun candidate => IsClose name candidate) =
      closest? ℚ name candidates := by
  rw [closest?, closest?, List.foldl_filter]
  congr 2
  funext best candidate
  by_cases close : IsClose name candidate
  · simp [close]
  · simp [close, closer_eq]

theorem IsFirstBest.unique {other : String} (first : IsFirstBest name candidates chosen)
    (second : IsFirstBest name candidates other) : chosen = other := by
  rcases first with ⟨before, after, split, close, lower, noHigher⟩
  rcases second with ⟨before', after', split', close', lower', noHigher'⟩
  rw [split] at split'
  rcases List.append_eq_append_iff.mp split' with ⟨between, here, rest⟩ | ⟨between, here, rest⟩
  · rcases between with _ | ⟨_, between⟩
    · exact (List.cons.inj rest).1
    · rcases List.cons.inj rest with ⟨rfl, later⟩
      have less := lower' chosen (by simp [here]) close
      exact absurd less (not_lt.mpr (noHigher other (by simp [later]) close'))
  · rcases between with _ | ⟨_, between⟩
    · exact (List.cons.inj rest).1.symm
    · rcases List.cons.inj rest with ⟨rfl, later⟩
      have less := lower other (by simp [here]) close'
      exact absurd less (not_lt.mpr (noHigher' chosen (by simp [later]) close))

/-- What the best candidate so far is, after some candidates. -/
def IsBestSoFar (name : String) (candidates : List String) : Option (String × ℚ) → Prop
  | none => ∀ candidate ∈ candidates, ¬IsClose name candidate
  | some (chosen, top) => top = score name chosen ∧ IsFirstBest name candidates chosen

theorem IsFirstBest.snoc {next : String} (best : IsFirstBest name candidates chosen)
    (atMost : IsClose name next → score name next ≤ score name chosen) :
    IsFirstBest name (candidates ++ [next]) chosen := by
  rcases best with ⟨before, after, rfl, close, lower, noHigher⟩
  refine ⟨before, after ++ [next], by simp, close, lower, ?_⟩
  intro other member
  rcases List.mem_append.mp member with earlier | last
  · exact noHigher other earlier
  · rw [List.mem_singleton.mp last]
    exact atMost

theorem isFirstBest_last {next : String} (close : IsClose name next)
    (higher : ∀ other ∈ candidates, IsClose name other → score name other < score name next) :
    IsFirstBest name (candidates ++ [next]) next :=
  ⟨candidates, [], rfl, close, higher, by simp⟩

theorem IsFirstBest.score_le {other : String} (best : IsFirstBest name candidates chosen)
    (member : other ∈ candidates) (close : IsClose name other) :
    score name other ≤ score name chosen := by
  rcases best with ⟨before, after, rfl, -, lower, noHigher⟩
  rcases List.mem_append.mp member with earlier | behind
  · exact (lower other earlier close).le
  · rcases List.mem_cons.mp behind with rfl | later
    · exact le_refl _
    · exact noHigher other later close

theorem IsBestSoFar.closer {best : Option (String × ℚ)} (isBest : IsBestSoFar name candidates best)
    (next : String) : IsBestSoFar name (candidates ++ [next]) (closer ℚ name best next) := by
  rw [closer_eq]
  by_cases close : IsClose name next
  · rw [if_pos close]
    rcases best with _ | ⟨chosen, top⟩
    · refine ⟨rfl, isFirstBest_last close ?_⟩
      intro other member isClose
      exact absurd isClose (isBest other member)
    · rcases isBest with ⟨rfl, first⟩
      dsimp only
      split
      next higher =>
        refine ⟨rfl, isFirstBest_last close ?_⟩
        intro other member isClose
        exact (first.score_le member isClose).trans_lt higher
      next notHigher => exact ⟨rfl, first.snoc fun _ => not_lt.mp notHigher⟩
  · rw [if_neg close]
    rcases best with _ | ⟨chosen, top⟩
    · intro candidate member
      rcases List.mem_append.mp member with earlier | last
      · exact isBest candidate earlier
      · rwa [List.mem_singleton.mp last]
    · exact ⟨isBest.1, isBest.2.snoc fun isClose => absurd isClose close⟩

theorem isBestSoFar_foldl (name : String) (candidates : List String) :
    IsBestSoFar name candidates (candidates.foldl (closer ℚ name) none) := by
  induction candidates using List.reverseRecOn with
  | nil => simp [IsBestSoFar]
  | append_singleton candidates next ih =>
      rw [List.foldl_append]
      exact ih.closer next

theorem closest?_eq_none_iff :
    closest? ℚ name candidates = none ↔ ∀ candidate ∈ candidates, ¬IsClose name candidate := by
  have isBest := isBestSoFar_foldl name candidates
  rw [closest?, Option.map_eq_none_iff]
  rcases found : candidates.foldl (closer ℚ name) none with _ | ⟨chosen, top⟩
  · rw [found] at isBest
    exact iff_of_true rfl isBest
  · rw [found] at isBest
    rcases isBest with ⟨-, before, after, rfl, close, -⟩
    exact iff_of_false (by simp) fun far => far chosen (by simp) close

theorem closest?_eq_some_iff :
    closest? ℚ name candidates = some chosen ↔ IsFirstBest name candidates chosen := by
  have isBest := isBestSoFar_foldl name candidates
  rw [closest?, Option.map_eq_some_iff]
  rcases found : candidates.foldl (closer ℚ name) none with _ | ⟨best, top⟩
  · rw [found] at isBest
    refine iff_of_false (by simp) ?_
    rintro ⟨before, after, rfl, close, -⟩
    exact isBest chosen (by simp) close
  · rw [found] at isBest
    constructor
    · rintro ⟨_, same, rfl⟩
      cases same
      exact isBest.2
    · intro first
      exact ⟨_, rfl, isBest.2.unique first⟩

/-- Nothing scores higher than the name itself, and only what is the same in lower case scores as
high. -/
theorem isFirstBest_of_find? {same : String}
    (found : candidates.find? (fun candidate => Text.lower name = Text.lower candidate) =
      some same) : IsFirstBest name candidates same := by
  rcases List.find?_eq_some_iff_append.mp found with ⟨equal, before, after, split, different⟩
  have full : score name same = 1 := score_eq_one_iff.mpr (of_decide_eq_true equal)
  have close : IsClose name same := by
    rw [IsClose, editsBetween_eq_zero_iff.mpr (of_decide_eq_true equal)]
    exact Nat.zero_le _
  refine ⟨before, after, split, close, ?_, ?_⟩
  · intro other member _
    have notEqual : ¬Text.lower name = Text.lower other := by simpa using different other member
    rw [full]
    exact lt_of_le_of_ne (score_le_one name other) (mt score_eq_one_iff.mp notEqual)
  · intro other _ _
    rw [full]
    exact score_le_one name other

/-- With rational scores, no candidate is taken exactly if none is close to the name, where
closeness is a matter of whole numbers; else it is the first of the close candidates with the
highest score. So a candidate that is the name up to case is taken if it is the first of its kind,
and lists with the same close candidates give the same answer. -/
theorem closest?_resolves (name : String) (candidates : List String) :
    (closest? ℚ name candidates = none ↔
      ∀ candidate ∈ candidates,
        ¬5 * editsBetween name candidate ≤ 2 * longerLength name candidate) ∧
    (∀ chosen, closest? ℚ name candidates = some chosen ↔ IsFirstBest name candidates chosen) ∧
    (∀ same, candidates.find? (fun candidate => Text.lower name = Text.lower candidate) =
      some same → closest? ℚ name candidates = some same) ∧
    ∀ others, candidates.filter (fun candidate => IsClose name candidate) =
      others.filter (fun candidate => IsClose name candidate) →
        closest? ℚ name candidates = closest? ℚ name others := by
  refine ⟨closest?_eq_none_iff, fun _ => closest?_eq_some_iff, ?_, ?_⟩
  · intro same found
    exact closest?_eq_some_iff.mpr (isFirstBest_of_find? found)
  · intro others alike
    rw [← closest?_filter, alike, closest?_filter]

/-- Two edits in five characters are just close enough. Of two candidates that are the name up to
case, the first is taken, and one that is not close makes no difference. -/
theorem closest?_resolves_track :
    ¬IsClose "TRACK" "exam" ∧ IsClose "TRACK" "train" ∧
      closest? ℚ "TRACK" ["exam", "train"] = some "train" ∧
      closest? ℚ "TRACK" ["train", "Track", "exam", "track"] = some "Track" ∧
      closest? ℚ "TRACK" ["train", "Track", "exam", "track"] =
        closest? ℚ "TRACK" ["train", "Track", "track"] := by
  have far : ¬IsClose "TRACK" "exam" := by decide +kernel
  have close : IsClose "TRACK" "train" := by decide +kernel
  refine ⟨far, close, ?_, ?_, ?_⟩
  · refine ((closest?_resolves _ _).2.1 _).mpr ⟨["exam"], [], rfl, close, ?_, by simp⟩
    intro other member isClose
    rw [List.mem_singleton.mp member] at isClose
    exact absurd isClose far
  · exact (closest?_resolves _ _).2.2.1 _ (by decide +kernel)
  · exact (closest?_resolves _ _).2.2.2 _ (by decide +kernel)

end Choice

end MotifVote.Name
