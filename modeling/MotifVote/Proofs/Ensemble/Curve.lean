import MotifVote.Proofs.Ensemble.Lessons
import MotifVote.Proofs.Scalar.Bits

/-!
# Curves and thresholds

The curve of an ensemble passes its points in descending order of their probabilities and scores all
that have been passed. Whenever the next probability is lower, the points passed are those whose
probability is at least the last one, so the score there is the one of a classification at this
threshold.

Sorting orders all values, comparisons only numbers; where no probability is undefined or minus
zero, both are the same order.
-/

namespace MotifVote

open Exponential (exp)
open Scalar (HasUnsignedExponentials IsComparable IsNumber IsProportional IsSorting IsUnsigned
  sortsBefore)

section Sets

variable {left right : PointSet}

theorem size_eq_of_mem_iff (same : ∀ point, point ∈ left ↔ point ∈ right) :
    left.size = right.size := by
  rw [← Std.TreeSet.length_toList, ← Std.TreeSet.length_toList, toList_eq_of_mem_iff same]

theorem isEmpty_eq_false {points : PointSet} (nonempty : 0 < points.size) :
    points.isEmpty = false := by
  rw [Std.TreeSet.isEmpty_eq_size_eq_zero]
  exact beq_false_of_ne nonempty.ne'

namespace Score

variable {α : Type} [Scalar α] {truth : PointSet}

/-- A score depends on which points are predicted, and not on how the set has come about. -/
theorem ofSets_congr (same : ∀ point, point ∈ left ↔ point ∈ right) (truth : PointSet) (beta : α) :
    ofSets left truth beta = ofSets right truth beta := by
  have hits : hits left truth = hits right truth := by
    rw [Score.hits, Score.hits, toList_eq_of_mem_iff same]
  have empty : left.isEmpty = right.isEmpty := by
    rw [Std.TreeSet.isEmpty_eq_size_eq_zero, Std.TreeSet.isEmpty_eq_size_eq_zero,
      size_eq_of_mem_iff same]
  simp only [ofSets, precisionOf, sensitivityOf, hits, empty, size_eq_of_mem_iff same]

theorem hits_le_size (predicted truth : PointSet) : hits predicted truth ≤ truth.size := by
  rw [hits, List.countP_eq_length_filter, ← Std.TreeSet.length_toList]
  apply List.Subperm.length_le
  apply List.subperm_of_subset ((nodup_toList predicted).filter _)
  intro point member
  rw [Std.TreeSet.mem_toList]
  simpa using List.of_mem_filter member

theorem hits_mono (subset : ∀ point ∈ left, point ∈ right) (truth : PointSet) :
    hits left truth ≤ hits right truth := by
  rw [hits, hits, List.countP_eq_length_filter, List.countP_eq_length_filter]
  apply List.Subperm.length_le
  apply List.subperm_of_subset ((nodup_toList left).filter _)
  intro point member
  rw [List.mem_filter, Std.TreeSet.mem_toList] at member ⊢
  exact ⟨subset point member.1, member.2⟩

end Score

end Sets

namespace Ensemble

section Unsigned

variable {α : Type} [Exponential α] [IsSorting α] {ensemble : Ensemble α}

theorem isUnsigned_probability (exponentials : HasUnsignedExponentials α) {divisor : α}
    {score : α × α} (number : IsNumber (WeightedVote.probability divisor score)) :
    IsUnsigned (WeightedVote.probability divisor score) := by
  have shape : WeightedVote.probability divisor score = exp (score.1 / divisor) /
      (exp (score.1 / divisor) + exp (score.2 / divisor)) := rfl
  rw [shape] at number ⊢
  rcases IsSorting.isNumber_of_div number with ⟨plusNumber, sumNumber⟩
  rcases IsSorting.isNumber_of_add sumNumber with ⟨-, minusNumber⟩
  have plus := exponentials _ plusNumber
  have minus := exponentials _ minusNumber
  exact IsSorting.isUnsigned_div plus (IsSorting.isUnsigned_add plus minus sumNumber) number

/-- No strategy makes a probability that is negative or minus zero. -/
theorem isUnsigned_of_mem_probabilities
    (exponentials : ensemble.strategy = .weightedVote → HasUnsignedExponentials α)
    (numbers : ∀ probability ∈ ensemble.probabilities, IsNumber probability) :
    ∀ probability ∈ ensemble.probabilities, IsUnsigned probability := by
  intro probability member
  have number := numbers probability member
  rcases ensemble with ⟨jury | jury | vote, _, _⟩
  · rcases List.mem_map.mp member with ⟨votes, -, rfl⟩
    split
    · exact IsSorting.isUnsigned_one
    · exact Scalar.isUnsigned_zero
  · rcases List.mem_map.mp member with ⟨votes, -, rfl⟩
    split at number
    next none =>
      rw [if_pos none]
      exact Scalar.isUnsigned_zero
    next some =>
      rw [if_neg some]
      exact IsSorting.isUnsigned_div (IsSorting.isUnsigned_natCast _)
        (IsSorting.isUnsigned_natCast _) number
  · rcases List.mem_map.mp member with ⟨score, -, rfl⟩
    exact isUnsigned_probability (exponentials rfl) number

end Unsigned

section Passing

variable {α : Type} [Exponential α] {truth before : PointSet} {entries : List (Point × α)}

def passed (before : PointSet) (points : List Point) : PointSet :=
  points.foldl (fun seen point => seen.insert point) before

theorem mem_passed_iff {points : List Point} {point : Point} :
    point ∈ passed before points ↔ point ∈ before ∨ point ∈ points := by
  induction points generalizing before with
  | nil => simp [passed]
  | cons first points ih =>
      have step : passed before (first :: points) = passed (before.insert first) points := rfl
      rw [step, ih, Std.TreeSet.mem_insert, Std.LawfulEqCmp.compare_eq_iff_eq, List.mem_cons]
      tauto

theorem map_curveFrom (truth before : PointSet) (entries : List (Point × α)) :
    (curveFrom truth before entries).map (fun step => (step.point, step.ranking)) = entries := by
  induction entries generalizing before with
  | nil => rfl
  | cons entry entries ih =>
      rcases entry with ⟨point, ranking⟩
      simp [curveFrom, ih]

/-- Each step scores the points up to it. -/
theorem score_of_curveFrom_eq_append (nonempty : truth.isEmpty = false)
    {earlier later : List (CurvePoint α)} {step : CurvePoint α}
    (split : curveFrom truth before entries = earlier ++ step :: later) :
    let points := passed before ((earlier ++ [step]).map (·.point))
    step.precision = Score.precisionOf points truth ∧
      step.sensitivity = Score.sensitivityOf points truth := by
  induction earlier generalizing before entries with
  | nil =>
      rcases entries with _ | ⟨⟨point, ranking⟩, entries⟩
      · cases split
      · simp only [curveFrom, nonempty, List.nil_append, List.cons.injEq] at split
        rcases split with ⟨rfl, -⟩
        exact ⟨rfl, rfl⟩
  | cons first earlier ih =>
      rcases entries with _ | ⟨⟨point, ranking⟩, entries⟩
      · cases split
      · simp only [curveFrom, nonempty, List.cons_append, List.cons.injEq] at split
        rcases split with ⟨rfl, rest⟩
        exact ih rest

end Passing

section Recall

variable {α : Type} [Exponential α] [IsProportional α] {truth before : PointSet}
variable {entries : List (Point × α)}

theorem sensitivityOf_mono {left right : PointSet} (subset : ∀ point ∈ left, point ∈ right)
    (nonempty : 0 < truth.size) (bounded : truth.size ≤ UInt64.size) :
    (Score.sensitivityOf left truth : α) ≤ Score.sensitivityOf right truth :=
  IsProportional.div_mono (Score.hits_mono subset truth) (Score.hits_le_size right truth) nonempty
    bounded

theorem sensitivityOf_le_of_mem_curveFrom (nonempty : 0 < truth.size)
    (bounded : truth.size ≤ UInt64.size) :
    ∀ step ∈ curveFrom truth before entries,
      Score.sensitivityOf before truth ≤ step.sensitivity := by
  intro step member
  have some := isEmpty_eq_false nonempty
  rcases List.append_of_mem member with ⟨earlier, later, split⟩
  rw [(score_of_curveFrom_eq_append some split).2]
  apply sensitivityOf_mono _ nonempty bounded
  intro point inside
  exact mem_passed_iff.mpr (Or.inl inside)

/-- What has been passed is not lost, so recall does not fall. -/
theorem pairwise_sensitivity_curveFrom (nonempty : 0 < truth.size)
    (bounded : truth.size ≤ UInt64.size) (entries : List (Point × α)) :
    (curveFrom truth before entries).Pairwise fun step later =>
      step.sensitivity ≤ later.sensitivity := by
  induction entries generalizing before with
  | nil => exact List.Pairwise.nil
  | cons entry entries ih =>
      rcases entry with ⟨point, ranking⟩
      have some := isEmpty_eq_false nonempty
      simp only [curveFrom, some]
      refine List.Pairwise.cons ?_ ih
      intro later member
      exact sensitivityOf_le_of_mem_curveFrom nonempty bounded later member

end Recall

section Ranked

variable {α : Type} [Exponential α] {ensemble : Ensemble α}

theorem ranked_perm (ensemble : Ensemble α) : ensemble.ranked.Perm ensemble.ranking :=
  List.mergeSort_perm _ _

variable [IsSorting α] (unsigned : ∀ entry ∈ ensemble.ranking, IsUnsigned entry.2)

include unsigned

theorem descending_ranked :
    ensemble.ranked.Pairwise fun entry later => later.2 ≤ entry.2 := by
  have sorted : ensemble.ranked.Pairwise fun entry later => sortsBefore later.2 entry.2 = true := by
    apply List.pairwise_mergeSort
    · intro first second third left right
      exact IsSorting.sortsBefore_trans _ _ _ right left
    · intro first second
      exact IsSorting.sortsBefore_total _ _
  apply sorted.imp_of_mem
  intro entry later member laterMember order
  have first := unsigned entry ((ranked_perm ensemble).mem_iff.mp member)
  have second := unsigned later ((ranked_perm ensemble).mem_iff.mp laterMember)
  exact (IsSorting.sortsBefore_iff_le second first).mp order

/-- Sorting keeps the order of points that are equally probable. -/
theorem filter_ranked (level : α) :
    ensemble.ranked.filter (fun entry => entry.2 ≤ level ∧ level ≤ entry.2) =
      ensemble.ranking.filter fun entry => entry.2 ≤ level ∧ level ≤ entry.2 := by
  have equal : (ensemble.ranking.filter fun entry =>
      entry.2 ≤ level ∧ level ≤ entry.2).Pairwise
        fun entry later => sortsBefore later.2 entry.2 = true := by
    apply List.pairwise_of_forall_mem_list
    intro entry member later laterMember
    simp only [List.mem_filter, decide_eq_true_eq] at member laterMember
    apply (IsSorting.sortsBefore_iff_le (unsigned later laterMember.1)
      (unsigned entry member.1)).mpr
    exact IsComparable.le_trans laterMember.2.1 member.2.2
  have kept : (ensemble.ranking.filter fun entry => entry.2 ≤ level ∧ level ≤ entry.2).Sublist
      ensemble.ranked := by
    apply List.sublist_mergeSort
    · intro first second third left right
      exact IsSorting.sortsBefore_trans _ _ _ right left
    · intro first second
      exact IsSorting.sortsBefore_total _ _
    · exact equal
    · exact List.filter_sublist
  have among := kept.filter fun entry => entry.2 ≤ level ∧ level ≤ entry.2
  rw [List.filter_filter] at among
  simp only [Bool.and_self] at among
  exact (among.eq_of_length ((ranked_perm ensemble).filter _).length_eq.symm).symm

end Ranked

section Curve

variable {α : Type} [Exponential α] {ensemble : Ensemble α} {truth : PointSet} {beta : α}

/-- A curve passes the points of an ensemble in descending order, and scores what the ensemble
classifies at the thresholds of the curve. -/
structure Traces (ensemble : Ensemble α) (truth : PointSet) (beta : α)
    (curve : List (CurvePoint α)) : Prop where
  nodup : ensemble.domain.Nodup
  points : (curve.map (·.point)).Perm ensemble.domain
  ranking : (curve.map fun step => (step.point, step.ranking)).Perm ensemble.ranking
  descending : curve.Pairwise fun step later => later.ranking ≤ step.ranking
  /-- Points that are equally probable stand in the order of the ensemble. -/
  stable : ∀ level : α,
    ((curve.filter fun step => step.ranking ≤ level ∧ level ≤ step.ranking).map
      (·.point)).Sublist ensemble.domain
  sensitivity : curve.Pairwise fun step later => step.sensitivity ≤ later.sensitivity
  /-- Where the ranking changes, and at the end. -/
  classified : ∀ earlier step later, curve = earlier ++ step :: later →
    (∀ next ∈ later.head?, next.ranking ≠ step.ranking) →
      (∀ point, point ∈ (earlier ++ [step]).map (·.point) ↔
        point ∈ ensemble.classifiedSet (some step.ranking)) ∧
      step.precision =
        (Score.ofSets (ensemble.classifiedSet (some step.ranking)) truth beta).precision ∧
      step.sensitivity =
        (Score.ofSets (ensemble.classifiedSet (some step.ranking)) truth beta).sensitivity
  last : ∀ step ∈ curve.getLast?, step.sensitivity =
    ((ensemble.domain.countP truth.contains : Nat) : α) / ((truth.size : Nat) : α)

theorem Arises.nodup_domain (arises : ensemble.Arises) : ensemble.domain.Nodup := by
  induction arises with
  | ofImage strategy image config =>
      rw [domain, matrix_ofImage]
      exact image.nodup_distinctDomain
  | update _ learned ih => rwa [domain_update learned]

theorem mem_classifiedSet_iff {threshold : α} {point : Point} :
    point ∈ ensemble.classifiedSet (some threshold) ↔
      ∃ p, (point, p) ∈ ensemble.ranking ∧ threshold ≤ p := by
  rw [classifiedSet, Std.TreeSet.mem_ofList, List.contains_iff_mem, mem_classified_iff]
  rfl

theorem map_curve (ensemble : Ensemble α) (truth : PointSet) :
    (ensemble.curve truth).map (fun step => (step.point, step.ranking)) = ensemble.ranked :=
  map_curveFrom truth ∅ ensemble.ranked

theorem mem_ranking_iff_exists_step (truth : PointSet) {point : Point} {p : α} :
    (point, p) ∈ ensemble.ranking ↔
      ∃ step ∈ ensemble.curve truth, step.point = point ∧ step.ranking = p := by
  rw [← (ranked_perm ensemble).mem_iff, ← map_curve ensemble truth, List.mem_map]
  simp only [Prod.mk.injEq]

section Unsigned

variable [IsSorting α] (unsigned : ∀ entry ∈ ensemble.ranking, IsUnsigned entry.2)

include unsigned

theorem descending_curve : (ensemble.curve truth).Pairwise fun step later =>
    later.ranking ≤ step.ranking := by
  have ranked := descending_ranked unsigned
  rw [← map_curve ensemble truth, List.pairwise_map] at ranked
  exact ranked

/-- Where the ranking falls, no later point reaches the threshold. -/
theorem mem_classifiedSet_iff_of_split {earlier later : List (CurvePoint α)} {step : CurvePoint α}
    (split : ensemble.curve truth = earlier ++ step :: later)
    (falls : ∀ next ∈ later.head?, next.ranking ≠ step.ranking) (point : Point) :
    point ∈ ensemble.classifiedSet (some step.ranking) ↔
      point ∈ (earlier ++ [step]).map (·.point) := by
  have descending : (ensemble.curve truth).Pairwise _ := descending_curve unsigned
  have unsignedStep : ∀ other ∈ ensemble.curve truth, IsUnsigned other.ranking := by
    intro other member
    exact unsigned _ ((mem_ranking_iff_exists_step truth).mpr ⟨other, member, rfl, rfl⟩)
  rw [mem_classifiedSet_iff]
  simp only [mem_ranking_iff_exists_step truth]
  rw [split] at descending unsignedStep ⊢
  rw [List.pairwise_append, List.pairwise_cons] at descending
  rcases descending with ⟨-, ⟨atLeast, descending⟩, atMost⟩
  constructor
  · rintro ⟨_, ⟨other, member, rfl, rfl⟩, reached⟩
    rcases List.mem_append.mp member with before | member
    · exact List.mem_map_of_mem (List.mem_append_left _ before)
    · rcases List.mem_cons.mp member with rfl | after
      · exact List.mem_map_of_mem (by simp)
      · -- The next ranking would lie between this one and the threshold, and be the same.
        rcases later with _ | ⟨next, later⟩
        · cases after
        · exfalso
          apply falls next rfl
          have below : step.ranking ≤ next.ranking := by
            rcases List.mem_cons.mp after with rfl | behind
            · exact reached
            · exact IsComparable.le_trans reached
                ((List.pairwise_cons.mp descending).1 other behind)
          exact (unsignedStep next (by simp)).le_antisymm (unsignedStep step (by simp))
            (atLeast next (by simp)) below
  · intro listed
    rcases List.mem_map.mp listed with ⟨other, member, rfl⟩
    rcases List.mem_append.mp member with before | here
    · exact ⟨_, ⟨other, List.mem_append_left _ before, rfl, rfl⟩,
        atMost other before step List.mem_cons_self⟩
    · rw [List.mem_singleton.mp here]
      exact ⟨_, ⟨step, by simp, rfl, rfl⟩,
        IsComparable.le_refl (unsignedStep step (by simp)).isNumber⟩

theorem stable_curve (arises : ensemble.Arises) (level : α) :
    (((ensemble.curve truth).filter fun step =>
      step.ranking ≤ level ∧ level ≤ step.ranking).map (·.point)).Sublist ensemble.domain := by
  have pairs : ((ensemble.curve truth).filter fun step =>
      step.ranking ≤ level ∧ level ≤ step.ranking).map (fun step => (step.point, step.ranking)) =
        ensemble.ranking.filter fun entry => entry.2 ≤ level ∧ level ≤ entry.2 := by
    rw [← filter_ranked unsigned level, ← map_curve ensemble truth, List.filter_map]
    rfl
  have kept : (ensemble.ranking.filter fun entry =>
      entry.2 ≤ level ∧ level ≤ entry.2).Sublist ensemble.ranking := List.filter_sublist
  rw [← pairs] at kept
  have points := kept.map (·.1)
  rw [List.map_map, arises.map_ranking] at points
  exact points

end Unsigned

theorem points_curve (arises : ensemble.Arises) (truth : PointSet) :
    ((ensemble.curve truth).map (·.point)).Perm ensemble.domain := by
  have pairs := ranked_perm ensemble
  rw [← map_curve ensemble truth] at pairs
  have points := pairs.map (·.1)
  rw [List.map_map, arises.map_ranking] at points
  exact points

theorem last_curve (arises : ensemble.Arises) (nonempty : truth.isEmpty = false) :
    ∀ step ∈ (ensemble.curve truth).getLast?, step.sensitivity =
      ((ensemble.domain.countP truth.contains : Nat) : α) / ((truth.size : Nat) : α) := by
  intro step last
  rcases List.getLast?_eq_some_iff.mp last with ⟨earlier, split⟩
  have points := points_curve arises truth
  -- The last step has passed all points.
  have listed : (passed ∅ ((earlier ++ [step]).map (·.point))).toList.Perm ensemble.domain := by
    refine (List.perm_ext_iff_of_nodup (nodup_toList _) arises.nodup_domain).mpr ?_
    intro point
    rw [Std.TreeSet.mem_toList, mem_passed_iff, ← split, points.mem_iff]
    simp
  rw [(score_of_curveFrom_eq_append nonempty split).2, Score.sensitivityOf, Score.hits,
    listed.countP_eq]

/-- Whatever an ensemble has learned, as long as no probability is undefined its curve agrees with
its classifications, and recall never falls along it. A weighted vote relies on an exponential
function whose values are neither negative nor minus zero. The size of a set has 64 bits. -/
theorem traces_curve [IsSorting α] [IsProportional α] (arises : ensemble.Arises)
    (exponentials : ensemble.strategy = .weightedVote → HasUnsignedExponentials α)
    (numbers : ∀ probability ∈ ensemble.probabilities, IsNumber probability)
    (nonempty : 0 < truth.size) (bounded : truth.size ≤ UInt64.size) (beta : α) :
    ensemble.Traces truth beta (ensemble.curve truth) := by
  have some := isEmpty_eq_false nonempty
  have unsigned : ∀ entry ∈ ensemble.ranking, IsUnsigned entry.2 := by
    intro entry member
    exact isUnsigned_of_mem_probabilities exponentials numbers _ (List.of_mem_zip member).2
  refine ⟨arises.nodup_domain, points_curve arises truth, ?_, descending_curve unsigned,
    stable_curve unsigned arises, pairwise_sensitivity_curveFrom nonempty bounded _, ?_,
    last_curve arises some⟩
  · rw [map_curve]
    exact ranked_perm ensemble
  · intro earlier step later split falls
    have members := mem_classifiedSet_iff_of_split unsigned split falls
    rcases score_of_curveFrom_eq_append some split with ⟨precision, sensitivity⟩
    have same : Score.ofSets (passed ∅ ((earlier ++ [step]).map (·.point))) truth beta =
        Score.ofSets (ensemble.classifiedSet (Option.some step.ranking)) truth beta := by
      apply Score.ofSets_congr
      intro point
      rw [members point, mem_passed_iff]
      simp
    rw [← same]
    exact ⟨fun point => (members point).symm, precision, sensitivity⟩

/-- Doubles with the exponentials of zero, one half, one and ten. What is given for other arguments
has no meaning. -/
@[reducible]
def doublesWithExponentials : Exponential Float where
  exp x :=
    if x == 0.0 then 1.0
    else if x == 0.5 then 1.6487212707001282
    else if x == 1.0 then 2.718281828459045
    else 22026.465794806718
  pow _ _ := 1.0

/-- Of two motifs each selects a point of its own, and both select a third one, which has been
called positive. The other two are equally probable. -/
theorem traces_curve_of_tie :
    letI := doublesWithExponentials
    let image : Image :=
      ⟨[⟨.ofVertex 0, [⟨"a", 0⟩, ⟨"a", 1⟩]⟩, ⟨.ofVertex 1, [⟨"a", 1⟩, ⟨"b", 0⟩]⟩]⟩
    let truth : PointSet := .ofList [(⟨"a", 0⟩ : Point), ⟨"b", 1⟩]
    let ensemble := (ofImage .weightedVote image .default).attempt [(⟨"a", 1⟩, true, .default)]
    ensemble.strategy = .weightedVote ∧ HasUnsignedExponentials Float ∧ truth.size = 2 ∧
      ensemble.ranking = [(⟨"a", 0⟩, 0.5), (⟨"a", 1⟩, 0.7310585786300049), (⟨"b", 0⟩, 0.5)] ∧
      ensemble.Traces truth 1 (ensemble.curve truth) := by
  let exponentials := doublesWithExponentials
  intro image truth ensemble
  have unsigned : HasUnsignedExponentials Float := by
    intro x _
    apply isUnsigned_double_iff.mpr
    apply IsPositive.hasPlus
    apply double_pos_iff.mp
    simp only [exponentials, exp]
    split_ifs <;> decide +kernel
  have size : truth.size = 2 := by decide +kernel
  have defined : ensemble.probabilities.all (fun p => p == p) = true := by decide +kernel
  have arises : ensemble.Arises := (Arises.ofImage .weightedVote image .default).attempt _
  refine ⟨by decide +kernel, unsigned, size, by decide +kernel, ?_⟩
  refine traces_curve arises (fun _ => unsigned) (fun p => List.all_eq_true.mp defined p) ?_ ?_ 1
  · rw [size]
    decide
  · rw [size]
    decide

end Curve

end Ensemble

end MotifVote
