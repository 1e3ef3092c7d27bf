import MotifVote.Proofs.Ensemble.Extension
import MotifVote.Proofs.Ensemble.Tally
import MotifVote.Proofs.Scalar.Quotient

/-!
# Majority votes and disjunctions

A majority vote and a disjunction that have seen the same labels have the same relevant motifs. The
one says how many of them select a point, the other whether any of them does. So a majority vote is
certain of a point only if all relevant motifs select it, and it excludes the same points as the
disjunction.

The number of relevant motifs is only divided by if there are any. The number of labels is smoothed
before it is divided by, and a negative smoothing can make it zero.
-/

namespace MotifVote

open InclusionMatrix (entries)
open Scalar (Counts IsComparable IsProbability IsProportional)

section Columns

variable {row relevant : List Bool}

theorem count_zipWith_and_le (row relevant : List Bool) :
    (List.zipWith and row relevant).count true ≤ relevant.count true := by
  induction relevant generalizing row with
  | nil => simp
  | cons counts relevant ih =>
      rcases row with _ | ⟨selects, row⟩
      · simp
      · rw [List.zipWith_cons_cons, List.count_cons, List.count_cons]
        refine Nat.add_le_add (ih row) ?_
        cases selects <;> cases counts <;> decide

theorem count_zipWith_and_eq_iff :
    (List.zipWith and row relevant).count true = relevant.count true ↔
      ∀ column : Nat, relevant[column]? = some true → row[column]? = some true := by
  induction row generalizing relevant with
  | nil => simp [eq_comm, List.count_eq_zero, List.mem_iff_getElem?]
  | cons selects row ih =>
      rcases relevant with _ | ⟨counts, relevant⟩
      · simp
      · have atMost := count_zipWith_and_le row relevant
        rw [List.zipWith_cons_cons, List.count_cons, List.count_cons, ← Nat.and_forall_add_one]
        simp only [List.getElem?_cons_zero, List.getElem?_cons_succ, Option.some.injEq, ← ih]
        cases selects <;> cases counts <;> simp
        omega

end Columns

namespace Jury

section Division

variable {α : Type} [Scalar α]

/-- What a jury divides by: the number of its relevant motifs if there are any, and the smoothed
number of its observations if there are any. -/
def divisors (jury : Jury α) : List α :=
  (if jury.relevantCount = 0 then [] else [((jury.relevantCount : Nat) : α)]) ++
    if jury.observations = [] then []
    else [((jury.observations.length : Nat) : α) + jury.smoothing]

/-- Every accuracy and every probability is a quotient with one of some divisors, unless nothing is
divided. -/
structure DividesBy (jury : Jury α) (divisors : List α) : Prop where
  accuracies : ∀ accuracy ∈ jury.accuracies, accuracy = 1 ∨
    ∃ right : Nat, ∃ divisor ∈ divisors, accuracy = ((right : α) + jury.smoothing) / divisor
  majority : ∀ part ∈ jury.majority, part = 0 ∨
    ∃ votes : Nat, ∃ divisor ∈ divisors, part = (votes : α) / divisor

/-- Some motif is relevant, and all relevant motifs select a point. -/
def IsUnanimous (jury : Jury α) (point : Point) : Prop :=
  (∃ column : Nat, jury.relevant[column]? = some true) ∧
    ∀ column : Nat, jury.relevant[column]? = some true → jury.matrix.selects point column = true

/-- The part of the relevant motifs that select a point with some row. -/
def part (jury : Jury α) (row : List Bool) : α :=
  if jury.relevantCount = 0 then 0
  else ((jury.votesFor row : Nat) : α) / ((jury.relevantCount : Nat) : α)

def certainty (jury : Jury α) (row : List Bool) : α := if jury.votesFor row > 0 then 1 else 0

variable {config : Config α} {image : Image} {labels : List (Point × Bool)} {jury : Jury α}
variable {point : Point}

theorem HasLearned.isUnanimous_iff (learned : jury.HasLearned image config labels)
    (known : point ∈ image.distinctDomain) :
    jury.IsUnanimous point ↔
      0 < jury.relevantCount ∧ jury.votesFor (entries image point) = jury.relevantCount := by
  have selects : ∀ column : Nat, jury.matrix.selects point column = true ↔
      (entries image point)[column]? = some true := by
    intro column
    rw [learned.matrix, InclusionMatrix.selects_ofImage known]
    cases (entries image point)[column]? <;> simp
  rw [IsUnanimous, relevantCount, votesFor, count_zipWith_and_eq_iff, List.count_pos_iff,
    List.mem_iff_getElem?]
  simp only [selects]

theorem HasLearned.dividesBy (learned : jury.HasLearned image config labels) :
    jury.DividesBy jury.divisors := by
  constructor
  · intro accuracy member
    rw [learned.accuracies, accuraciesAfter] at member
    split at member
    · rcases List.mem_map.mp member with ⟨_, -, rfl⟩
      exact Or.inl rfl
    next some =>
      rcases List.mem_map.mp member with ⟨column, -, rfl⟩
      have observed : jury.observations ≠ [] := by
        rw [List.isEmpty_iff, ← List.length_eq_zero_iff, ← learned.length_observations] at some
        exact fun none => some (List.length_eq_zero_iff.mpr none)
      refine Or.inr ⟨hits image labels column, _, ?_, by rw [learned.smoothing]⟩
      simp [divisors, observed, learned.length_observations, learned.smoothing]
  · intro part member
    rcases List.mem_map.mp member with ⟨votes, -, rfl⟩
    split
    · exact Or.inl rfl
    next some => exact Or.inr ⟨votes, _, by simp [divisors, some], rfl⟩

variable [IsProportional α]

theorem HasLearned.divisors_ne_zero (learned : jury.HasLearned image config labels)
    (notNegative : ¬config.accuracySmoothing < 0) :
    ∀ divisor ∈ jury.divisors, (divisor == 0) = false := by
  intro divisor member
  rcases List.mem_append.mp member with counted | smoothed
  · split at counted
    · cases counted
    next some =>
      rw [List.mem_singleton.mp counted]
      exact IsProportional.natCast_ne_zero (Nat.pos_of_ne_zero some)
  · split at smoothed
    · cases smoothed
    next some =>
      rw [List.mem_singleton.mp smoothed, learned.smoothing]
      exact IsProportional.add_ne_zero (List.length_pos_iff.mpr some) notNegative

/-- How large a part of the relevant motifs can be, and where it stands for none or for all. -/
theorem part_spec (counts : Counts α jury.relevantCount) (row : List Bool) :
    IsProbability (jury.part row) ∧
      (jury.part row = 1 ↔ 0 < jury.relevantCount ∧ jury.votesFor row = jury.relevantCount) ∧
      (0 < jury.part row ↔ 0 < jury.votesFor row) ∧
      (jury.part row = 0 ↔ jury.votesFor row = 0) := by
  have atMost : jury.votesFor row ≤ jury.relevantCount := count_zipWith_and_le row jury.relevant
  rcases Nat.eq_zero_or_pos jury.relevantCount with none | some
  · have zero : jury.part row = 0 := if_pos none
    have votes : jury.votesFor row = 0 := by omega
    rw [zero, none, votes]
    refine ⟨Scalar.isProbability_zero, ?_, ?_, ?_⟩
    · exact iff_of_false IsComparable.zero_ne_one fun unanimous => Nat.lt_irrefl 0 unanimous.1
    · exact iff_of_false (fun less => IsComparable.lt_asymm less less) (Nat.lt_irrefl 0)
    · exact iff_of_true rfl rfl
  · have quotient : jury.part row =
        ((jury.votesFor row : Nat) : α) / ((jury.relevantCount : Nat) : α) :=
      if_neg some.ne'
    rw [quotient]
    refine ⟨Scalar.isProbability_div counts some atMost, ?_, ?_, ?_⟩
    · rw [Scalar.div_eq_one_iff counts some atMost, and_iff_right some]
    · exact Scalar.div_pos_iff counts some atMost
    · exact Scalar.div_eq_zero_iff counts some atMost

theorem certainty_spec (jury : Jury α) (row : List Bool) :
    (jury.certainty row = 1 ↔ 0 < jury.votesFor row) ∧
      (jury.certainty row = 0 ↔ jury.votesFor row = 0) := by
  have different : (0 : α) ≠ 1 := IsComparable.zero_ne_one
  by_cases some : jury.votesFor row > 0
  · rw [certainty, if_pos some]
    exact ⟨iff_of_true rfl some, iff_of_false different.symm (Nat.ne_of_gt some)⟩
  · rw [certainty, if_neg some]
    exact ⟨iff_of_false different some, iff_of_true rfl (Nat.eq_zero_of_not_pos some)⟩

end Division

end Jury

namespace Ensemble

variable {α : Type} [Exponential α] [IsProportional α] {majority disjunction : Ensemble α}
variable {image : Image} {config : Config α} {lessons : List (Point × Bool × UpdateSettings α)}

/-- A majority vote and a disjunction have the same evidence, and the majority vote says more about
every point. -/
structure Refines (majority disjunction : Ensemble α) : Prop where
  size : majority.size = disjunction.size
  accuracies : majority.jury?.map (·.accuracies) = disjunction.jury?.map (·.accuracies)
  domain : majority.domain = disjunction.domain
  exists_mem : ∀ point ∈ majority.domain,
    ∃ p q, (point, p) ∈ majority.ranking ∧ (point, q) ∈ disjunction.ranking
  isProbability : ∀ point p, (point, p) ∈ majority.ranking → IsProbability p
  eq_one_iff : ∀ point p, (point, p) ∈ majority.ranking →
    (p = 1 ↔ ∃ jury, majority.jury? = some jury ∧ jury.IsUnanimous point)
  pos_iff : ∀ point p q, (point, p) ∈ majority.ranking → (point, q) ∈ disjunction.ranking →
    (0 < p ↔ q = 1)
  eq_zero_iff : ∀ point p q, (point, p) ∈ majority.ranking → (point, q) ∈ disjunction.ranking →
    (p = 0 ↔ q = 0)
  classified : ∀ threshold, 0 < threshold → threshold ≤ 1 →
    ∀ point ∈ majority.classified (some threshold), point ∈ disjunction.classified (some threshold)

section Evidence

omit [IsProportional α] in
theorem HasLearned.exists_majorityVote
    (learned : HasLearned .majorityVote image config lessons majority) :
    ∃ jury, majority.votes = .majorityVote jury ∧
      jury.HasLearned image config (lessons.map fun (point, label, _) => (point, label)) := by
  rcases majority with ⟨votes, _, _⟩
  rcases learned with ⟨votesLearned, -, -⟩
  cases votesLearned with
  | majorityVote jury => exact ⟨_, rfl, jury⟩

theorem HasLearned.refines (counts : Counts α image.motifs.length)
    (left : HasLearned .majorityVote image config lessons majority)
    (right : HasLearned .disjunction image config lessons disjunction) :
    majority.Refines disjunction := by
  rcases left.exists_majorityVote with ⟨jury, votes, learned⟩
  rcases right.exists_disjunction with ⟨twin, twinVotes, twinLearned⟩
  have same : twin = { jury with observations := twin.observations } :=
    learned.eq_of_perm twinLearned (List.Perm.refl _)
  have relevant : twin.relevant = jury.relevant := by
    rw [same]
    rfl
  have bounded : Counts α jury.relevantCount := by
    refine counts.mono ?_
    rw [← learned.length_relevant]
    exact List.count_le_length
  have ranked : ∀ {point p}, (point, p) ∈ majority.ranking ↔
      point ∈ image.distinctDomain ∧ p = jury.part (entries image point) := by
    intro point p
    rw [left.mem_ranking_iff, judge, votes]
    rfl
  have otherRanked : ∀ {point q}, (point, q) ∈ disjunction.ranking ↔
      point ∈ image.distinctDomain ∧ q = jury.certainty (entries image point) := by
    intro point q
    have votesFor : jury.votesFor (entries image point) = twin.votesFor (entries image point) := by
      rw [Jury.votesFor, Jury.votesFor, relevant]
    rw [right.mem_ranking_iff, judge, twinVotes, Jury.certainty, votesFor]
  have part := fun point => Jury.part_spec bounded (entries image point)
  have certainty := fun point => jury.certainty_spec (entries image point)
  have pos_iff : ∀ point p q, (point, p) ∈ majority.ranking → (point, q) ∈ disjunction.ranking →
      (0 < p ↔ q = 1) := by
    intro point p q listed otherListed
    rw [(ranked.mp listed).2, (otherRanked.mp otherListed).2, (certainty point).1]
    exact (part point).2.2.1
  refine ⟨?_, ?_, ?_, ?_, ?_, ?_, pos_iff, ?_, ?_⟩
  · rw [size, votes, size, twinVotes]
    simp only [Jury.relevantCount, relevant]
  · rw [jury?, votes, jury?, twinVotes, same]
    rfl
  · rw [left.domain, right.domain]
  · intro point inside
    rw [left.domain] at inside
    exact ⟨_, _, ranked.mpr ⟨inside, rfl⟩, otherRanked.mpr ⟨inside, rfl⟩⟩
  · intro point p listed
    rw [(ranked.mp listed).2]
    exact (part point).1
  · intro point p listed
    rcases ranked.mp listed with ⟨known, rfl⟩
    rw [(part point).2.1, ← learned.isUnanimous_iff known, jury?, votes]
    simp
  · intro point p q listed otherListed
    rw [(ranked.mp listed).2, (otherRanked.mp otherListed).2, (certainty point).2]
    exact (part point).2.2.2
  · intro threshold positive atMost point inside
    rcases mem_classified_iff.mp inside with ⟨p, listed, reached⟩
    have known := (ranked.mp listed).1
    have otherListed := otherRanked.mpr ⟨known, rfl⟩
    have certain := (pos_iff _ _ _ listed otherListed).mp
      (IsComparable.lt_of_lt_of_le positive reached)
    refine mem_classified_iff.mpr ⟨_, otherListed, ?_⟩
    rw [certain]
    exact atMost

/-- A majority vote and a disjunction of an image are asked to learn from the same labels, and both
learn from those of their own points. They then have the same motifs with the same accuracies. The
probability of a point in a majority vote is one exactly if some motif is relevant and all relevant
motifs select the point, it is positive exactly if the disjunction is certain of the point, and zero
exactly if the disjunction excludes it, so that the majority vote classifies no point that the
disjunction does not. As long as smoothing is not negative, neither of them divides by zero. -/
theorem attempt_refines (image : Image) (config : Config α)
    (counts : Counts α image.motifs.length)
    (calls : List (Point × Bool × UpdateSettings α)) :
    let majority := (ofImage .majorityVote image config).attempt calls
    let disjunction := (ofImage .disjunction image config).attempt calls
    majority.Refines disjunction ∧
      ∀ jury : Jury α, majority.jury? = some jury ∨ disjunction.jury? = some jury →
        jury.DividesBy jury.divisors ∧ (¬config.accuracySmoothing < 0 →
          ∀ divisor ∈ jury.divisors, (divisor == 0) = false) := by
  intro majority disjunction
  have left := (hasLearned_ofImage .majorityVote image config).attempt calls
  have right := (hasLearned_ofImage .disjunction image config).attempt calls
  refine ⟨left.refines counts right, ?_⟩
  intro jury either
  have learned : ∃ labels, jury.HasLearned image config labels := by
    rcases either with found | found
    · rcases left.exists_jury (by decide) with ⟨_, same, learned⟩
      exact ⟨_, Option.some_inj.mp (same.symm.trans found) ▸ learned⟩
    · rcases right.exists_jury (by decide) with ⟨_, same, learned⟩
      exact ⟨_, Option.some_inj.mp (same.symm.trans found) ▸ learned⟩
  rcases learned with ⟨labels, learned⟩
  exact ⟨learned.dividesBy, learned.divisors_ne_zero⟩

/-- Of two motifs the first selects both points and the second only one of them, whose label is
revealed twice. In between, a label of an unknown point is refused. -/
theorem attempt_refines_repeated_label :
    let image : Image := ⟨[⟨.ofVertex 0, [⟨"a", 0⟩, ⟨"a", 1⟩]⟩, ⟨.ofVertex 1, [⟨"a", 1⟩]⟩]⟩
    let calls : List (Point × Bool × UpdateSettings Float) :=
      [(⟨"a", 1⟩, true, .default), (⟨"b", 7⟩, true, .default), (⟨"a", 1⟩, true, .default)]
    let majority := (ofImage .majorityVote image .default).attempt calls
    let disjunction := (ofImage .disjunction image .default).attempt calls
    Counts Float image.motifs.length ∧ ¬Config.default.accuracySmoothing < 0 ∧
      majority.ranking = [(⟨"a", 0⟩, 1 / 2), (⟨"a", 1⟩, 1)] ∧
      disjunction.ranking = [(⟨"a", 0⟩, 1), (⟨"a", 1⟩, 1)] ∧
      majority.jury?.map (·.divisors) = some [2, 3] ∧
      majority.Refines disjunction ∧
      ∀ jury : Jury Float, majority.jury? = some jury ∨ disjunction.jury? = some jury →
        jury.DividesBy jury.divisors ∧ ∀ divisor ∈ jury.divisors, (divisor == 0) = false := by
  intro image calls majority disjunction
  have counts : Counts Float image.motifs.length := (counts_double_iff _).mpr (by decide)
  have notNegative : ¬Config.default.accuracySmoothing < 0 := by decide +kernel
  rcases attempt_refines image .default counts calls with ⟨refines, divides⟩
  refine ⟨counts, notNegative, by decide +kernel, by decide +kernel, by decide +kernel, refines, ?_⟩
  intro jury either
  exact ⟨(divides jury either).1, (divides jury either).2 notNegative⟩

/-- With a smoothing of minus one the first label makes a divisor zero and the accuracy undefined,
and the motif that was right is no longer relevant. -/
theorem negative_smoothing_divides_by_zero :
    let image : Image := ⟨[⟨.ofVertex 0, [⟨"a", 0⟩]⟩]⟩
    let config : Config Float := { Config.default with accuracySmoothing := -1 }
    let before := ofImage .majorityVote image config
    let after := before.attempt [(⟨"a", 0⟩, true, .default)]
    before.size = 1 ∧ after.size = 0 ∧ after.jury?.map (·.divisors) = some [0] ∧
      after.jury?.map (fun jury => jury.accuracies.map Float.isNaN) = some [true] := by
  decide +kernel

end Evidence

end Ensemble

end MotifVote
