import MotifVote.Proofs.Image.Rearrangement
import MotifVote.Proofs.Scalar.Comparison
import MotifVote.Proofs.Scalar.Double

/-!
# The order of documents

The order in which documents are evaluated is the order of the rows of an inclusion matrix, by which
an ensemble remembers labels, and the order in which the sums of a weighted vote are compared. The
probability of a point depends on neither, whatever labels have been revealed.

Two weighted votes may find different largest sums, if these are zeros or undefined. As both then
divide by one, this makes no difference.
-/

namespace MotifVote

open InclusionMatrix (entries)
open Scalar (IsComparable)

namespace WeightedVote

variable {α : Type} [Exponential α] [IsComparable α]

/-- What sums are divided by does not depend on their order. -/
theorem normalizer_eq_of_perm {sums others : List (α × α)} (same : sums.Perm others) :
    normalizer sums = normalizer others := by
  have values : ((sums.map (·.1)) ++ sums.map (·.2)).Perm
      (others.map (·.1) ++ others.map (·.2)) := (same.map _).append (same.map _)
  rcases sums with _ | ⟨first, later⟩
  · rw [same.nil_eq]
  have nonempty : ((first :: later).map (·.1)) ++ (first :: later).map (·.2) ≠ [] := by simp
  have othersNonempty : others.map (·.1) ++ others.map (·.2) ≠ [] := by
    intro empty
    exact nonempty (List.perm_nil.mp (empty ▸ values))
  rcases Scalar.exists_largest?_eq_some nonempty with ⟨most, found, largest⟩
  rcases Scalar.exists_largest?_eq_some othersNonempty with ⟨other, otherFound, otherLargest⟩
  simp only [normalizer, found, otherFound]
  rcases largest.eq_or_useless otherLargest (fun _ => values.mem_iff) with equal | ⟨useless, both⟩
  · rw [equal]
  · rw [if_neg (by simp [useless]), if_neg (by simp [both])]

end WeightedVote

section Rearranged

variable {α : Type} [Exponential α] {config : Config α} {image other : Image}

theorem Jury.HasLearned.relevant_eq {jury twin : Jury α} {labels : List (Point × Bool)}
    (rearranged : image.IsRearranged other) (left : jury.HasLearned image config labels)
    (right : twin.HasLearned other config labels) : jury.relevant = twin.relevant := by
  have hits : Jury.hits image labels = Jury.hits other labels := by
    funext column
    simp only [Jury.hits, rearranged.entries]
  have accuracies : Jury.accuraciesAfter image config.accuracySmoothing labels =
      Jury.accuraciesAfter other config.accuracySmoothing labels := by
    simp only [Jury.accuraciesAfter, rearranged.motifs, hits]
  rw [left.relevant, right.relevant, accuracies]
  simp only [rearranged.columnIsEmpty]

theorem Jury.HasLearned.votesFor_eq {jury twin : Jury α} {labels : List (Point × Bool)}
    (rearranged : image.IsRearranged other) (left : jury.HasLearned image config labels)
    (right : twin.HasLearned other config labels) (row : List Bool) :
    jury.votesFor row = twin.votesFor row ∧ jury.relevantCount = twin.relevantCount := by
  rw [Jury.votesFor, Jury.votesFor, Jury.relevantCount, Jury.relevantCount,
    left.relevant_eq rearranged right]
  exact ⟨rfl, rfl⟩

theorem WeightedVote.HasLearned.weights_eq {vote twin : WeightedVote α}
    {lessons : List (Point × Bool × UpdateSettings α)} (rearranged : image.IsRearranged other)
    (left : vote.HasLearned image config lessons) (right : twin.HasLearned other config lessons) :
    vote.weights = twin.weights := by
  have coverage : WeightedVote.coverageOf (α := α) (.ofImage image) =
      WeightedVote.coverageOf (.ofImage other) := by
    have motifs : (InclusionMatrix.ofImage image).motifs = (InclusionMatrix.ofImage other).motifs :=
      rearranged.motifs
    rw [WeightedVote.coverageOf, WeightedVote.coverageOf, rearranged.selectionSizes, motifs]
  have initial : (WeightedVote.ofImage image config).rates =
      (WeightedVote.ofImage other config).rates := by
    simp only [WeightedVote.ofImage, WeightedVote.ofMatrix, coverage]
  have next : WeightedVote.nextRates image config = WeightedVote.nextRates other config := by
    funext rates lesson
    rw [WeightedVote.nextRates, WeightedVote.nextRates, rearranged.entries]
  rw [WeightedVote.weights, WeightedVote.weights, left.coverage, right.coverage, left.rates,
    right.rates, coverage, initial, next]

namespace Ensemble

variable {strategy : Strategy} {lessons : List (Point × Bool × UpdateSettings α)}
variable {ensemble twin : Ensemble α}

/-- Two ensembles have the same points with the same probabilities. -/
structure Agree (ensemble twin : Ensemble α) : Prop where
  domain : ensemble.domain.Perm twin.domain
  ranking : ensemble.ranking.Perm twin.ranking
  classifiedSet : ∀ threshold,
    (ensemble.classifiedSet threshold).toList = (twin.classifiedSet threshold).toList

variable [IsComparable α]

/-- The motifs that select a point lead to the same probability. -/
theorem HasLearned.judge_eq (rearranged : image.IsRearranged other)
    (left : HasLearned strategy image config lessons ensemble)
    (right : HasLearned strategy other config lessons twin) : ensemble.judge = twin.judge := by
  funext row
  rcases ensemble with ⟨votes, _, _⟩
  rcases twin with ⟨twinVotes, _, _⟩
  rcases left with ⟨votesLeft, -, -⟩
  rcases right with ⟨votesRight, -, -⟩
  cases votesLeft with
  | disjunction jury =>
      cases votesRight with
      | disjunction twin => simp only [judge, (jury.votesFor_eq rearranged twin row).1]
  | majorityVote jury =>
      cases votesRight with
      | majorityVote twin =>
          rcases jury.votesFor_eq rearranged twin row with ⟨votes, relevant⟩
          simp only [judge, votes, relevant]
  | @weightedVote vote learned =>
      cases votesRight with
      | weightedVote twinLearned =>
          have weights := learned.weights_eq rearranged twinLearned
          have divisors := WeightedVote.normalizer_eq_of_perm
            (rearranged.matrix_rows.map (WeightedVote.scores vote.weights))
          simp only [judge, ← weights, learned.matrix, twinLearned.matrix, divisors]

theorem HasLearned.agree (rearranged : image.IsRearranged other)
    (left : HasLearned strategy image config lessons ensemble)
    (right : HasLearned strategy other config lessons twin) : ensemble.Agree twin := by
  have domain : ensemble.domain.Perm twin.domain := by
    rw [left.domain, right.domain]
    exact rearranged.distinctDomain
  have ranking : ensemble.ranking.Perm twin.ranking := by
    rw [left.ranking, right.ranking, left.judge_eq rearranged right, funext rearranged.entries]
    exact rearranged.distinctDomain.map _
  refine ⟨domain, ranking, ?_⟩
  intro threshold
  refine toList_eq_of_mem_iff fun point => ?_
  rw [classifiedSet, classifiedSet, Std.TreeSet.mem_ofList, Std.TreeSet.mem_ofList, classified,
    classified, left.classificationThreshold, right.classificationThreshold,
    List.contains_iff_mem, List.contains_iff_mem]
  exact ((ranking.filter _).map _).mem_iff

/-- Whatever motifs are registered and whatever labels are revealed, and with each of the
strategies, documents can be evaluated in any order: each point of the ensemble has one probability,
the points and their probabilities are the same, and so are the points that are classified as
positive. -/
theorem agree_evaluateDocuments (strategy : Strategy) (config : Config α) (motifs : List Motif)
    {documents permuted : List OpenedDocument} (rearranged : documents.Perm permuted)
    (lessons : List (Point × Bool × UpdateSettings α)) :
    let image := ((Image.empty.registerAll motifs).evaluateDocuments documents).2
    let other := ((Image.empty.registerAll motifs).evaluateDocuments permuted).2
    let ensemble := (ofImage strategy image config).attempt lessons
    ensemble.domain.Nodup ∧ ensemble.ranking.map (·.1) = ensemble.domain ∧
      ensemble.Agree ((ofImage strategy other config).attempt lessons) := by
  intro image other ensemble
  have images : image.IsRearranged other := Image.isRearranged_evaluateDocuments _ rearranged
  have left := (hasLearned_ofImage strategy image config).attempt lessons
  have right := (hasLearned_ofImage strategy other config).attempt lessons
  have domain : ensemble.domain = image.distinctDomain := left.domain
  refine ⟨domain ▸ image.nodup_distinctDomain, ?_, ?_⟩
  · rw [left.ranking, List.map_map, domain]
    exact List.map_id' _
  · have known : ∀ point, point ∈ image.distinctDomain ↔ point ∈ other.distinctDomain :=
      fun _ => images.distinctDomain.mem_iff
    simp only [known] at left
    exact left.agree images right

/-- A document with one vertex, one whose store does not open, and one with two vertices. With
doubles as numbers a weighted vote of two motifs learns from two labels, the second of which is not
one of its points. -/
theorem agree_documents_reversed :
    let store (calls : List StoreEvent) : Except Error Session :=
      .ok (.ofGraph (DocumentStore.after MemoryGraph.empty calls))
    let documents : List OpenedDocument :=
      [⟨⟨"a", []⟩, store [.call (.createVertex [])]⟩,
        ⟨⟨"b", []⟩, .error (.documentNotFound "b")⟩,
        ⟨⟨"c", []⟩, store [.call (.createVertex []), .call (.createVertex [])]⟩]
    let motifs : List Motif := [.ofVertex 0, .ofVertex 1]
    let image := ((Image.empty.registerAll motifs).evaluateDocuments documents).2
    let other := ((Image.empty.registerAll motifs).evaluateDocuments documents.reverse).2
    let lessons : List (Point × Bool × UpdateSettings Float) :=
      [(⟨"c", 1⟩, true, .default), (⟨"b", 0⟩, false, .default)]
    documents.Perm documents.reverse ∧
      image.distinctDomain = [⟨"a", 0⟩, ⟨"c", 0⟩, ⟨"c", 1⟩] ∧
      other.distinctDomain = [⟨"c", 0⟩, ⟨"c", 1⟩, ⟨"a", 0⟩] ∧
      ((ofImage .weightedVote image .default).attempt lessons).Agree
        ((ofImage .weightedVote other .default).attempt lessons) := by
  intro store documents motifs image other lessons
  have reversed : documents.Perm documents.reverse := documents.reverse_perm.symm
  exact ⟨reversed, by decide +kernel, by decide +kernel,
    (agree_evaluateDocuments .weightedVote .default motifs reversed lessons).2.2⟩

end Ensemble

end Rearranged

end MotifVote
