import MotifVote.Proofs.Ensemble.Lessons
import MotifVote.Proofs.Image.Coverage
import MotifVote.Proofs.Scalar.Comparison
import MotifVote.Proofs.Scalar.Double

/-!
# One more motif

A row at the end of an image is a column at the end of its inclusion matrix. It may bring new
points, which get rows of their own behind the old ones, and no old motif selects any of them. So
the old columns show what they showed before, also if the motif of the new row is an old one.

What a jury has learned of the old motifs is then the same with the new one as without it. A
disjunction only gains a vote, and no probability falls.
-/

namespace MotifVote

open InclusionMatrix (entries)
open Scalar (IsComparable)

namespace Image

variable {image : Image} {row : ImageRow} {motif : Motif} {point : Point}

/-- The image with one more row at its end. -/
def extend (image : Image) (row : ImageRow) : Image := ⟨image.rows ++ [row]⟩

theorem motifs_extend (image : Image) (row : ImageRow) :
    (image.extend row).motifs = image.motifs ++ [row.motif] := by
  simp [motifs, extend]

/-- The first row of an old motif is the one that it had before. -/
theorem motifDomain?_extend (registered : motif ∈ image.motifs) :
    (image.extend row).motifDomain? motif = image.motifDomain? motif := by
  rcases List.mem_map.mp registered with ⟨old, member, rfl⟩
  rcases found : image.rows.find? (fun other => other.motif = old.motif) with _ | first
  · have missed := List.find?_eq_none.mp found old member
    simp at missed
  · simp only [motifDomain?, extend, List.find?_append, found, Option.some_or]

theorem firstSeen_prefix_append (seen : PointSet) (points more : List Point) :
    firstSeen seen points <+: firstSeen seen (points ++ more) := by
  induction points generalizing seen with
  | nil => exact List.nil_prefix
  | cons first points ih =>
      rw [List.cons_append, firstSeen, firstSeen]
      split
      · exact ih seen
      · exact (List.prefix_cons_inj first).mpr (ih _)

/-- The old points come first. -/
theorem distinctDomain_prefix_extend (image : Image) (row : ImageRow) :
    image.distinctDomain <+: (image.extend row).distinctDomain := by
  have domain : (image.extend row).domain = image.domain ++ row.points := by
    simp [Image.domain, extend]
  rw [distinctDomain, distinctDomain, domain]
  exact firstSeen_prefix_append ∅ image.domain row.points

end Image

namespace InclusionMatrix

variable {image : Image} {row : ImageRow} {point : Point} {column : Nat}

/-- The entries of a point are the old ones and one for the new row. -/
theorem exists_entries_extend (image : Image) (row : ImageRow) (point : Point) :
    ∃ selected, entries (image.extend row) point = entries image point ++ [selected] := by
  have old : image.motifs.map (fun motif => ((image.extend row).motifDomain? motif).getD []) =
      selections image :=
    List.map_congr_left fun motif registered => by rw [Image.motifDomain?_extend registered]
  rw [entries, selections, Image.motifs_extend, List.map_append, List.map_append, old]
  exact ⟨_, rfl⟩

theorem getElem?_entries_extend (inside : column < image.motifs.length) :
    (entries (image.extend row) point)[column]? = (entries image point)[column]? := by
  rcases exists_entries_extend image row point with ⟨selected, extended⟩
  rw [extended, List.getElem?_append_left (by rwa [length_entries])]

/-- A motif selects no points but those of the image. -/
theorem columnIsEmpty_eq_false_iff :
    (ofImage image).columnIsEmpty column = false ↔
      ∃ point, (entries image point)[column]? = some true := by
  constructor
  · intro nonempty
    rw [columnIsEmpty, Bool.not_eq_false', rows_ofImage, List.any_eq_true] at nonempty
    rcases nonempty with ⟨_, listed, entry⟩
    rcases List.mem_map.mp listed with ⟨point, -, rfl⟩
    refine ⟨point, ?_⟩
    rcases found : (entries image point)[column]? with _ | selects
    · simp [found] at entry
    · simpa [found] using entry
  · rintro ⟨point, entry⟩
    rcases true_mem_entries_iff.mp (List.mem_of_getElem? entry) with ⟨motif, selects⟩
    rcases selects.exists_row with ⟨row, member, -, inRow⟩
    exact columnIsEmpty_eq_false
      (Image.mem_distinctDomain_iff.mpr (List.mem_flatMap.mpr ⟨row, member, inRow⟩)) entry

theorem columnIsEmpty_extend (inside : column < image.motifs.length) :
    (ofImage (image.extend row)).columnIsEmpty column = (ofImage image).columnIsEmpty column := by
  rw [Bool.eq_iff_iff, ← not_iff_not, Bool.not_eq_true, Bool.not_eq_true,
    columnIsEmpty_eq_false_iff, columnIsEmpty_eq_false_iff]
  simp only [getElem?_entries_extend inside]

end InclusionMatrix

namespace Jury

variable {α : Type} [Scalar α] {config : Config α} {image : Image} {row : ImageRow}
variable {labels : List (Point × Bool)} {jury grown : Jury α}

theorem length_accuraciesAfter (image : Image) (smoothing : α) (labels : List (Point × Bool)) :
    (accuraciesAfter image smoothing labels).length = image.motifs.length := by
  rw [accuraciesAfter]
  split <;> simp

/-- The old motifs are as accurate as before. -/
theorem exists_accuraciesAfter_extend (image : Image) (row : ImageRow) (smoothing : α)
    (labels : List (Point × Bool)) :
    ∃ accuracy, accuraciesAfter (image.extend row) smoothing labels =
      accuraciesAfter image smoothing labels ++ [accuracy] := by
  have hits : ∀ column ∈ List.range image.motifs.length,
      hits (image.extend row) labels column = hits image labels column := by
    intro column inside
    simp only [Jury.hits, InclusionMatrix.getElem?_entries_extend (List.mem_range.mp inside)]
  rw [accuraciesAfter, accuraciesAfter]
  split
  · rw [Image.motifs_extend, List.map_append]
    exact ⟨_, rfl⟩
  · rw [Image.motifs_extend, List.length_append, List.length_singleton, List.range_succ,
      List.map_append, List.map_congr_left fun column inside => by rw [hits column inside]]
    exact ⟨_, rfl⟩

/-- The old motifs are relevant if and only if they are without the new one. -/
theorem HasLearned.exists_relevant_extend (learned : jury.HasLearned image config labels)
    (grownLearned : grown.HasLearned (image.extend row) config labels) :
    ∃ last, grown.relevant = jury.relevant ++ [last] := by
  rcases exists_accuraciesAfter_extend image row config.accuracySmoothing labels with
    ⟨accuracy, extended⟩
  rw [learned.relevant, grownLearned.relevant, extended, List.mapIdx_append, List.mapIdx_cons,
    List.mapIdx_nil]
  refine ⟨_, congrArg (· ++ [_]) (List.ext_getElem? fun column => ?_)⟩
  rw [List.getElem?_mapIdx, List.getElem?_mapIdx]
  rcases listed : (accuraciesAfter image config.accuracySmoothing labels)[column]? with _ | found
  · rfl
  · have inside : column < image.motifs.length := by
      rw [← length_accuraciesAfter image config.accuracySmoothing labels]
      exact (List.getElem?_eq_some_iff.mp listed).1
    simp only [Option.map_some, InclusionMatrix.columnIsEmpty_extend inside]

theorem HasLearned.length_relevant (learned : jury.HasLearned image config labels) :
    jury.relevant.length = image.motifs.length := by
  rw [learned.relevant, List.length_mapIdx, length_accuraciesAfter]

/-- A point gets the votes that it had, and perhaps that of the new motif. -/
theorem HasLearned.votesFor_le (learned : jury.HasLearned image config labels)
    (grownLearned : grown.HasLearned (image.extend row) config labels) (point : Point) :
    jury.votesFor (entries image point) ≤ grown.votesFor (entries (image.extend row) point) := by
  rcases learned.exists_relevant_extend grownLearned with ⟨last, relevant⟩
  rcases InclusionMatrix.exists_entries_extend image row point with ⟨selected, extended⟩
  have lengths : (entries image point).length = jury.relevant.length := by
    rw [learned.length_relevant, InclusionMatrix.length_entries]
  rw [votesFor, votesFor, relevant, extended, List.zipWith_append lengths, List.count_append]
  exact Nat.le_add_right _ _

end Jury

namespace Ensemble

variable {α : Type} [Exponential α] [IsComparable α] {config : Config α} {image : Image}

/-- Every point of an ensemble is one of another, where its probability is at least as high. -/
structure IsRaised (ensemble grown : Ensemble α) : Prop where
  domain : ensemble.domain <+: grown.domain
  exists_mem : ∀ point ∈ ensemble.domain,
    ∃ p q, (point, p) ∈ ensemble.ranking ∧ (point, q) ∈ grown.ranking
  le : ∀ point p q, (point, p) ∈ ensemble.ranking → (point, q) ∈ grown.ranking → p ≤ q

section Disjunction

variable {row : ImageRow} {lessons : List (Point × Bool × UpdateSettings α)}
variable {ensemble grown : Ensemble α}

theorem HasLearned.isRaised
    (learned : HasLearned .disjunction image config lessons ensemble)
    (grownLearned : HasLearned .disjunction (image.extend row) config lessons grown) :
    ensemble.IsRaised grown := by
  have points := image.distinctDomain_prefix_extend row
  refine ⟨?_, ?_, ?_⟩
  · rwa [learned.domain, grownLearned.domain]
  · intro point inside
    rw [learned.domain] at inside
    exact ⟨_, _, learned.mem_ranking_iff.mpr ⟨inside, rfl⟩,
      grownLearned.mem_ranking_iff.mpr ⟨points.subset inside, rfl⟩⟩
  · intro point p q ranked grownRanked
    rw [(learned.mem_ranking_iff.mp ranked).2, (grownLearned.mem_ranking_iff.mp grownRanked).2]
    rcases learned.exists_disjunction with ⟨jury, votes, juryLearned⟩
    rcases grownLearned.exists_disjunction with ⟨grownJury, grownVotes, grownJuryLearned⟩
    simp only [judge, votes, grownVotes]
    apply IsComparable.ite_one_mono
    intro positive
    exact Nat.lt_of_lt_of_le positive (juryLearned.votesFor_le grownJuryLearned point)

/-- A disjunction with one more motif can learn from the same labels. No probability is then lower,
and every motif that is relevant stays relevant. -/
theorem isRaised_extend (image : Image) (row : ImageRow) (config : Config α)
    {lessons : List (Point × Bool × UpdateSettings α)}
    (known : ∀ lesson ∈ lessons, lesson.1 ∈ image.distinctDomain) :
    ∃ ensemble grown jury grownJury,
      (ofImage .disjunction image config).learn lessons = .ok ensemble ∧
      (ofImage .disjunction (image.extend row) config).learn lessons = .ok grown ∧
      ensemble.IsRaised grown ∧ ensemble.votes = .disjunction jury ∧
      grown.votes = .disjunction grownJury ∧ jury.relevant <+: grownJury.relevant := by
  have stillKnown : ∀ lesson ∈ lessons, lesson.1 ∈ (image.extend row).distinctDomain :=
    fun lesson member => (image.distinctDomain_prefix_extend row).subset (known lesson member)
  rcases (hasLearned_ofImage .disjunction image config).learn known with
    ⟨ensemble, success, learned⟩
  rcases (hasLearned_ofImage .disjunction (image.extend row) config).learn stillKnown with
    ⟨grown, grownSuccess, grownLearned⟩
  have raised := learned.isRaised grownLearned
  rcases learned.exists_disjunction with ⟨jury, votes, juryLearned⟩
  rcases grownLearned.exists_disjunction with ⟨grownJury, grownVotes, grownJuryLearned⟩
  rcases juryLearned.exists_relevant_extend grownJuryLearned with ⟨last, relevant⟩
  exact ⟨ensemble, grown, jury, grownJury, success, grownSuccess, raised, votes, grownVotes,
    ⟨[last], relevant.symm⟩⟩

/-- A motif is registered for a second time, and its new row has a point that the image lacks. With
doubles as numbers, both disjunctions learn that the motif was wrong about a point. -/
theorem isRaised_motif_twice :
    let image : Image := ⟨[⟨.ofVertex 0, [⟨"a", 0⟩]⟩, ⟨.ofVertex 1, [⟨"a", 1⟩]⟩]⟩
    let row : ImageRow := ⟨.ofVertex 0, [⟨"b", 0⟩]⟩
    let lessons : List (Point × Bool × UpdateSettings Float) := [(⟨"a", 0⟩, false, .default)]
    (∀ lesson ∈ lessons, lesson.1 ∈ image.distinctDomain) ∧
      (image.extend row).distinctDomain = [⟨"a", 0⟩, ⟨"a", 1⟩, ⟨"b", 0⟩] ∧
      ∃ ensemble grown,
        (ofImage .disjunction image .default).learn lessons = .ok ensemble ∧
        (ofImage .disjunction (image.extend row) .default).learn lessons = .ok grown ∧
        ensemble.probabilities = [0, 1] ∧ ensemble.IsRaised grown := by
  intro image row lessons
  have known : ∀ lesson ∈ lessons, lesson.1 ∈ image.distinctDomain := by
    simp only [lessons, List.forall_mem_singleton]
    decide +kernel
  rcases isRaised_extend image row .default known with
    ⟨ensemble, grown, -, -, learned, grownLearned, raised, -, -, -⟩
  have computed : ((ofImage .disjunction image .default).learn lessons).toOption.map
      probabilities = some [0, 1] := by
    decide +kernel
  simp only [learned, Except.toOption, Option.map_some, Option.some.injEq] at computed
  exact ⟨known, by decide +kernel, ensemble, grown, learned, grownLearned, computed, raised⟩

end Disjunction

end Ensemble

end MotifVote
