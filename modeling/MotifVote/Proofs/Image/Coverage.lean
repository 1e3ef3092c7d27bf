import MotifVote.Proofs.Ensemble.Disjunction
import MotifVote.Proofs.Ensemble.Training
import MotifVote.Proofs.Image.Record
import MotifVote.Proofs.Motif.Homomorphism

/-!
# Points without a column

The rows of an inclusion matrix are the points of all rows of an image, but its columns only show
the first row of each motif. An image is covered if that makes no difference: every point lies in
the first row of some motif.

Registering motifs and evaluating documents keep an image covered. A motif that is registered again
begins with no points, and since equal motifs select equal vertices, its row never has a point that
the first row lacks. Loading a file is different, because nothing relates the rows of a file: where
the second row of a motif has a point of its own, this point has no column, and a disjunction
excludes it.
-/

namespace MotifVote

section Evaluation

variable {σ : Type} [GraphStore σ]

/-- The vertices that a motif selects. -/
def Motif.selected (store : σ) (motif : Motif) : List VertexId :=
  (motif.evaluate store).toOption.getD []

theorem Motif.exists_evaluate_eq_ok (store : σ) (motif : Motif) :
    ∃ found, motif.evaluate store = .ok found ∧ found.Pairwise (· < ·) := by
  rcases Query.exists_run_eq_ok store motif.bindsProjection_query with ⟨found, run, ascending, -⟩
  refine ⟨found, ?_, ascending⟩
  rw [evaluate, run]
  rfl

theorem Motif.evaluate_eq_ok (store : σ) (motif : Motif) :
    motif.evaluate store = .ok (motif.selected store) := by
  rcases motif.exists_evaluate_eq_ok store with ⟨found, evaluated, -⟩
  rw [selected, evaluated]
  rfl

/-- Evaluating a document never fails, and extends every row by what its motif selects. -/
theorem Image.evaluate_eq_ok (image : Image) (store : σ) (document : String) :
    ∃ count, image.evaluate store document = .ok (count,
      ⟨image.rows.map fun row => extendRow document row (row.motif.selected store)⟩) := by
  have selections : image.rows.mapM (fun row => row.motif.evaluate store) =
      .ok (image.rows.map fun row => row.motif.selected store) :=
    mapM_eq_ok_map fun row _ => row.motif.evaluate_eq_ok store
  have extended : List.zipWith (extendRow document) image.rows
      (image.rows.map fun row => row.motif.selected store) =
        image.rows.map fun row => extendRow document row (row.motif.selected store) := by
    rw [List.zipWith_map_right, List.zipWith_self]
  simp only [evaluate, selections, extended, bind, Except.bind, pure, Except.pure]
  exact ⟨_, rfl⟩

end Evaluation

namespace Image

/-- Every point lies in the first row of some motif. -/
def IsCovered (image : Image) : Prop :=
  ∀ point ∈ image.domain, ∃ motif, image.Selects motif point

variable {image next : Image} {motif : Motif} {point : Point}

/-- An image without repeated motifs is covered: every row is the first of its motif. -/
theorem isCovered_of_nodup (distinct : image.motifs.Nodup) : image.IsCovered := by
  intro point inside
  rcases List.mem_flatMap.mp inside with ⟨row, member, inRow⟩
  rcases found : image.rows.find? (fun other => other.motif = row.motif) with _ | first
  · have missed := List.find?_eq_none.mp found row member
    simp at missed
  · have same : first = row :=
      List.inj_on_of_nodup_map distinct (List.mem_of_find?_eq_some found) member
        (by simpa using List.find?_some found)
    exact ⟨row.motif, row.points, by rw [motifDomain?, found, same, Option.map_some], inRow⟩

theorem isCovered_empty : empty.IsCovered := by
  intro point inside
  cases inside

theorem IsCovered.register (covered : image.IsCovered) (added : Motif) :
    (image.register added).IsCovered := by
  intro point inside
  have before : point ∈ image.domain := by
    simpa [Image.register, domain] using inside
  rcases covered point before with ⟨motif, points, found, member⟩
  refine ⟨motif, points, ?_, member⟩
  rcases Option.map_eq_some_iff.mp found with ⟨row, first, rfl⟩
  simp only [Image.register, motifDomain?, List.find?_append, first, Option.some_or,
    Option.map_some]

theorem IsCovered.registerAll (covered : image.IsCovered) (motifs : List Motif) :
    (image.registerAll motifs).IsCovered := by
  induction motifs generalizing image with
  | nil => exact covered
  | cons motif motifs ih => exact ih (covered.register motif)

/-- The points that a document adds to the first row of a motif are those that it adds to every
row of this motif. -/
theorem IsCovered.evaluate {σ : Type} [GraphStore σ] {store : σ} {document : String} {count : Nat}
    (covered : image.IsCovered) (evaluated : image.evaluate store document = .ok (count, next)) :
    next.IsCovered := by
  rcases image.evaluate_eq_ok store document with ⟨added, result⟩
  rw [result] at evaluated
  cases evaluated
  have extended : ∀ {motif : Motif} {points : List Point}, image.motifDomain? motif = some points →
      motifDomain? ⟨image.rows.map fun row => extendRow document row (row.motif.selected store)⟩
          motif =
        some (points ++ (motif.selected store).map (Point.mk document)) := by
    intro motif points found
    rcases Option.map_eq_some_iff.mp found with ⟨row, first, rfl⟩
    have same : row.motif = motif := by simpa using List.find?_some first
    rw [motifDomain?, List.find?_map]
    simp only [Function.comp_def, extendRow, first, Option.map_some, same]
  intro point inside
  rcases List.mem_flatMap.mp inside with ⟨later, registered, member⟩
  rcases List.mem_map.mp registered with ⟨row, rowMember, rfl⟩
  rcases List.mem_append.mp member with old | fresh
  · rcases covered point (List.mem_flatMap.mpr ⟨row, rowMember, old⟩) with
      ⟨motif, points, found, known⟩
    exact ⟨motif, _, extended found, List.mem_append_left _ known⟩
  · rcases found : image.motifDomain? row.motif with _ | points
    · have missed := List.find?_eq_none.mp (Option.map_eq_none_iff.mp found) row rowMember
      simp at missed
    · exact ⟨row.motif, _, extended found, List.mem_append_right _ fresh⟩

/-- An image that registering motifs, evaluating documents and loading files have led to, where
something is known of the images that were loaded. -/
inductive Arises (loadable : Image → Prop) : Image → Prop
  | empty : Arises loadable empty
  | register {image : Image} (before : Arises loadable image) (motif : Motif) :
      Arises loadable (image.register motif)
  | registerAll {image : Image} (before : Arises loadable image) (motifs : List Motif) :
      Arises loadable (image.registerAll motifs)
  | evaluate {σ : Type} [GraphStore σ] {image next : Image} {store : σ} {document : String}
      {count : Nat} (before : Arises loadable image)
      (evaluated : image.evaluate store document = .ok (count, next)) : Arises loadable next
  | load {image : Image} {source : List Text.Symbol} (loaded : ofSource source = .ok image)
      (known : loadable image) : Arises loadable image

theorem Arises.isCovered (arises : Arises IsCovered image) : image.IsCovered := by
  induction arises with
  | empty => exact isCovered_empty
  | register _ motif covered => exact covered.register motif
  | registerAll _ motifs covered => exact covered.registerAll motifs
  | evaluate _ evaluated covered => exact covered.evaluate evaluated
  | load _ covered => exact covered

end Image

namespace InclusionMatrix

variable {image : Image} {point : Point}

/-- The row of a point has an entry exactly if some motif selects the point. -/
theorem true_mem_entries_iff :
    true ∈ entries image point ↔ ∃ motif, image.Selects motif point := by
  constructor
  · intro entry
    rcases List.mem_map.mp entry with ⟨selected, column, contained⟩
    rcases List.mem_map.mp column with ⟨motif, -, rfl⟩
    rcases found : image.motifDomain? motif with _ | points
    · simp [found] at contained
    · exact ⟨motif, points, found, by simpa [found] using contained⟩
  · rintro ⟨motif, selects⟩
    rcases exists_getElem?_entries selects with ⟨column, -, entry⟩
    exact List.mem_of_getElem? entry

end InclusionMatrix

namespace Image

open Text (symbolsOfText)

variable {α : Type} [Exponential α] {config : Config α} {image : Image}

/-- Every row of the inclusion matrix has an entry, and the disjunction is certain of every point
before it has learned from any label. -/
structure HasNoOrphans (image : Image) (config : Config α) : Prop where
  exists_includes : ∀ row < (InclusionMatrix.ofImage image).points.length,
    ∃ column, (InclusionMatrix.ofImage image).includes row column = true
  probabilities_eq : (Ensemble.ofImage .disjunction image config).probabilities =
    (Ensemble.ofImage .disjunction image config).domain.map fun _ => 1

theorem exists_includes_iff :
    (∀ row < (InclusionMatrix.ofImage image).points.length,
        ∃ column, (InclusionMatrix.ofImage image).includes row column = true) ↔
      image.IsCovered := by
  have entry : ∀ {row : Nat} (inside : row < image.distinctDomain.length),
      (∃ column, (InclusionMatrix.ofImage image).includes row column = true) ↔
        ∃ motif, image.Selects motif image.distinctDomain[row] := by
    intro row inside
    rw [← InclusionMatrix.true_mem_entries_iff, List.mem_iff_getElem?]
    refine exists_congr fun column => ?_
    have listed : (InclusionMatrix.ofImage image).row row =
        InclusionMatrix.entries image image.distinctDomain[row] := by
      simp [InclusionMatrix.row, InclusionMatrix.rows_ofImage, inside]
    rw [InclusionMatrix.includes, listed]
    cases (InclusionMatrix.entries image image.distinctDomain[row])[column]? <;> simp
  have points : (InclusionMatrix.ofImage image).points = image.distinctDomain := rfl
  rw [points]
  constructor
  · intro included point inside
    rcases List.getElem_of_mem (mem_distinctDomain_iff.mpr inside) with ⟨row, bound, rfl⟩
    exact (entry bound).mp (included row bound)
  · intro covered row bound
    exact (entry bound).mpr (covered _ (mem_distinctDomain_iff.mp (List.getElem_mem bound)))

/-- Being covered is what it takes for no point to be orphaned. -/
theorem hasNoOrphans_iff (atMost : config.accuracyThreshold ≤ 1) :
    image.HasNoOrphans config ↔ image.IsCovered := by
  constructor
  · intro without
    exact exists_includes_iff.mp without.exists_includes
  · intro covered
    refine ⟨exists_includes_iff.mpr covered, ?_⟩
    have certain : ∀ point ∈ image.distinctDomain,
        (if Jury.voteCount image config point > 0 then (1 : α) else 0) = 1 := by
      intro point inside
      rcases covered point (mem_distinctDomain_iff.mp inside) with ⟨motif, selects⟩
      exact if_pos (Jury.voteCount_pos atMost selects inside)
    exact (Jury.disjunction_ofImage image config).trans (List.map_congr_left certain)

/-- Whatever motifs are registered and whatever documents are evaluated, no point is orphaned, as
long as every image that is loaded is covered. -/
theorem hasNoOrphans_of_arises (arises : Arises IsCovered image)
    (atMost : config.accuracyThreshold ≤ 1) : image.HasNoOrphans config :=
  (hasNoOrphans_iff atMost).mpr arises.isCovered

/-- An image with one row is loaded, its motif is registered again, and a document is evaluated. -/
theorem hasNoOrphans_motif_twice :
    let loaded : Image := ⟨[⟨.ofVertex 0, [⟨"a", 7⟩]⟩]⟩
    let store := DocumentStore.after MemoryGraph.empty
      [.call (.createVertex []), .call (.createVertex [])]
    let image : Image := ⟨[⟨.ofVertex 0, [⟨"a", 7⟩, ⟨"b", 0⟩, ⟨"b", 1⟩]⟩,
      ⟨.ofVertex 0, [⟨"b", 0⟩, ⟨"b", 1⟩]⟩]⟩
    ofSource (symbolsOfText loaded.text) = .ok loaded ∧
      (loaded.register (.ofVertex 0)).evaluate store "b" = .ok (4, image) ∧
      Config.rational.accuracyThreshold ≤ 1 ∧ image.HasNoOrphans Config.rational := by
  intro loaded store image
  have atMost : Config.rational.accuracyThreshold ≤ 1 := by decide +kernel
  have read : ofSource (symbolsOfText loaded.text) = .ok loaded :=
    ofSource_text (by decide +kernel) (by decide +kernel)
  have covered : loaded.IsCovered := isCovered_of_nodup (by decide +kernel)
  have evaluated : (loaded.register (.ofVertex 0)).evaluate store "b" = .ok (4, image) := by
    decide +kernel
  have arises : Arises IsCovered image :=
    .evaluate (.register (.load read covered) (.ofVertex 0)) evaluated
  exact ⟨read, evaluated, atMost, hasNoOrphans_of_arises arises atMost⟩

/-- A file with two rows for one motif is loaded, although the second row has a point that the first
row lacks, and the disjunction excludes this point. -/
theorem exists_orphan_second_row :
    let image : Image := ⟨[⟨.ofVertex 0, [⟨"a", 0⟩]⟩, ⟨.ofVertex 0, [⟨"a", 1⟩]⟩]⟩
    ofSource (symbolsOfText image.text) = .ok image ∧ Config.rational.accuracyThreshold ≤ 1 ∧
      image.distinctDomain = [⟨"a", 0⟩, ⟨"a", 1⟩] ∧
      (∀ column, (InclusionMatrix.ofImage image).includes 1 column = false) ∧
      (Ensemble.ofImage .disjunction image Config.rational).probabilities = [1, 0] := by
  intro image
  have read : ofSource (symbolsOfText image.text) = .ok image :=
    ofSource_text (by decide +kernel) (by decide +kernel)
  refine ⟨read, by decide +kernel, by decide +kernel, ?_, by decide +kernel⟩
  have entries : (InclusionMatrix.ofImage image).row 1 = [false, false] := by decide +kernel
  intro column
  rw [InclusionMatrix.includes, entries]
  match column with
  | 0 | 1 | _ + 2 => rfl

end Image

end MotifVote
