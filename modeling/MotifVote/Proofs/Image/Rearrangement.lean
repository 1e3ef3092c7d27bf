import MotifVote.Dataset
import MotifVote.Proofs.Ensemble.Lessons
import MotifVote.Proofs.Image.Coverage

/-!
# Images of rearranged documents

Evaluating documents in another order puts the points of every row in another order, and with them
the rows of the inclusion matrix. What a point is selected by stays the same, and so does how many
points each motif selects.
-/

namespace MotifVote

open InclusionMatrix (entries selections)

/-- The points that a motif selects in a document; none if its store does not open. -/
def OpenedDocument.selectedPoints (opened : OpenedDocument) (motif : Motif) : List Point :=
  match opened.store with
  | .ok store => (motif.selected store).map (Point.mk opened.document.filename)
  | .error _ => []

namespace Image

section Evaluation

theorem evaluateDocument_snd (state : EvaluationReport × Image) (opened : OpenedDocument) :
    (evaluateDocument state opened).2 = ⟨state.2.rows.map fun row =>
      { row with points := row.points ++ opened.selectedPoints row.motif }⟩ := by
  rcases state with ⟨report, image⟩
  rcases opened with ⟨document, error | store⟩
  · simp [evaluateDocument, OpenedDocument.selectedPoints, bind, Except.bind]
  · rcases image.evaluate_eq_ok store document.filename with ⟨count, evaluated⟩
    simp only [evaluateDocument, bind, Except.bind, evaluated]
    rfl

/-- Each row is extended by what its motif selects in one document after another. -/
theorem evaluateDocuments_snd (image : Image) (documents : List OpenedDocument) :
    (image.evaluateDocuments documents).2 = ⟨image.rows.map fun row =>
      { row with points := row.points ++ documents.flatMap (·.selectedPoints row.motif) }⟩ := by
  have general : ∀ state : EvaluationReport × Image,
      (documents.foldl evaluateDocument state).2 = ⟨state.2.rows.map fun row =>
        { row with points := row.points ++ documents.flatMap (·.selectedPoints row.motif) }⟩ := by
    induction documents with
    | nil => simp
    | cons opened documents ih =>
        intro state
        rw [List.foldl_cons, ih, evaluateDocument_snd, List.map_map]
        simp only [Function.comp_def, List.append_assoc, List.flatMap_cons]
  exact general (⟨[], []⟩, image)

end Evaluation

/-- The same motifs with the same points, which may have been found in another order. -/
structure IsRearranged (left right : Image) : Prop where
  rows : List.Forall₂
    (fun row other => row.motif = other.motif ∧ row.points.Perm other.points) left.rows right.rows

/-- Evaluating documents in another order rearranges the points. -/
theorem isRearranged_evaluateDocuments (image : Image) {documents permuted : List OpenedDocument}
    (rearranged : documents.Perm permuted) :
    IsRearranged (image.evaluateDocuments documents).2 (image.evaluateDocuments permuted).2 := by
  rw [evaluateDocuments_snd, evaluateDocuments_snd]
  refine ⟨?_⟩
  rw [List.forall₂_map_left_iff, List.forall₂_map_right_iff, List.forall₂_same]
  intro row _
  exact ⟨rfl, (rearranged.flatMap_right _).append_left row.points⟩

namespace IsRearranged

variable {left right : Image}

theorem motifs (rearranged : IsRearranged left right) : left.motifs = right.motifs := by
  rw [Image.motifs, Image.motifs, ← List.forall₂_eq_eq_eq, List.forall₂_map_left_iff,
    List.forall₂_map_right_iff]
  exact rearranged.rows.imp fun _ _ same => same.1

theorem domain (rearranged : IsRearranged left right) : left.domain.Perm right.domain := by
  rcases left with ⟨rows⟩
  rcases right with ⟨others⟩
  rcases rearranged with ⟨related⟩
  change List.Forall₂ _ rows others at related
  rw [Image.domain, Image.domain]
  induction related with
  | nil => exact List.Perm.refl []
  | cons same _ ih => exact same.2.append ih

/-- The two images have the same points. -/
theorem distinctDomain (rearranged : IsRearranged left right) :
    left.distinctDomain.Perm right.distinctDomain := by
  rw [List.perm_ext_iff_of_nodup (nodup_distinctDomain left) (nodup_distinctDomain right)]
  intro point
  rw [mem_distinctDomain_iff, mem_distinctDomain_iff]
  exact rearranged.domain.mem_iff

/-- The first row of a motif has the same points in both images. -/
theorem motifDomain? (rearranged : IsRearranged left right) (motif : Motif) :
    ((left.motifDomain? motif).getD []).Perm ((right.motifDomain? motif).getD []) := by
  rcases left with ⟨rows⟩
  rcases right with ⟨others⟩
  rcases rearranged with ⟨related⟩
  change List.Forall₂ _ rows others at related
  rw [Image.motifDomain?, Image.motifDomain?]
  induction related with
  | nil => exact List.Perm.refl []
  | @cons row other _ _ same _ ih =>
      by_cases here : row.motif = motif
      · rw [List.find?_cons_of_pos (by simpa using here),
          List.find?_cons_of_pos (by simpa [← same.1] using here)]
        exact same.2
      · rw [List.find?_cons_of_neg (by simpa using here),
          List.find?_cons_of_neg (by simpa [← same.1] using here)]
        exact ih

theorem selections (rearranged : IsRearranged left right) :
    List.Forall₂ List.Perm (selections left) (selections right) := by
  rw [InclusionMatrix.selections, InclusionMatrix.selections, rearranged.motifs,
    List.forall₂_map_left_iff, List.forall₂_map_right_iff, List.forall₂_same]
  intro motif _
  exact rearranged.motifDomain? motif

/-- A point is selected by the same motifs. -/
theorem entries (rearranged : IsRearranged left right) (point : Point) :
    entries left point = entries right point := by
  rw [InclusionMatrix.entries, InclusionMatrix.entries, ← List.forall₂_eq_eq_eq,
    List.forall₂_map_left_iff, List.forall₂_map_right_iff]
  refine rearranged.selections.imp fun selected other same => ?_
  rw [Bool.eq_iff_iff, List.contains_iff_mem, List.contains_iff_mem]
  exact same.mem_iff

theorem selectionSizes (rearranged : IsRearranged left right) :
    (InclusionMatrix.ofImage left).selectionSizes =
      (InclusionMatrix.ofImage right).selectionSizes := by
  rw [InclusionMatrix.ofImage, InclusionMatrix.ofImage, ← List.forall₂_eq_eq_eq,
    List.forall₂_map_left_iff, List.forall₂_map_right_iff]
  exact rearranged.selections.imp fun _ _ same => same.length_eq

/-- The rows of the matrices are the same ones in another order. -/
theorem matrix_rows (rearranged : IsRearranged left right) :
    (InclusionMatrix.ofImage left).rows.Perm (InclusionMatrix.ofImage right).rows := by
  have same : InclusionMatrix.entries left = InclusionMatrix.entries right :=
    funext rearranged.entries
  rw [InclusionMatrix.rows_ofImage, InclusionMatrix.rows_ofImage, same]
  exact rearranged.distinctDomain.map _

theorem columnIsEmpty (rearranged : IsRearranged left right) (column : Nat) :
    (InclusionMatrix.ofImage left).columnIsEmpty column =
      (InclusionMatrix.ofImage right).columnIsEmpty column := by
  rw [InclusionMatrix.columnIsEmpty, InclusionMatrix.columnIsEmpty, rearranged.matrix_rows.any_eq]

end IsRearranged

end Image

end MotifVote
