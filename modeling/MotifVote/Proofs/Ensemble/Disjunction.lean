import MotifVote.Proofs.Ascending
import MotifVote.Proofs.Scalar.Order
import MotifVote.Statistics

/-!
# Disjunctions before any label

Before a label has been revealed every motif that selects anything is relevant, because it counts as
fully accurate and no accepted threshold is larger than that. So a disjunction is certain of every
point that a motif selects, and classifies it as positive at every accepted threshold.
-/

namespace MotifVote

namespace Config

variable {α : Type} [Scalar α]

theorem le_one_of_checkUnit_eq_ok {setting : String} {value : α}
    (accepted : checkUnit setting value = .ok ()) : value ≤ 1 := by
  rw [checkUnit] at accepted
  split at accepted
  next within =>
    rw [Bool.and_eq_true, decide_eq_true_eq, decide_eq_true_eq] at within
    exact within.2
  next => cases accepted

theorem thresholds_le_one {config : Config α} (accepted : config.check = .ok ()) :
    config.classificationThreshold ≤ 1 ∧ config.accuracyThreshold ≤ 1 := by
  rcases weights : config.edgeWeights with fault | weights
  · simp [check, weights, bind, Except.bind] at accepted
  rcases classification : checkUnit "classification_threshold" config.classificationThreshold with
    fault | ⟨⟩
  · simp [check, weights, classification, bind, Except.bind] at accepted
  rcases accuracy : checkUnit "accuracy_threshold" config.accuracyThreshold with fault | ⟨⟩
  · simp [check, weights, classification, accuracy, bind, Except.bind] at accepted
  exact ⟨le_one_of_checkUnit_eq_ok classification, le_one_of_checkUnit_eq_ok accuracy⟩

end Config

namespace Image

variable {image : Image} {point : Point}

theorem mem_firstSeen_iff {seen : PointSet} {points : List Point} :
    point ∈ firstSeen seen points ↔ point ∈ points ∧ point ∉ seen := by
  induction points generalizing seen with
  | nil => simp [firstSeen]
  | cons first points ih =>
      by_cases known : first ∈ seen
      · rw [firstSeen, if_pos (Std.TreeSet.contains_iff_mem.mpr known), ih, List.mem_cons]
        constructor
        · rintro ⟨later, fresh⟩
          exact ⟨Or.inr later, fresh⟩
        · rintro ⟨rfl | later, fresh⟩
          · exact absurd known fresh
          · exact ⟨later, fresh⟩
      · rw [firstSeen, if_neg (mt Std.TreeSet.contains_iff_mem.mp known), List.mem_cons, ih,
          Std.TreeSet.mem_insert, Std.LawfulEqCmp.compare_eq_iff_eq, List.mem_cons]
        grind

/-- The distinct points of an image are its points. -/
theorem mem_distinctDomain_iff : point ∈ image.distinctDomain ↔ point ∈ image.domain := by
  simp [distinctDomain, mem_firstSeen_iff]

/-- A motif selects a point in an image. -/
def Selects (image : Image) (motif : Motif) (point : Point) : Prop :=
  ∃ points, image.motifDomain? motif = some points ∧ point ∈ points

theorem Selects.exists_row {motif : Motif} (selects : image.Selects motif point) :
    ∃ row ∈ image.rows, row.motif = motif ∧ point ∈ row.points := by
  rcases selects with ⟨points, found, member⟩
  rcases Option.map_eq_some_iff.mp found with ⟨row, first, rfl⟩
  exact ⟨row, List.mem_of_find?_eq_some first, by simpa using List.find?_some first, member⟩

end Image

namespace InclusionMatrix

variable {image : Image} {motif : Motif} {point : Point}

/-- The entries of a point, one for each motif of the image. -/
def entries (image : Image) (point : Point) : List Bool :=
  (selections image).map fun selected => selected.contains point

theorem rows_ofImage (image : Image) :
    (ofImage image).rows = image.distinctDomain.map (entries image) :=
  rfl

theorem exists_getElem?_entries (selects : image.Selects motif point) :
    ∃ column : Nat, image.motifs[column]? = some motif ∧
      (entries image point)[column]? = some true := by
  -- A column is looked up by its motif, so any row of the motif will do.
  rcases selects.exists_row with ⟨row, member, rfl, -⟩
  rcases selects with ⟨points, found, inside⟩
  rcases List.mem_iff_getElem?.mp (List.mem_map_of_mem member) with ⟨column, registered⟩
  refine ⟨column, registered, ?_⟩
  have listed : image.motifs[column]? = some row.motif := registered
  simp [entries, selections, listed, found, inside]

/-- A motif that selects a point has a column that is not empty. -/
theorem columnIsEmpty_eq_false {column : Nat} (inside : point ∈ image.distinctDomain)
    (entry : (entries image point)[column]? = some true) :
    (ofImage image).columnIsEmpty column = false := by
  have nonempty : (ofImage image).rows.any (fun row => (row[column]?).getD false) = true := by
    rw [rows_ofImage, List.any_eq_true]
    exact ⟨entries image point, List.mem_map_of_mem inside, by simp [entry]⟩
  rw [columnIsEmpty, nonempty]
  rfl

end InclusionMatrix

namespace Jury

open InclusionMatrix (entries)

variable {α : Type} [Scalar α] {config : Config α} {image : Image} {motif : Motif} {point : Point}

/-- The jury of an image before any label. -/
def ofImage (image : Image) (config : Config α) : Jury α :=
  ofMatrix (.ofImage image) config.accuracySmoothing config.accuracyThreshold

/-- The number of relevant motifs that select a point. -/
def voteCount (image : Image) (config : Config α) (point : Point) : Nat :=
  (List.zipWith and (entries image point) (ofImage image config).relevant).count true

/-- Every motif that selects anything is relevant to begin with. -/
theorem relevant_ofImage {column : Nat} (atMost : config.accuracyThreshold ≤ 1)
    (registered : image.motifs[column]? = some motif)
    (nonempty : (InclusionMatrix.ofImage image).columnIsEmpty column = false) :
    (ofImage image config).relevant[column]? = some true := by
  have accurate : (ofImage image config).accuracies[column]? = some 1 := by
    have shape : (ofImage image config).accuracies = image.motifs.map fun _ => 1 := rfl
    rw [shape, List.getElem?_map, registered, Option.map_some]
  rw [relevant, List.getElem?_mapIdx, accurate, Option.map_some]
  simp [ofImage, ofMatrix, atMost, nonempty]

theorem voteCount_pos (atMost : config.accuracyThreshold ≤ 1)
    (selects : image.Selects motif point) (inside : point ∈ image.distinctDomain) :
    0 < voteCount image config point := by
  rcases InclusionMatrix.exists_getElem?_entries selects with ⟨column, registered, entry⟩
  have nonempty := InclusionMatrix.columnIsEmpty_eq_false inside entry
  have relevant := relevant_ofImage atMost registered nonempty
  rw [voteCount, List.count_pos_iff, List.mem_iff_getElem?]
  exact ⟨column, by simp [List.getElem?_zipWith, entry, relevant]⟩

theorem disjunction_ofImage (image : Image) (config : Config α) :
    (ofImage image config).disjunction = image.distinctDomain.map fun point =>
      if voteCount image config point > 0 then 1 else 0 := by
  have rows : (ofImage image config).matrix.rows = image.distinctDomain.map (entries image) := rfl
  rw [disjunction, votes, rows, List.map_map, List.map_map]
  rfl

end Jury

namespace Ensemble

variable {α : Type} [Exponential α] {config : Config α} {image : Image} {motif : Motif}
variable {point : Point}

/-- A disjunction is certain of the points with a vote, and excludes the others. -/
theorem ranking_disjunction (image : Image) (config : Config α) :
    (ofImage .disjunction image config).ranking = image.distinctDomain.map fun point =>
      (point, if Jury.voteCount image config point > 0 then 1 else 0) := by
  rw [List.map_prod_left_eq_zip, ← Jury.disjunction_ofImage]
  rfl

/-- A disjunction classifies every point that a motif selects as positive. -/
theorem mem_classified_disjunction (accepted : config.check = .ok ())
    (selects : image.Selects motif point) :
    point ∈ (ofImage .disjunction image config).classified none := by
  rcases Config.thresholds_le_one accepted with ⟨classification, accuracy⟩
  rcases selects.exists_row with ⟨row, member, -, inRow⟩
  have inside : point ∈ image.distinctDomain :=
    Image.mem_distinctDomain_iff.mpr (List.mem_flatMap.mpr ⟨row, member, inRow⟩)
  have certain : (point, 1) ∈ (ofImage .disjunction image config).ranking := by
    rw [ranking_disjunction]
    refine List.mem_map.mpr ⟨point, inside, ?_⟩
    rw [if_pos (Jury.voteCount_pos accuracy selects inside)]
  refine List.mem_map.mpr ⟨(point, 1), List.mem_filter.mpr ⟨certain, ?_⟩, rfl⟩
  exact decide_eq_true classification

end Ensemble

namespace Score

variable {α : Type} [Scalar α]

/-- All true points are hit if all of them are predicted. -/
theorem hits_of_subset {predicted truth : PointSet} (subset : ∀ point ∈ truth, point ∈ predicted) :
    hits predicted truth = truth.size := by
  have same : (predicted.toList.filter truth.contains).Perm truth.toList := by
    have distinct := (nodup_toList predicted).filter truth.contains
    refine (List.perm_ext_iff_of_nodup distinct (nodup_toList truth)).mpr ?_
    intro point
    rw [List.mem_filter, Std.TreeSet.mem_toList, Std.TreeSet.mem_toList,
      Std.TreeSet.contains_iff_mem]
    exact ⟨And.right, fun true => ⟨subset point true, true⟩⟩
  rw [hits, List.countP_eq_length_filter, same.length_eq, Std.TreeSet.length_toList]

/-- Recall is one if all true points are predicted, and there is any. -/
theorem sensitivityOf_eq_one [Scalar.IsCounting α] {predicted truth : PointSet}
    (subset : ∀ point ∈ truth, point ∈ predicted) (nonempty : 0 < truth.size)
    (bounded : truth.size ≤ UInt64.size) : (sensitivityOf predicted truth : α) = 1 := by
  rw [sensitivityOf, hits_of_subset subset]
  exact Scalar.IsCounting.div_self nonempty bounded

end Score

end MotifVote
