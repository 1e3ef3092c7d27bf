import MotifVote.Proofs.Ensemble.Extension

/-!
# Inclusion matrices as incidence relations

The matrix of an image says which of its points lie in which of its rows. A column is looked up by
its motif, so it stands for the first row of this motif, and what is said of a column is said of
that row. Points are numbered in the order in which the image has them first.

A program fills such a matrix in place. It starts with a table that holds nothing, runs through the
columns, and sets an entry for each point of the column in the row that it finds for the point. A
point that a column repeats is set again, and all other entries stay as they are. No two points
share a row, so an entry is set if and only if its own point lies in its own column, which is what
the matrix says.
-/

namespace MotifVote

namespace Image

variable {image : Image} {motif : Motif} {row : ImageRow}

/-- A row is the first one with its motif. -/
def IsFirst (image : Image) (motif : Motif) (row : ImageRow) : Prop :=
  ∃ index : Nat, image.rows[index]? = some row ∧ row.motif = motif ∧
    ∀ earlier < index, ∀ other, image.rows[earlier]? = some other → other.motif ≠ motif

theorem find?_eq_some_iff_isFirst :
    image.rows.find? (fun other => other.motif = motif) = some row ↔ image.IsFirst motif row := by
  rw [List.find?_eq_some_iff_getElem]
  constructor
  · rintro ⟨same, index, bound, here, fresh⟩
    refine ⟨index, List.getElem?_eq_some_iff.mpr ⟨bound, here⟩, by simpa using same, ?_⟩
    intro earlier before other found
    rcases List.getElem?_eq_some_iff.mp found with ⟨inside, rfl⟩
    simpa using fresh earlier before
  · rintro ⟨index, found, same, fresh⟩
    rcases List.getElem?_eq_some_iff.mp found with ⟨bound, here⟩
    refine ⟨by simpa using same, index, bound, here, ?_⟩
    intro earlier before
    have inside := Nat.lt_trans before bound
    simpa using fresh earlier before _ (List.getElem?_eq_getElem inside)

theorem IsFirst.motifDomain? (first : image.IsFirst motif row) :
    image.motifDomain? motif = some row.points := by
  rw [Image.motifDomain?, find?_eq_some_iff_isFirst.mpr first, Option.map_some]

theorem existsUnique_isFirst (registered : motif ∈ image.motifs) :
    ∃! row, image.IsFirst motif row := by
  rcases List.mem_map.mp registered with ⟨own, member, rfl⟩
  rcases found : image.rows.find? (fun other => other.motif = own.motif) with _ | first
  · have missed := List.find?_eq_none.mp found own member
    simp at missed
  · refine ⟨first, find?_eq_some_iff_isFirst.mp found, fun other alsoFirst => ?_⟩
    have same := found.symm.trans (find?_eq_some_iff_isFirst.mpr alsoFirst)
    exact (Option.some.inj same).symm

theorem isFirst_of_nodup {column : Nat} (distinct : image.motifs.Nodup)
    (listed : image.rows[column]? = some row) : image.IsFirst row.motif row := by
  refine ⟨column, listed, rfl, fun earlier before other found same => ?_⟩
  have here : image.motifs[column]? = some row.motif := by
    rw [motifs, List.getElem?_map, listed, Option.map_some]
  have there : image.motifs[earlier]? = some row.motif := by
    rw [motifs, List.getElem?_map, found, Option.map_some, same]
  have inside : earlier < image.motifs.length := (List.getElem?_eq_some_iff.mp there).1
  have equal : earlier = column :=
    (List.getElem?_inj inside distinct).mp (there.trans here.symm)
  omega

/-- Distinct points are listed in the order of where they are found first. -/
theorem pairwise_firstSeen (seen : PointSet) (points : List Point) :
    (firstSeen seen points).Pairwise fun earlier later =>
      points.idxOf earlier < points.idxOf later := by
  induction points generalizing seen with
  | nil => exact List.Pairwise.nil
  | cons first points ih =>
      have later : ∀ {left right : Point}, left ≠ first → right ≠ first →
          points.idxOf left < points.idxOf right →
          (first :: points).idxOf left < (first :: points).idxOf right := by
        intro left right leftFresh rightFresh before
        rw [List.idxOf_cons_ne _ leftFresh.symm, List.idxOf_cons_ne _ rightFresh.symm]
        omega
      -- A point that counts as seen is not listed, so the first point is not among the others.
      have fresh : ∀ {known : PointSet} {point : Point}, first ∈ known →
          point ∈ firstSeen known points → point ≠ first := by
        rintro known point old listed rfl
        exact (mem_firstSeen_iff.mp listed).2 old
      rw [firstSeen]
      split
      next known =>
        have old := Std.TreeSet.contains_iff_mem.mp known
        exact (ih seen).imp_of_mem fun left right => later (fresh old left) (fresh old right)
      next =>
        refine List.pairwise_cons.mpr ⟨fun point listed => ?_, ?_⟩
        · have other := fresh Std.TreeSet.mem_insert_self listed
          rw [List.idxOf_cons_self, List.idxOf_cons_ne _ other.symm]
          exact Nat.succ_pos _
        · exact (ih _).imp_of_mem fun left right =>
            later (fresh Std.TreeSet.mem_insert_self left) (fresh Std.TreeSet.mem_insert_self right)

end Image

namespace InclusionMatrix

section Table

/-- The entry of a table in a row and a column; false out of range. -/
def entryAt (rows : List (List Bool)) (row column : Nat) : Bool :=
  (((rows[row]?).getD [])[column]?).getD false

/-- A table has some number of rows, all of one width. -/
structure IsTable (height width : Nat) (rows : List (List Bool)) : Prop where
  height : rows.length = height
  width : ∀ row ∈ rows, row.length = width

/-- Sets the entry of a point in a column, if the point has a row. -/
def mark (points : List Point) (column : Nat) (rows : List (List Bool)) (point : Point) :
    List (List Bool) :=
  match points.idxOf? point with
  | some row => rows.modify row (·.set column true)
  | none => rows

/-- Sets the entries of all points of some columns, the first of which has a given number. -/
def fillFrom (points : List Point) (column : Nat) (rows : List (List Bool)) :
    List (List Point) → List (List Bool)
  | [] => rows
  | selected :: columns =>
    fillFrom points (column + 1) (selected.foldl (mark points column) rows) columns

/-- The table of an image, filled entry by entry. -/
def filled (image : Image) : List (List Bool) :=
  let blank := List.replicate image.motifs.length false
  fillFrom image.distinctDomain 0 (List.replicate image.distinctDomain.length blank)
    (selections image)

variable {height width row column place : Nat} {rows other : List (List Bool)}
variable {points selected : List Point} {columns : List (List Point)} {point : Point}

theorem entryAt_eq_false (table : IsTable height width rows)
    (outside : height ≤ row ∨ width ≤ place) : entryAt rows row place = false := by
  rw [entryAt]
  rcases found : rows[row]? with _ | entries
  · rfl
  · have inside := (List.getElem?_eq_some_iff.mp found).1
    have length := table.width entries (List.mem_of_getElem? found)
    have beyond : entries[place]? = none := by
      rw [List.getElem?_eq_none_iff, length]
      rw [table.height] at inside
      omega
    rw [Option.getD_some, beyond, Option.getD_none]

theorem IsTable.eq_of_entryAt (table : IsTable height width rows)
    (otherTable : IsTable height width other)
    (same : ∀ row place, entryAt rows row place = entryAt other row place) : rows = other := by
  have heights := table.height.trans otherTable.height.symm
  refine List.ext_getElem heights fun row inside otherInside => ?_
  have length := table.width _ (List.getElem_mem inside)
  have otherLength := otherTable.width _ (List.getElem_mem otherInside)
  refine List.ext_getElem (length.trans otherLength.symm) fun place within otherWithin => ?_
  simpa [entryAt, inside, otherInside, within, otherWithin] using same row place

theorem isTable_replicate (height width : Nat) :
    IsTable height width (List.replicate height (List.replicate width false)) := by
  refine ⟨List.length_replicate, fun row member => ?_⟩
  rw [List.eq_of_mem_replicate member, List.length_replicate]

theorem entryAt_replicate (height width row place : Nat) :
    entryAt (List.replicate height (List.replicate width false)) row place = false := by
  rw [entryAt, List.getElem?_replicate]
  split
  · rw [Option.getD_some, List.getElem?_replicate]
    split <;> rfl
  · rfl

theorem IsTable.mark (table : IsTable height width rows) (points : List Point) (column : Nat)
    (point : Point) : IsTable height width (mark points column rows point) := by
  rw [InclusionMatrix.mark]
  split
  next row found =>
    refine ⟨by rw [List.length_modify, table.height], fun entries member => ?_⟩
    rcases List.mem_iff_getElem?.mp member with ⟨index, listed⟩
    rw [List.getElem?_modify] at listed
    rcases Option.map_eq_some_iff.mp listed with ⟨old, before, rfl⟩
    have length := table.width old (List.mem_of_getElem? before)
    split
    · rw [List.length_set, length]
    · exact length
  next => exact table

theorem entryAt_mark (table : IsTable points.length width rows) (distinct : points.Nodup)
    (inside : column < width) :
    entryAt (mark points column rows point) row place = true ↔
      entryAt rows row place = true ∨ (place = column ∧ points[row]? = some point) := by
  rw [mark]
  split
  next found position =>
    rcases List.idxOf?_eq_some_iff.mp position with ⟨bound, here, -⟩
    have bound' : found < rows.length := by rwa [table.height]
    have listed : points[found]? = some point :=
      List.getElem?_eq_some_iff.mpr ⟨bound, here⟩
    by_cases own : found = row
    · subst own
      have length := table.width _ (List.getElem_mem bound')
      have within : column < rows[found].length := by rwa [length]
      by_cases same : column = place
      · subst same
        simp [entryAt, bound', listed, within]
      · simp [entryAt, bound', same, Ne.symm same]
    · -- No point has two rows, so this one is that of another point.
      have different : points[row]? ≠ some point := by
        intro alsoListed
        exact own ((List.getElem?_inj bound distinct).mp (listed.trans alsoListed.symm))
      simp [entryAt, own, different]
  next missing =>
    have absent : points[row]? ≠ some point := by
      intro listed
      exact List.idxOf?_eq_none_iff.mp missing (List.mem_of_getElem? listed)
    simp [absent]

theorem IsTable.foldl_mark (table : IsTable height width rows) (points : List Point) (column : Nat)
    (selected : List Point) :
    IsTable height width (selected.foldl (InclusionMatrix.mark points column) rows) :=
  List.foldlRecOn selected _ table fun _ before point _ => before.mark points column point

/-- The points of a column set its entries in their rows, whether or not they are repeated. -/
theorem entryAt_foldl_mark (table : IsTable points.length width rows) (distinct : points.Nodup)
    (inside : column < width) :
    entryAt (selected.foldl (mark points column) rows) row place = true ↔
      entryAt rows row place = true ∨
        (place = column ∧ ∃ point ∈ selected, points[row]? = some point) := by
  induction selected generalizing rows with
  | nil => simp
  | cons first selected ih =>
      rw [List.foldl_cons, ih (table.mark points column first), entryAt_mark table distinct inside,
        List.exists_mem_cons_iff]
      grind

theorem IsTable.fillFrom (table : IsTable height width rows) (points : List Point) (column : Nat)
    (columns : List (List Point)) : IsTable height width (fillFrom points column rows columns) := by
  induction columns generalizing column rows with
  | nil => exact table
  | cons selected columns ih => exact ih (table.foldl_mark points column selected) (column + 1)

theorem entryAt_fillFrom (table : IsTable points.length width rows) (distinct : points.Nodup)
    (inside : column + columns.length ≤ width) :
    entryAt (fillFrom points column rows columns) row place = true ↔
      entryAt rows row place = true ∨ ∃ index selected, columns[index]? = some selected ∧
        place = column + index ∧ ∃ point ∈ selected, points[row]? = some point := by
  induction columns generalizing column rows with
  | nil => simp [fillFrom]
  | cons first columns ih =>
      -- What the first column has set is old for the columns that follow.
      rw [List.length_cons] at inside
      rw [fillFrom, ih (table.foldl_mark points column first) (by omega),
        entryAt_foldl_mark table distinct (by omega)]
      constructor
      · rintro ((old | ⟨rfl, marked⟩) | ⟨index, selected, listed, rfl, marked⟩)
        · exact Or.inl old
        · exact Or.inr ⟨0, first, rfl, rfl, marked⟩
        · exact Or.inr ⟨index + 1, selected, listed, by omega, marked⟩
      · rintro (old | ⟨index, selected, listed, rfl, marked⟩)
        · exact Or.inl (Or.inl old)
        · rcases index with _ | index
          · cases listed
            exact Or.inl (Or.inr ⟨rfl, marked⟩)
          · exact Or.inr ⟨index, selected, listed, by omega, marked⟩

end Table

variable {image : Image} {motif : Motif} {point : Point} {row : Nat} {column : Nat}

theorem includes_eq_entryAt (matrix : InclusionMatrix) (row column : Nat) :
    matrix.includes row column = entryAt matrix.rows row column :=
  rfl

theorem isTable_ofImage (image : Image) :
    IsTable image.distinctDomain.length image.motifs.length (ofImage image).rows := by
  rw [rows_ofImage]
  refine ⟨List.length_map _, fun row member => ?_⟩
  rcases List.mem_map.mp member with ⟨point, -, rfl⟩
  exact length_entries image point

theorem getElem?_selections_eq_some_iff {selected : List Point} :
    (selections image)[column]? = some selected ↔
      ∃ motif first, image.motifs[column]? = some motif ∧ image.IsFirst motif first ∧
        first.points = selected := by
  rw [selections, List.getElem?_map, Option.map_eq_some_iff]
  constructor
  · rintro ⟨motif, listed, rfl⟩
    rcases Image.existsUnique_isFirst (List.mem_of_getElem? listed) with ⟨first, isFirst, -⟩
    exact ⟨motif, first, listed, isFirst, by rw [isFirst.motifDomain?, Option.getD_some]⟩
  · rintro ⟨motif, first, listed, isFirst, rfl⟩
    exact ⟨motif, listed, by rw [isFirst.motifDomain?, Option.getD_some]⟩

theorem getElem?_entries_eq_some_true_iff :
    (entries image point)[column]? = some true ↔
      ∃ motif first, image.motifs[column]? = some motif ∧ image.IsFirst motif first ∧
        point ∈ first.points := by
  rw [entries, List.getElem?_map, Option.map_eq_some_iff]
  simp only [getElem?_selections_eq_some_iff, List.contains_iff_mem]
  constructor
  · rintro ⟨_, ⟨motif, first, listed, isFirst, rfl⟩, inside⟩
    exact ⟨motif, first, listed, isFirst, inside⟩
  · rintro ⟨motif, first, listed, isFirst, inside⟩
    exact ⟨first.points, ⟨motif, first, listed, isFirst, rfl⟩, inside⟩

/-- An entry says whether the point of its row lies in the first row of the motif of its column. -/
theorem includes_ofImage_iff :
    (ofImage image).includes row column = true ↔
      ∃ point motif first, image.distinctDomain[row]? = some point ∧
        image.motifs[column]? = some motif ∧ image.IsFirst motif first ∧ point ∈ first.points := by
  rw [includes, InclusionMatrix.row, rows_ofImage, List.getElem?_map]
  rcases image.distinctDomain[row]? with _ | point
  · simp
  · have entry : ((entries image point)[column]?).getD false = true ↔
        (entries image point)[column]? = some true := by
      rcases (entries image point)[column]? with _ | selects <;> simp
    simp only [Option.map_some, Option.getD_some, entry, getElem?_entries_eq_some_true_iff,
      Option.some.injEq, exists_and_left, exists_eq_left']

theorem columnIsEmpty_ofImage_iff {first : ImageRow} (listed : image.motifs[column]? = some motif)
    (isFirst : image.IsFirst motif first) :
    (ofImage image).columnIsEmpty column = true ↔ first.points = [] := by
  rw [← not_iff_not, Bool.not_eq_true, columnIsEmpty_eq_false_iff, List.eq_nil_iff_forall_not_mem,
    not_forall_not]
  rcases Image.existsUnique_isFirst (List.mem_of_getElem? listed) with ⟨only, -, unique⟩
  refine exists_congr fun point => ?_
  rw [getElem?_entries_eq_some_true_iff]
  constructor
  · rintro ⟨other, row, otherListed, alsoFirst, inside⟩
    cases listed.symm.trans otherListed
    rwa [unique first isFirst, ← unique row alsoFirst]
  · intro inside
    exact ⟨motif, first, listed, isFirst, inside⟩

/-- The table that is filled entry by entry is the matrix. -/
theorem filled_eq_rows (image : Image) : filled image = (ofImage image).rows := by
  have blank := isTable_replicate image.distinctDomain.length image.motifs.length
  have bound : 0 + (selections image).length ≤ image.motifs.length := by
    rw [Nat.zero_add, selections, List.length_map]
  refine (blank.fillFrom image.distinctDomain 0 (selections image)).eq_of_entryAt
    (isTable_ofImage image) fun row place => ?_
  rw [Bool.eq_iff_iff, entryAt_fillFrom blank image.nodup_distinctDomain bound, entryAt_replicate,
    ← includes_eq_entryAt, includes_ofImage_iff]
  simp only [getElem?_selections_eq_some_iff, Nat.zero_add, Bool.false_eq_true, false_or]
  constructor
  · rintro ⟨_, _, ⟨motif, first, listed, isFirst, rfl⟩, rfl, point, inside, here⟩
    exact ⟨point, motif, first, here, listed, isFirst, inside⟩
  · rintro ⟨point, motif, first, here, listed, isFirst, inside⟩
    exact ⟨place, _, ⟨motif, first, listed, isFirst, rfl⟩, rfl, point, inside, here⟩

/-- A matrix says which points of an image lie in which of its rows. -/
structure IsIncidence (image : Image) (matrix : InclusionMatrix) : Prop where
  nodup_points : matrix.points.Nodup
  mem_points : ∀ point, point ∈ matrix.points ↔ ∃ row ∈ image.rows, point ∈ row.points
  /-- Points are in the order in which they are found first. -/
  pairwise_points : matrix.points.Pairwise fun earlier later =>
    image.domain.idxOf earlier < image.domain.idxOf later
  indexOf?_eq_some_iff : ∀ point index,
    matrix.indexOf? point = some index ↔ matrix.points[index]? = some point
  indexOf?_eq_none_iff : ∀ point, matrix.indexOf? point = none ↔ point ∉ matrix.points
  motifs : matrix.motifs = image.rows.map (·.motif)
  length_rows : matrix.rows.length = matrix.points.length
  length_row : ∀ index < matrix.points.length, (matrix.row index).length = image.rows.length
  /-- Every column has a row of its image to stand for. -/
  existsUnique_isFirst : ∀ motif ∈ matrix.motifs, ∃! row, image.IsFirst motif row
  /-- Where motifs are distinct, this is its own row. -/
  isFirst_of_nodup : matrix.motifs.Nodup →
    ∀ (column : Nat) (row : ImageRow), image.rows[column]? = some row → image.IsFirst row.motif row
  includes_iff : ∀ row column, matrix.includes row column = true ↔
    ∃ point motif first, matrix.points[row]? = some point ∧ matrix.motifs[column]? = some motif ∧
      image.IsFirst motif first ∧ point ∈ first.points
  includes_eq_false : ∀ row column,
    matrix.points.length ≤ row ∨ image.rows.length ≤ column → matrix.includes row column = false
  length_selectionSizes : matrix.selectionSizes.length = image.rows.length
  selectionSizes : ∀ (column : Nat) (motif : Motif) (first : ImageRow),
    matrix.motifs[column]? = some motif → image.IsFirst motif first →
      matrix.selectionSizes[column]? = some first.points.length
  columnIsEmpty_iff : ∀ (column : Nat) (motif : Motif) (first : ImageRow),
    matrix.motifs[column]? = some motif → image.IsFirst motif first →
      (matrix.columnIsEmpty column = true ↔ first.points = [])
  /-- Filling the table in place gives the same rows. -/
  filled : matrix.rows = filled image

theorem isIncidence_ofImage (image : Image) : IsIncidence image (ofImage image) := by
  have distinct : (ofImage image).points.Nodup := image.nodup_distinctDomain
  have table := isTable_ofImage image
  have columns : image.motifs.length = image.rows.length := List.length_map _
  refine {
    nodup_points := distinct
    pairwise_points := Image.pairwise_firstSeen ∅ image.domain
    motifs := rfl
    length_rows := table.height
    existsUnique_isFirst := fun motif => Image.existsUnique_isFirst
    isFirst_of_nodup := fun distinct column row => Image.isFirst_of_nodup distinct
    includes_iff := fun row column => includes_ofImage_iff
    columnIsEmpty_iff := fun column motif first => columnIsEmpty_ofImage_iff
    filled := (filled_eq_rows image).symm
    mem_points := ?mem_points
    indexOf?_eq_some_iff := ?indexOf?_eq_some_iff
    indexOf?_eq_none_iff := fun point => List.idxOf?_eq_none_iff
    length_row := ?length_row
    includes_eq_false := ?includes_eq_false
    length_selectionSizes := ?length_selectionSizes
    selectionSizes := ?selectionSizes }
  case mem_points =>
    intro point
    exact Image.mem_distinctDomain_iff.trans List.mem_flatMap
  case indexOf?_eq_some_iff =>
    intro point index
    rw [indexOf?, List.idxOf?_eq_some_iff]
    constructor
    · rintro ⟨bound, here, -⟩
      exact List.getElem?_eq_some_iff.mpr ⟨bound, here⟩
    · intro listed
      rcases List.getElem?_eq_some_iff.mp listed with ⟨bound, rfl⟩
      refine ⟨bound, rfl, fun earlier before same => ?_⟩
      have equal := distinct.getElem_inj_iff.mp same
      omega
  case length_row =>
    intro index inside
    have bound : index < (ofImage image).rows.length := by rwa [table.height]
    rw [row, List.getElem?_eq_getElem bound, Option.getD_some,
      table.width _ (List.getElem_mem bound), columns]
  case includes_eq_false =>
    intro row column outside
    rw [← columns] at outside
    exact entryAt_eq_false table outside
  case length_selectionSizes =>
    rw [ofImage, selections, List.length_map, List.length_map, columns]
  case selectionSizes =>
    intro column motif first listed isFirst
    have selected := getElem?_selections_eq_some_iff.mpr ⟨motif, first, listed, isFirst, rfl⟩
    rw [ofImage, List.getElem?_map, selected, Option.map_some]

end InclusionMatrix

end MotifVote
