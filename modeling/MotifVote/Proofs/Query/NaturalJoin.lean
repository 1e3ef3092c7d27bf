import MotifVote.Proofs.Query.Union
import Mathlib.Data.List.Basic

/-!
# The natural join of tables

A program keeps no names beside the values of a row. It looks up once at which positions the shared
columns stand in either operand and at which positions the others stand in the right one, and then
reads the keys, what is put behind a row, and the header at these positions. Here such a join fails
as soon as it reads behind the end of a row. For tables it never does, and it is the natural join;
the same goes for a projection.

A list of positions is known by what it reads from the columns. Since a row of a table is what some
assignment gives to the columns, the same positions read from the row what the assignment gives to
the columns read.

With this the laws of the natural join are put together: what it says, that the order of operands
and their grouping only matters to the order of columns, and what it is where no column is shared
and where all are.
-/

namespace MotifVote.Relation

/-- What stands at some positions of a list, unless one of them is out of bounds. -/
def readAt? (values : List UInt64) (positions : List Nat) : Option (List UInt64) :=
  positions.mapM fun position => values[position]?

/-- The positions of each shared column, on the left and on the right. -/
def sharedPositions (left right : List Column) : List (Nat × Nat) :=
  left.zipIdx.filterMap fun entry => (right.idxOf? entry.1).map fun position => (entry.2, position)

/-- The positions on the right where no shared column stands. -/
def extraPositions (left right : List Column) : List Nat :=
  (List.range right.length).filter fun position =>
    !(sharedPositions left right).any fun shared => shared.2 == position

/-- The key of a right row and what is put behind the left rows with this key. -/
def splitAt? (shared extra : List Nat) (row : Row) : Option (Row × Row) := do
  let key ← readAt? row shared
  let rest ← readAt? row extra
  return (key, rest)

/-- A left row with what stands behind it in the join, once for each right row with its key. -/
def extendAt? (shared : List Nat) (others : List (Row × Row)) (row : Row) : Option (List Row) := do
  let key ← readAt? row shared
  return (others.filter (·.1 == key)).map fun other => row ++ other.2

/-- The natural join, with rows that are read by position. -/
def joinByPosition? (left right : Relation) : Option Relation := do
  let shared := sharedPositions left.columns right.columns
  let extra := extraPositions left.columns right.columns
  let header ← readAt? right.columns extra
  let others ← right.rows.toList.mapM (splitAt? (shared.map (·.2)) extra)
  let rows ← left.rows.toList.mapM (extendAt? (shared.map (·.1)) others)
  return ⟨left.columns ++ header, .ofList rows.flatten⟩

/-- The values of a column, ascending, with rows that are read by position. -/
def projectByPosition? (relation : Relation) (column : Column) : Option (List VertexId) :=
  match relation.columns.idxOf? column with
  | none => some []
  | some position => do
    let values ← relation.rows.toList.mapM fun row => row[position]?
    return (Std.TreeSet.ofList values).toList

section Reading

/-- A traversal in which nothing fails. -/
theorem mapM_eq_some_map {β γ : Type} {values : List β} {f : β → Option γ} {g : β → γ}
    (found : ∀ value ∈ values, f value = some (g value)) :
    values.mapM f = some (values.map g) := by
  induction values with
  | nil => rfl
  | cons value values ih =>
      have later := ih fun other member => found other (List.mem_cons_of_mem value member)
      simp [found value List.mem_cons_self, later]

theorem readAt?_map (assignment : Column → VertexId) (columns : List Column)
    (positions : List Nat) :
    readAt? (columns.map assignment) positions =
      (readAt? columns positions).map (List.map assignment) := by
  induction positions with
  | nil => rfl
  | cons position positions ih =>
      simp only [readAt?, List.mapM_cons, List.getElem?_map] at ih ⊢
      rw [ih]
      rcases columns[position]? with _ | column
      · rfl
      · rcases positions.mapM (fun position => columns[position]?) with _ | read
        · rfl
        · rfl

/-- Positions that are read off some entries, with what stands there. -/
theorem readAt?_filterMap {ι : Type} {values : List UInt64} {entries : List ι}
    {position : ι → Option Nat} {value : ι → Option UInt64}
    (found : ∀ entry ∈ entries,
      (position entry).map (fun index => values[index]?) = (value entry).map some) :
    readAt? values (entries.filterMap position) = some (entries.filterMap value) := by
  induction entries with
  | nil => rfl
  | cons entry entries ih =>
      have later := ih fun other member => found other (List.mem_cons_of_mem entry member)
      have here := found entry List.mem_cons_self
      rw [readAt?] at later
      rcases chosen : position entry with _ | index
      · rcases given : value entry with _ | column
        · simp [readAt?, chosen, given, later]
        · simp [chosen, given] at here
      · rcases given : value entry with _ | column
        · simp [chosen, given] at here
        · have standing : values[index]? = some column := by simpa [chosen, given] using here
          simp [readAt?, chosen, given, standing, later]

end Reading

section Positions

variable {left right : List Column}

theorem filterMap_guard_zipIdx (columns : List Column) (p : Column → Bool) :
    columns.zipIdx.filterMap (fun entry => Option.guard p entry.1) = columns.filter p := by
  have firsts : columns.zipIdx.map (·.1) = columns := List.zipIdx_map_fst 0 columns
  conv_rhs => rw [← firsts, ← List.filterMap_eq_filter, List.filterMap_map]
  rfl

theorem readAt?_sharedPositions_left (left right : List Column) :
    readAt? left ((sharedPositions left right).map (·.1)) =
      some (left.filter fun column => right.contains column) := by
  rw [sharedPositions, List.map_filterMap, ← filterMap_guard_zipIdx]
  apply readAt?_filterMap
  intro entry member
  have here : left[entry.2]? = some entry.1 := List.mem_zipIdx_iff_getElem?.mp member
  rcases idxOf?_cases right entry.1 with ⟨missing, absent⟩ | ⟨position, found, -, present⟩
  · simp [Option.guard, missing, absent]
  · simp [Option.guard, found, present, here]

theorem readAt?_sharedPositions_right (left right : List Column) :
    readAt? right ((sharedPositions left right).map (·.2)) =
      some (left.filter fun column => right.contains column) := by
  rw [sharedPositions, List.map_filterMap, ← filterMap_guard_zipIdx]
  apply readAt?_filterMap
  intro entry member
  rcases idxOf?_cases right entry.1 with ⟨missing, absent⟩ | ⟨position, found, there, present⟩
  · simp [Option.guard, missing, absent]
  · simp [Option.guard, found, present, there]

/-- A shared column stands at a position of the right columns exactly if it is a left one. -/
theorem any_sharedPositions (distinct : right.Nodup) {position : Nat} {column : Column}
    (here : right[position]? = some column) :
    ((sharedPositions left right).any fun shared => shared.2 == position) =
      left.contains column := by
  rcases List.getElem?_eq_some_iff.mp here with ⟨inside, same⟩
  rw [Bool.eq_iff_iff, List.any_eq_true, List.contains_iff_mem]
  simp only [sharedPositions, List.mem_filterMap, Option.map_eq_some_iff, beq_iff_eq]
  constructor
  · rintro ⟨_, ⟨entry, member, index, found, rfl⟩, rfl⟩
    rcases List.idxOf?_eq_some_iff.mp found with ⟨bound, standing, -⟩
    have equal : entry.1 = column := standing.symm.trans same
    exact equal ▸ List.mem_of_getElem? (List.mem_zipIdx_iff_getElem?.mp member)
  · intro member
    rcases List.mem_iff_getElem?.mp member with ⟨index, found⟩
    refine ⟨(index, position), ⟨(column, index), List.mem_zipIdx_iff_getElem?.mpr found,
      position, ?_, rfl⟩, rfl⟩
    refine List.idxOf?_eq_some_iff.mpr ⟨inside, same, ?_⟩
    intro earlier before equal
    have twice := distinct.getElem_inj_iff.mp (equal.trans same.symm)
    omega

theorem readAt?_extraPositions (distinct : right.Nodup) :
    readAt? right (extraPositions left right) =
      some (right.filter fun column => !left.contains column) := by
  have indices : List.range right.length = right.zipIdx.map (·.2) := by
    rw [List.zipIdx_map_snd, List.range_eq_range']
  rw [extraPositions, indices, ← List.filterMap_eq_filter, List.filterMap_map,
    ← filterMap_guard_zipIdx]
  apply readAt?_filterMap
  intro entry member
  have here : right[entry.2]? = some entry.1 := List.mem_zipIdx_iff_getElem?.mp member
  have known : ((sharedPositions left right).any fun shared => shared.2 == entry.2) =
      left.contains entry.1 := any_sharedPositions distinct here
  by_cases old : entry.1 ∈ left
  · simp [Option.guard, known, old]
  · simp [Option.guard, known, old, here]

end Positions

section Join

variable {left right relation : Relation}

/-- Positions that read some columns read from a row of a table its values in these columns. -/
theorem IsTable.readAt? (table : relation.IsTable) {positions : List Nat} {chosen : List Column}
    (read : Relation.readAt? relation.columns positions = some chosen)
    (known : chosen ⊆ relation.columns) {row : Row} (present : row ∈ relation.rows) :
    Relation.readAt? row positions = some (valuesAt relation.columns row chosen) := by
  rcases exists_assignment table.distinct (table.width row present) with ⟨assignment, rfl⟩
  rw [readAt?_map, read, valuesAt_map assignment known, Option.map_some]

/-- No position of a natural join is out of bounds. -/
theorem joinByPosition?_eq (leftTable : left.IsTable) (rightTable : right.IsTable) :
    left.joinByPosition? right = some (left.naturalJoin right) := by
  have header : Relation.readAt? right.columns (extraPositions left.columns right.columns) =
      some (extraColumns left right) := readAt?_extraPositions rightTable.distinct
  have others : right.rows.toList.mapM (splitAt?
      ((sharedPositions left.columns right.columns).map (·.2))
      (extraPositions left.columns right.columns)) = some (splitRows left right) := by
    apply mapM_eq_some_map
    intro row member
    have present := Std.TreeSet.mem_toList.mp member
    rw [splitAt?,
      rightTable.readAt? (readAt?_sharedPositions_right _ _) sharedColumns_subset_right present,
      rightTable.readAt? header extraColumns_subset present]
    rfl
  have rows : left.rows.toList.mapM (extendAt?
      ((sharedPositions left.columns right.columns).map (·.1)) (splitRows left right)) =
        some (left.rows.toList.map fun row => ((splitRows left right).filter
          (·.1 == valuesAt left.columns row (sharedColumns left right))).map
            fun other => row ++ other.2) := by
    apply mapM_eq_some_map
    intro row member
    have present := Std.TreeSet.mem_toList.mp member
    rw [extendAt?,
      leftTable.readAt? (readAt?_sharedPositions_left _ _) sharedColumns_subset present]
    rfl
  simp only [joinByPosition?, header, others, rows, Option.bind_eq_bind, Option.bind_some]
  rfl

theorem valueAt?_eq_getElem? {columns : List Column} {row : Row} {column : Column}
    {position : Nat} (found : columns.idxOf? column = some position) :
    valueAt? columns row column = row[position]? := by
  induction columns generalizing row position with
  | nil => simp at found
  | cons first columns ih =>
      rcases row with _ | ⟨value, row⟩
      · simp [valueAt?]
      · rw [List.idxOf?_cons] at found
        by_cases same : first = column
        · subst same
          obtain rfl : 0 = position := by simpa using found
          simp [valueAt?]
        · rcases Option.map_eq_some_iff.mp (by simpa [same] using found) with
            ⟨index, later, rfl⟩
          rw [valueAt?, List.zip_cons_cons, List.lookup_cons, beq_false_of_ne (Ne.symm same)]
          exact ih later

/-- No position of a projection is out of bounds. -/
theorem projectByPosition?_eq (table : relation.IsTable) (column : Column) :
    relation.projectByPosition? column = some (relation.project column) := by
  rw [projectByPosition?, project]
  rcases idxOf?_cases relation.columns column with
    ⟨missing, absent⟩ | ⟨position, found, there, -⟩
  · have nothing : relation.rows.toList.filterMap (fun row =>
        valueAt? relation.columns row column) = [] := by
      simp [valueAt?_eq_none absent]
    rw [missing, nothing]
    rfl
  · have inside : position < relation.columns.length := (List.getElem?_eq_some_iff.mp there).1
    have standing : ∀ row ∈ relation.rows.toList,
        row[position]? = some (row.getD position 0) := by
      intro row member
      rw [← table.width row (Std.TreeSet.mem_toList.mp member)] at inside
      simp [inside]
    have values : relation.rows.toList.filterMap (fun row =>
        valueAt? relation.columns row column) =
          relation.rows.toList.map fun row => row.getD position 0 := by
      rw [← List.filterMap_eq_map]
      apply List.filterMap_congr
      intro row member
      rw [valueAt?_eq_getElem? found, standing row member]
      rfl
    simp only [found, values, mapM_eq_some_map standing, Option.bind_eq_bind, Option.bind_some]
    rfl

end Join

section Laws

variable {left right third joined : Relation}

/-- A relation is the natural join of two others. -/
structure IsNaturalJoin (left right joined : Relation) : Prop where
  table : joined.IsTable
  columns : joined.columns = left.columns ++ right.columns.filter (· ∉ left.columns)
  /-- Its rows are the unions of the rows that agree on the shared columns. -/
  readings : joined.readings =
    {said | ∃ first ∈ left.readings, ∃ second ∈ right.readings,
      (∀ column ∈ left.columns, column ∈ right.columns → first column = second column) ∧
        union first second = said}
  reading_injective : ∀ row ∈ joined.rows, ∀ next ∈ joined.rows,
    reading joined.columns row = reading joined.columns next → row = next
  /-- It is found by position, without reading out of bounds. -/
  byPosition : left.joinByPosition? right = some joined

/-- Each row of one relation is put before each row of another. -/
structure IsProduct (left right joined : Relation) : Prop where
  columns : joined.columns = left.columns ++ right.columns
  mem_rows_iff : ∀ row, row ∈ joined.rows ↔
    ∃ first ∈ left.rows, ∃ second ∈ right.rows, first ++ second = row
  size : joined.size = left.size * right.size

theorem isNaturalJoin_naturalJoin (leftTable : left.IsTable) (rightTable : right.IsTable) :
    IsNaturalJoin left right (left.naturalJoin right) := by
  have table := leftTable.naturalJoin rightTable
  refine ⟨table, ?_, readings_naturalJoin leftTable rightTable, ?_,
    joinByPosition?_eq leftTable rightTable⟩
  · simp [naturalJoin, extraColumns]
  · intro row present next nextPresent
    exact reading_injective table present nextPresent

theorem isProduct_naturalJoin (leftTable : left.IsTable) (rightTable : right.IsTable)
    (disjoint : left.columns.Disjoint right.columns) :
    IsProduct left right (left.naturalJoin right) := by
  refine ⟨?_, ?_, size_naturalJoin_of_disjoint leftTable rightTable disjoint⟩
  · rw [naturalJoin, extraColumns_of_disjoint disjoint]
  · intro row
    exact mem_rows_naturalJoin_of_disjoint rightTable disjoint

/-- The natural join of tables joins what their rows say. So it is commutative, associative and
idempotent up to the order of the columns, the product where no column is shared and the
intersection where all are, and no position that it or a projection reads is out of bounds. The
answers to selections are tables. -/
theorem naturalJoin_unites (leftTable : left.IsTable) (rightTable : right.IsTable)
    (thirdTable : third.IsTable) :
    IsNaturalJoin left right (left.naturalJoin right) ∧
    IsReordered (left.naturalJoin right) (right.naturalJoin left) ∧
    IsReordered ((left.naturalJoin right).naturalJoin third)
      (left.naturalJoin (right.naturalJoin third)) ∧
    IsReordered (left.naturalJoin left) left ∧
    (left.columns.Disjoint right.columns → IsProduct left right (left.naturalJoin right)) ∧
    ((∀ column, column ∈ left.columns ↔ column ∈ right.columns) →
      (left.naturalJoin right).readings = left.readings ∩ right.readings) ∧
    (∀ column, left.projectByPosition? column = some (left.project column)) ∧
    ∀ {σ : Type} [GraphStore σ] (store : σ) (selection : Selection),
      (selection.answers store).IsTable := by
  refine ⟨isNaturalJoin_naturalJoin leftTable rightTable,
    isReordered_naturalJoin_comm leftTable rightTable,
    isReordered_naturalJoin_assoc leftTable rightTable thirdTable,
    isReordered_naturalJoin_self leftTable, ?_, ?_, ?_, ?_⟩
  · intro disjoint
    exact isProduct_naturalJoin leftTable rightTable disjoint
  · intro same
    exact readings_naturalJoin_of_same leftTable rightTable same
  · intro column
    exact projectByPosition?_eq leftTable column
  · intro σ _ store selection
    exact Selection.isTable_answers store selection

/-- The relation of some rows. -/
def ofRows (columns : List Column) (rows : List Row) : Relation := ⟨columns, .ofList rows⟩

theorem isTable_ofRows {columns : List Column} {rows : List Row} (distinct : columns.Nodup)
    (width : ∀ row ∈ rows, row.length = columns.length) : (ofRows columns rows).IsTable := by
  refine ⟨distinct, ?_⟩
  intro row present
  rw [ofRows, Std.TreeSet.mem_ofList, List.contains_iff_mem] at present
  exact width row present

/-- A shared column in different positions, no shared column, and the same columns in another
order. -/
theorem naturalJoin_unites_pairs :
    (ofRows [0, 1] [[1, 2], [3, 4]]).IsTable ∧ (ofRows [2, 1] [[5, 2], [6, 2]]).IsTable ∧
      (ofRows [3] [[7], [8]]).IsTable ∧ (ofRows [1, 0] [[2, 1], [3, 4]]).IsTable ∧
      IsNaturalJoin (ofRows [0, 1] [[1, 2], [3, 4]]) (ofRows [2, 1] [[5, 2], [6, 2]])
        (ofRows [0, 1, 2] [[1, 2, 5], [1, 2, 6]]) ∧
      IsReordered (ofRows [0, 1, 2] [[1, 2, 5], [1, 2, 6]])
        (ofRows [2, 1, 0] [[5, 2, 1], [6, 2, 1]]) ∧
      IsProduct (ofRows [0, 1] [[1, 2], [3, 4]]) (ofRows [3] [[7], [8]])
        (ofRows [0, 1, 3] [[1, 2, 7], [1, 2, 8], [3, 4, 7], [3, 4, 8]]) ∧
      (ofRows [0, 1] [[1, 2]]).readings =
        (ofRows [0, 1] [[1, 2], [3, 4]]).readings ∩ (ofRows [1, 0] [[2, 1], [3, 4]]).readings := by
  have first : (ofRows [0, 1] [[1, 2], [3, 4]]).IsTable := isTable_ofRows (by decide) (by decide)
  have second : (ofRows [2, 1] [[5, 2], [6, 2]]).IsTable := isTable_ofRows (by decide) (by decide)
  have third : (ofRows [3] [[7], [8]]).IsTable := isTable_ofRows (by decide) (by decide)
  have fourth : (ofRows [1, 0] [[2, 1], [3, 4]]).IsTable := isTable_ofRows (by decide) (by decide)
  rcases naturalJoin_unites first second third with ⟨join, reordered, -⟩
  rcases naturalJoin_unites first third second with ⟨-, -, -, -, product, -⟩
  rcases naturalJoin_unites first fourth second with ⟨-, -, -, -, -, intersection, -⟩
  refine ⟨first, second, third, fourth, join, reordered, ?_, ?_⟩
  · exact product (by simp [ofRows])
  · exact intersection (by simp [ofRows, or_comm])

end Laws

end MotifVote.Relation
