import MotifVote.Graph.Memory
import MotifVote.Proofs.Query.JoinOrder

/-!
# What a query finds

A query either is refused, because no selection binds the projected column, or finds the values that
the column may have under the assignments that satisfy the answers to all selections. Neither the
order of the selections nor the names of the columns matter.
-/

namespace MotifVote

variable {σ : Type} [GraphStore σ]

namespace Selection

theorem mem_columns_edges {label : String} {source destination column : Column} :
    column ∈ (edges label source destination).columns ↔
      column = source ∨ column = destination := by
  by_cases loop : source = destination
  · simp [columns, loop]
  · simp [columns, loop]

theorem length_of_edgeRow? {source destination : Column} {edge : Edge} {row : Row}
    (answer : edgeRow? source destination edge = some row) (label : String) :
    row.length = (edges label source destination).columns.length := by
  by_cases loop : source = destination
  · by_cases closed : edge.source = edge.destination
    · simp only [edgeRow?, loop, closed, if_true, Option.some.injEq] at answer
      simp [columns, loop, ← answer]
    · simp [edgeRow?, loop, closed] at answer
  · simp only [edgeRow?, loop, if_false, Option.some.injEq] at answer
    simp [columns, loop, ← answer]

theorem isTable_answers (store : σ) (selection : Selection) :
    (selection.answers store).IsTable := by
  cases selection with
  | vertices column predicates =>
      refine ⟨by simp [answers, columns], ?_⟩
      intro row present
      simp only [answers, Std.TreeSet.mem_ofList, List.contains_iff_mem, List.mem_map] at present
      rcases present with ⟨vertex, -, rfl⟩
      simp [answers, columns]
  | edges label source destination =>
      refine ⟨?_, ?_⟩
      · by_cases loop : source = destination
        · simp [answers, columns, loop]
        · simp [answers, columns, loop]
      · intro row present
        simp only [answers, Std.TreeSet.mem_ofList, List.contains_iff_mem,
          List.mem_filterMap] at present
        rcases present with ⟨edge, -, answer⟩
        exact length_of_edgeRow? answer label

/-- A selection with its columns renamed. -/
def rename (name : Column → Column) : Selection → Selection
  | .vertices column predicates => .vertices (name column) predicates
  | .edges label source destination => .edges label (name source) (name destination)

theorem columns_rename {name : Column → Column} {selection : Selection}
    (distinct : Set.InjOn name {column | column ∈ selection.columns}) :
    (selection.rename name).columns = selection.columns.map name := by
  cases selection with
  | vertices column predicates => rfl
  | edges label source destination =>
      have same : name source = name destination ↔ source = destination :=
        distinct.eq_iff (mem_columns_edges.mpr (Or.inl rfl)) (mem_columns_edges.mpr (Or.inr rfl))
      by_cases loop : source = destination
      · simp [rename, columns, loop]
      · simp [rename, columns, same, loop]

/-- Renaming columns leaves the rows of the answers as they are. -/
theorem rows_answers_rename (store : σ) {name : Column → Column} {selection : Selection}
    (distinct : Set.InjOn name {column | column ∈ selection.columns}) :
    ((selection.rename name).answers store).rows = (selection.answers store).rows := by
  cases selection with
  | vertices column predicates => rfl
  | edges label source destination =>
      have same : name source = name destination ↔ source = destination :=
        distinct.eq_iff (mem_columns_edges.mpr (Or.inl rfl)) (mem_columns_edges.mpr (Or.inr rfl))
      have sameRow : edgeRow? (name source) (name destination) = edgeRow? source destination := by
        funext edge
        simp only [edgeRow?, same]
      simp only [rename, answers, sameRow]

theorem holds_answers_rename (store : σ) {name : Column → Column} {selection : Selection}
    (distinct : Set.InjOn name {column | column ∈ selection.columns})
    (assignment : Column → VertexId) :
    ((selection.rename name).answers store).Holds assignment ↔
      (selection.answers store).Holds (assignment ∘ name) := by
  have columns : ((selection.rename name).answers store).columns = selection.columns.map name :=
    columns_rename distinct
  rw [Relation.Holds, Relation.Holds, columns, rows_answers_rename store distinct, List.map_map]
  rfl

end Selection

theorem Relation.holds_congr {relation : Relation} {left right : Column → VertexId}
    (same : ∀ column ∈ relation.columns, left column = right column) :
    relation.Holds left ↔ relation.Holds right := by
  rw [Holds, Holds, List.map_congr_left same]

namespace Query

/-- Whether some selection binds the projected column. -/
def BindsProjection (query : Query) : Prop :=
  ∃ selection ∈ query.selections, query.projection ∈ selection.columns

/-- The relations that a query joins. -/
def relations (store : σ) (query : Query) : List Relation :=
  query.selections.map (Selection.answers store)

/-- Whether a column occurs in a query. -/
def Mentions (query : Query) (column : Column) : Prop :=
  column = query.projection ∨ ∃ selection ∈ query.selections, column ∈ selection.columns

/-- A query with its columns renamed. -/
def rename (name : Column → Column) (query : Query) : Query :=
  ⟨query.selections.map (Selection.rename name), name query.projection⟩

theorem isTable_of_mem_relations {store : σ} {query : Query} {relation : Relation}
    (member : relation ∈ query.relations store) : relation.IsTable := by
  rcases List.mem_map.mp member with ⟨selection, -, rfl⟩
  exact Selection.isTable_answers store selection

theorem bind_relations_iff (store : σ) (query : Query) :
    Relation.Bind (query.relations store) query.projection ↔ query.BindsProjection := by
  simp [Relation.Bind, relations, BindsProjection, Selection.answers]

theorem check_of_bindsProjection {query : Query} (binds : query.BindsProjection) :
    query.check = .ok () := by
  have found : query.selections.any
      (fun selection => selection.columns.contains query.projection) = true := by
    simpa [BindsProjection] using binds
  rw [check, if_pos found]

theorem check_of_not_bindsProjection {query : Query} (unbound : ¬query.BindsProjection) :
    query.check = .error (.unboundColumn query.projection) := by
  have missing : ¬query.selections.any
      (fun selection => selection.columns.contains query.projection) = true := by
    simpa [BindsProjection] using unbound
  rw [check, if_neg missing]

theorem run_of_not_bindsProjection (store : σ) {query : Query}
    (unbound : ¬query.BindsProjection) :
    query.run store = .error (.unboundColumn query.projection) := by
  simp only [run, check_of_not_bindsProjection unbound]
  rfl

/-- A query that binds its projected column finds the values that the column may have. -/
theorem exists_run_eq_ok (store : σ) {query : Query} (binds : query.BindsProjection) :
    ∃ found, query.run store = .ok found ∧ found.Pairwise (· < ·) ∧
      ∀ value, value ∈ found ↔
        Relation.Allow (query.relations store) query.projection value := by
  have bound := (bind_relations_iff store query).mpr binds
  have tables : ∀ relation ∈ query.relations store, relation.IsTable :=
    fun relation member => isTable_of_mem_relations member
  rcases shape : query.relations store with _ | ⟨first, rest⟩
  · simp [Relation.Bind, shape] at bound
  · generalize extracted :
      extractLeast (fun left right => decide (left.size < right.size)) first rest = split
    rcases split with ⟨smallest, pending⟩
    have same : (smallest :: pending).Perm (first :: rest) := by
      simpa [extracted] using Relation.extractLeast_perm
        (fun left right => decide (left.size < right.size)) first rest
    have startTables : ∀ relation ∈ smallest :: pending, relation.IsTable :=
      fun relation member => tables relation (shape ▸ same.mem_iff.mp member)
    refine ⟨(smallest.joinAll pending).project query.projection, ?_, ?_, ?_⟩
    · have selected : query.selections.map (Selection.answers store) = first :: rest := shape
      simp only [run, check_of_bindsProjection binds, selected, extracted]
      rfl
    · exact Relation.project_ascending _ _
    · intro value
      have start := Relation.IsJoinOf.single (startTables smallest List.mem_cons_self)
      have boundLater := (Relation.bind_perm same.symm query.projection).mp (shape ▸ bound)
      rw [Relation.mem_project_joinAll start
        (fun relation member => startTables relation (List.mem_cons_of_mem _ member)) boundLater]
      exact Relation.allow_perm same query.projection value

theorem run_congr (store : σ) {left right : Query} (leftBinds : left.BindsProjection)
    (rightBinds : right.BindsProjection)
    (same : ∀ value, Relation.Allow (left.relations store) left.projection value ↔
      Relation.Allow (right.relations store) right.projection value) :
    left.run store = right.run store := by
  rcases exists_run_eq_ok store leftBinds with ⟨leftFound, leftRun, leftAscending, leftValues⟩
  rcases exists_run_eq_ok store rightBinds with ⟨rightFound, rightRun, rightAscending, rightValues⟩
  have sameFound : leftFound = rightFound := by
    apply leftAscending.eq_of_mem_iff rightAscending
    intro value
    rw [leftValues, rightValues, same]
  rw [leftRun, rightRun, sameFound]

theorem run_of_bindsProjection (store : σ) {query : Query} (binds : query.BindsProjection) :
    query.run store =
      .ok ((Relation.joinInOrder (query.relations store)).project query.projection) := by
  rcases exists_run_eq_ok store binds with ⟨found, run, ascending, values⟩
  have bound := (bind_relations_iff store query).mpr binds
  have nonempty : query.relations store ≠ [] := by
    rcases bound with ⟨relation, member, -⟩
    exact List.ne_nil_of_mem member
  have join := Relation.isJoinOf_joinInOrder nonempty
    (fun relation member => isTable_of_mem_relations member)
  have sameFound :
      found = (Relation.joinInOrder (query.relations store)).project query.projection := by
    apply ascending.eq_of_mem_iff (Relation.project_ascending _ _)
    intro value
    rw [values, join.mem_project_iff bound]
  rw [run, sameFound]

theorem run_perm (store : σ) (query : Query) {selections : List Selection}
    (reordered : selections.Perm query.selections) :
    run store ⟨selections, query.projection⟩ = query.run store := by
  have sameBinds : BindsProjection ⟨selections, query.projection⟩ ↔ query.BindsProjection := by
    simp only [BindsProjection, reordered.mem_iff]
  by_cases binds : query.BindsProjection
  · refine run_congr store (sameBinds.mpr binds) binds ?_
    exact Relation.allow_perm (reordered.map (Selection.answers store)) query.projection
  · rw [run_of_not_bindsProjection store binds,
      run_of_not_bindsProjection store (mt sameBinds.mp binds)]

section Rename

variable {query : Query} {name : Column → Column}

theorem injOn_columns (distinct : Set.InjOn name {column | query.Mentions column})
    {selection : Selection} (member : selection ∈ query.selections) :
    Set.InjOn name {column | column ∈ selection.columns} :=
  distinct.mono fun _ bound => Or.inr ⟨selection, member, bound⟩

theorem bindsProjection_rename (distinct : Set.InjOn name {column | query.Mentions column}) :
    (query.rename name).BindsProjection ↔ query.BindsProjection := by
  simp only [BindsProjection, rename, List.mem_map, exists_exists_and_eq_and]
  refine exists_congr fun selection => and_congr_right fun member => ?_
  rw [Selection.columns_rename (injOn_columns distinct member), List.mem_map]
  constructor
  · rintro ⟨column, bound, same⟩
    have mentioned : query.Mentions column := Or.inr ⟨selection, member, bound⟩
    exact distinct mentioned (Or.inl rfl) same ▸ bound
  · intro bound
    exact ⟨query.projection, bound, rfl⟩

/-- Assignments to renamed columns are assignments to the columns, seen through the new names. -/
theorem allow_rename (store : σ) (distinct : Set.InjOn name {column | query.Mentions column})
    (value : VertexId) :
    Relation.Allow ((query.rename name).relations store) (name query.projection) value ↔
      Relation.Allow (query.relations store) query.projection value := by
  simp only [Relation.Allow, relations, rename, List.forall_mem_map]
  constructor
  · rintro ⟨assignment, holds, given⟩
    refine ⟨assignment ∘ name, ?_, given⟩
    intro selection member
    exact (Selection.holds_answers_rename store (injOn_columns distinct member) assignment).mp
      (holds selection member)
  · rintro ⟨assignment, holds, given⟩
    let original := Function.invFunOn name {column | query.Mentions column}
    have back : ∀ column, query.Mentions column → original (name column) = column :=
      fun column mentioned => distinct.leftInvOn_invFunOn mentioned
    refine ⟨assignment ∘ original, ?_, ?_⟩
    · intro selection member
      rw [Selection.holds_answers_rename store (injOn_columns distinct member)]
      have agree : ∀ column ∈ (selection.answers store).columns,
          ((assignment ∘ original) ∘ name) column = assignment column := by
        intro column bound
        simp only [Function.comp_apply, back column (Or.inr ⟨selection, member, bound⟩)]
      exact (Relation.holds_congr agree).mpr (holds selection member)
    · simp only [Function.comp_apply, back query.projection (Or.inl rfl), given]

theorem run_rename (store : σ) (distinct : Set.InjOn name {column | query.Mentions column}) :
    (query.rename name).run store =
      (query.run store).mapError fun _ => .unboundColumn (name query.projection) := by
  have sameBinds := bindsProjection_rename distinct
  by_cases binds : query.BindsProjection
  · have same := run_congr store (sameBinds.mpr binds) binds (allow_rename store distinct)
    rcases exists_run_eq_ok store binds with ⟨found, run, -⟩
    rw [same, run]
    rfl
  · rw [run_of_not_bindsProjection store binds,
      run_of_not_bindsProjection store (mt sameBinds.mp binds)]
    rfl

end Rename

/-- A query is refused exactly if no selection binds the projected column, and else finds the
projection of the join of its relations from left to right. So the selections may be reordered, and
the columns renamed as long as different columns keep different names. -/
theorem run_agrees_with_joinInOrder (store : σ) (query : Query) :
    (∀ fault, query.run store = .error fault ↔
      fault = .unboundColumn query.projection ∧ ¬query.BindsProjection) ∧
    (query.BindsProjection →
      query.run store =
        .ok ((Relation.joinInOrder (query.relations store)).project query.projection)) ∧
    (∀ selections : List Selection, selections.Perm query.selections →
      run store ⟨selections, query.projection⟩ = query.run store) ∧
    (∀ name : Column → Column, Set.InjOn name {column | query.Mentions column} →
      (query.rename name).run store =
        (query.run store).mapError fun _ => .unboundColumn (name query.projection)) := by
  refine ⟨?_, run_of_bindsProjection store, fun _ => run_perm store query,
    fun _ => run_rename store⟩
  intro fault
  by_cases binds : query.BindsProjection
  · simp [run_of_bindsProjection store binds, binds]
  · simp [run_of_not_bindsProjection store binds, binds, eq_comm]

/-- One vertex for two columns, with the selections in either order and the columns renamed. -/
theorem run_pair_of_columns :
    BindsProjection ⟨[.vertices 0 [], .vertices 1 []], 0⟩ ∧
      [Selection.vertices 1 [], .vertices 0 []].Perm [.vertices 0 [], .vertices 1 []] ∧
      Set.InjOn (· + 7) {column | Mentions ⟨[.vertices 0 [], .vertices 1 []], 0⟩ column} ∧
      run (MemoryGraph.empty.createVertex []).2 ⟨[.vertices 0 [], .vertices 1 []], 0⟩ = .ok [0] ∧
      run (MemoryGraph.empty.createVertex []).2 ⟨[.vertices 1 [], .vertices 0 []], 0⟩ = .ok [0] ∧
      run (MemoryGraph.empty.createVertex []).2 ⟨[.vertices 7 [], .vertices 8 []], 7⟩ =
        .ok [0] := by
  have agrees := run_agrees_with_joinInOrder (MemoryGraph.empty.createVertex []).2
    ⟨[.vertices 0 [], .vertices 1 []], 0⟩
  have binds : BindsProjection ⟨[.vertices 0 [], .vertices 1 []], 0⟩ :=
    ⟨.vertices 0 [], List.mem_cons_self, by simp [Selection.columns]⟩
  have reordered : [Selection.vertices 1 [], .vertices 0 []].Perm
      [.vertices 0 [], .vertices 1 []] := List.Perm.swap _ _ _
  have distinct : Set.InjOn (fun column : Column => column + 7)
      {column | Mentions ⟨[.vertices 0 [], .vertices 1 []], 0⟩ column} := by
    intro left _ right _ same
    simpa using same
  have found := agrees.2.1 binds
  refine ⟨binds, reordered, distinct, ?_, ?_, ?_⟩
  · rw [found]
    rfl
  · rw [agrees.2.2.1 _ reordered, found]
    rfl
  · refine (agrees.2.2.2 (· + 7) distinct).trans ?_
    rw [found]
    rfl

end Query

end MotifVote
