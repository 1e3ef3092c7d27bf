import MotifVote.Proofs.Neighborhood.Termination

/-!
# Neighbourhoods are what walks reach

The search finds the vertices that walks within the distance lead to. That it finds no others is
seen from its trails. That it finds all of them is seen when its frontier is empty: from every
vertex it has then gone on with the largest budget known there, so by induction on walks no walk
arrives anywhere with more than is known, as long as anything is left of it.
-/

namespace MotifVote

variable {σ α : Type} [GraphStore σ] [Scalar α]

namespace Search

/-- What some steps lead to is reached, and known with what they leave of a budget. -/
def Settles (search : Search α) (budget : α) (steps : List (Edge × VertexId × α)) : Prop :=
  ∀ step ∈ steps, step.2.2 ≤ budget →
    step.2.1 ∈ search.reached ∧
      (0 < budget - step.2.2 →
        ∃ known, search.budgets[step.2.1]? = some known ∧ budget - step.2.2 ≤ known)

section Settles

variable [Scalar.IsOrdered α] {search : Search α} {budget : α}
variable {steps : List (Edge × VertexId × α)}

theorem take_settles (numeric : search.IsNumeric) (number : Scalar.IsNumber budget)
    {step : Edge × VertexId × α} (finite : Scalar.isFinite step.2.2 = true) :
    (search.take budget step).Settles budget [step] := by
  rcases step with ⟨edge, other, weight⟩
  intro same member affordable
  rw [List.mem_singleton] at member
  subst member
  have remaining := Scalar.IsOrdered.isNumber_sub number finite
  have weightNumber := Scalar.IsOrdered.isNumber_of_isFinite finite
  rcases take_cases search budget weight edge other with
    ⟨expensive, -⟩ | ⟨-, known, taken⟩ | ⟨-, -, -, taken⟩
  · exact absurd expensive ((Scalar.not_lt number weightNumber).mpr affordable)
  · rw [taken]
    refine ⟨by simp, ?_⟩
    intro remains
    rcases known remains with ⟨best, found, notLess⟩
    exact ⟨best, found, (Scalar.not_lt (numeric found) remaining).mp notLess⟩
  · rw [taken]
    refine ⟨by simp, ?_⟩
    intro remains
    exact ⟨budget - weight, by simp, Scalar.le_refl remaining⟩

theorem Settles.mono {next : Search α} (numeric : search.IsNumeric) (grows : search.Grows next)
    (number : Scalar.IsNumber budget)
    (finite : ∀ step ∈ steps, Scalar.isFinite step.2.2 = true)
    (settles : search.Settles budget steps) : next.Settles budget steps := by
  intro step member affordable
  rcases settles step member affordable with ⟨reached, known⟩
  refine ⟨grows.reached _ reached, ?_⟩
  intro remains
  rcases known remains with ⟨best, found, atMost⟩
  rcases grows.budgets found with ⟨larger, foundLater, atMostLater⟩
  exact ⟨larger, foundLater, Scalar.IsOrdered.le_trans
    (Scalar.IsOrdered.isNumber_sub number (finite step member)) (numeric found)
    (grows.numeric foundLater) atMost atMostLater⟩

theorem foldl_take_settles (numeric : search.IsNumeric) (number : Scalar.IsNumber budget)
    (finite : ∀ step ∈ steps, Scalar.isFinite step.2.2 = true) :
    search.Grows (steps.foldl (take budget) search) ∧
      (steps.foldl (take budget) search).Settles budget steps := by
  induction steps generalizing search with
  | nil => exact ⟨.refl numeric, by simp [Settles]⟩
  | cons step steps ih =>
      rcases List.forall_mem_cons.mp finite with ⟨finiteStep, finiteRest⟩
      have first : search.Grows (search.take budget step) :=
        take_grows numeric (Scalar.IsOrdered.isNumber_sub number finiteStep)
      rcases ih first.numeric finiteRest with ⟨grows, settlesRest⟩
      have settlesFirst := (take_settles numeric number finiteStep).mono first.numeric grows number
        (by simpa using finiteStep)
      refine ⟨first.trans numeric grows, ?_⟩
      intro other member
      rcases List.mem_cons.mp member with rfl | later
      · exact settlesFirst other List.mem_cons_self
      · exact settlesRest other later

end Settles

/-- The search has gone on from every vertex with the largest budget known there, or is going to.
-/
structure IsClosed (store : σ) (weights : EdgeWeights α) (origin : VertexId) (distance : α)
    (search : Search α) : Prop where
  numeric : search.IsNumeric
  source : ∃ known, search.budgets[origin]? = some known ∧ distance ≤ known
  settled : ∀ {vertex : VertexId} {known : α}, search.budgets[vertex]? = some known →
    (vertex, known) ∈ search.frontier ∨
      search.Settles known (GraphStore.weightedNeighbors store weights vertex)

section Closed

variable {store : σ} {weights : EdgeWeights α} {origin : VertexId} {distance : α}
variable {done waiting : List (List Edge)} {search : Search α}

theorem isFinite_of_mem_weightedNeighbors (positive : weights.ArePositive)
    (indexed : GraphStore.IsIndexed store) {vertex : VertexId} :
    ∀ step ∈ GraphStore.weightedNeighbors store weights vertex,
      Scalar.isFinite step.2.2 = true := by
  intro step member
  rw [((GraphStore.mem_weightedNeighbors indexed weights vertex step).mp member).2.2]
  exact (positive step.1.label).1

variable [Scalar.IsOrdered α]

theorem isClosed_start (number : Scalar.IsNumber distance) :
    IsClosed store weights origin distance (start origin distance) where
  numeric := isNumeric_start number
  source := ⟨distance, by simp [start], Scalar.le_refl number⟩
  settled := by
    intro vertex known found
    left
    simp only [start, getElem?_insert_eq] at found
    split at found
    next same =>
      cases found
      simp [start, same]
    next => simp at found

/-- Going on from an entry settles its vertex, and everything whose budget has not changed stays
settled. -/
theorem IsClosed.advance (positive : weights.ArePositive) (number : Scalar.IsNumber distance)
    (indexed : GraphStore.IsIndexed store)
    (traced : IsTraced store weights origin distance done waiting search)
    (closed : IsClosed store weights origin distance search) (goesOn : search.frontier ≠ []) :
    IsClosed store weights origin distance (advance store weights search) := by
  rcases shape : search.frontier with _ | ⟨⟨vertex, budget⟩, frontier⟩
  · exact absurd shape goesOn
  have entries := traced.entries
  rw [shape] at entries
  rcases entries with _ | ⟨leads, -⟩
  have budgetNumber : Scalar.IsNumber budget := leads.isNumber positive number
  have popped : IsNumeric { search with frontier } := closed.numeric
  have finite : ∀ other, ∀ step ∈ GraphStore.weightedNeighbors store weights other,
      Scalar.isFinite step.2.2 = true :=
    fun other => isFinite_of_mem_weightedNeighbors positive indexed
  rcases foldl_take_settles popped budgetNumber (finite vertex) with ⟨grows, settles⟩
  have next : Search.advance store weights search =
      (GraphStore.weightedNeighbors store weights vertex).foldl (take budget)
        { search with frontier } := by
    simp only [Search.advance, shape]
  rw [next]
  refine ⟨grows.numeric, ?_, ?_⟩
  · rcases closed.source with ⟨known, found, atMost⟩
    rcases grows.budgets found with ⟨larger, foundLater, atMostLater⟩
    exact ⟨larger, foundLater, Scalar.IsOrdered.le_trans number (closed.numeric found)
      (grows.numeric foundLater) atMost atMostLater⟩
  -- A budget that is known afterwards is new and waits, or was known before; then it waits still,
  -- unless it is the one that has just been gone on from, or it has been settled all along.
  · intro other known found
    rcases grows.fresh found with before | waits
    · rcases closed.settled before with waits | already
      · rw [shape] at waits
        rcases List.mem_cons.mp waits with here | later
        · cases here
          exact Or.inr settles
        · exact Or.inl (grows.frontier _ later)
      · have settled : Settles { search with frontier } known _ := already
        exact Or.inr (settled.mono popped grows (closed.numeric before) (finite other))
    · exact Or.inl waits

theorem IsClosed.explore (positive : weights.ArePositive) (number : Scalar.IsNumber distance)
    (coherent : GraphStore.IsCoherent store) (indexed : GraphStore.IsIndexed store)
    (traced : IsTraced store weights origin distance done waiting search)
    (closed : IsClosed store weights origin distance search) (fuel : Nat) :
    IsClosed store weights origin distance (explore store weights fuel search) := by
  induction fuel generalizing done waiting search with
  | zero => exact closed
  | succ fuel ih =>
      by_cases ended : search.frontier = []
      · rw [explore_of_frontier_eq_nil store weights _ ended]
        exact closed
      · rcases traced.advance positive number coherent indexed ended with ⟨trail, rest, later⟩
        rw [explore_succ]
        exact ih later (closed.advance positive number indexed traced ended)

end Closed

section Reached

variable {store : σ} {weights : EdgeWeights α} {origin vertex : VertexId} {distance : α}
variable [Scalar.IsMonotone α]

/-- Once the frontier is empty, a walk that can be paid for arrives where the search has been, and
with no more than is known there. -/
theorem IsClosed.arrives (positive : weights.ArePositive) (number : Scalar.IsNumber distance)
    (indexed : GraphStore.IsIndexed store) {search : Search α}
    (closed : IsClosed store weights origin distance search) (ended : search.frontier = [])
    {path : List Edge} (walk : Walk store origin path vertex) {left : α}
    (paid : weights.leftover? distance path = some left) :
    (path ≠ [] → vertex ∈ search.reached) ∧
      (0 < left → ∃ known, search.budgets[vertex]? = some known ∧ left ≤ known) := by
  induction walk generalizing left with
  | start =>
      cases paid
      exact ⟨fun nonempty => absurd rfl nonempty, fun _ => closed.source⟩
  | @step path vertex other edge walk stored joins ih =>
      rcases EdgeWeights.leftover?_snoc.mp paid with ⟨before, paidBefore, affordable, rfl⟩
      have weight := positive edge.label
      have zero : Scalar.IsNumber (0 : α) := Scalar.IsOrdered.isNumber_zero
      have weightNumber := Scalar.IsOrdered.isNumber_of_isFinite weight.1
      have beforeNumber := EdgeWeights.isNumber_leftover? positive number paidBefore
      have remains := Scalar.lt_of_lt_of_le zero weightNumber beforeNumber weight.2 affordable
      rcases (ih paidBefore).2 remains with ⟨known, found, atMost⟩
      have knownNumber := closed.numeric found
      have settled : search.Settles known (GraphStore.weightedNeighbors store weights vertex) := by
        rcases closed.settled found with waits | settled
        · simp [ended] at waits
        · exact settled
      have available := (GraphStore.mem_weightedNeighbors indexed weights vertex
        (edge, other, weights.weight edge.label)).mpr ⟨stored, joins, rfl⟩
      rcases settled _ available (Scalar.IsOrdered.le_trans weightNumber beforeNumber knownNumber
        affordable atMost) with ⟨reached, knownThere⟩
      have fewer := Scalar.IsMonotone.sub_le_sub beforeNumber knownNumber weight.1 atMost
      have leftNumber := Scalar.IsOrdered.isNumber_sub beforeNumber weight.1
      have mostNumber := Scalar.IsOrdered.isNumber_sub knownNumber weight.1
      refine ⟨fun _ => reached, ?_⟩
      intro leftRemains
      rcases knownThere (Scalar.lt_of_lt_of_le zero leftNumber mostNumber leftRemains fewer) with
        ⟨best, foundThere, mostAtMost⟩
      exact ⟨best, foundThere, Scalar.IsOrdered.le_trans leftNumber mostNumber
        (closed.numeric foundThere) fewer mostAtMost⟩

/-- The search reaches the vertices that walks within the budget lead to. -/
theorem mem_reached_iff (positive : weights.ArePositive) (number : Scalar.IsNumber distance)
    (coherent : GraphStore.IsCoherent store) (indexed : GraphStore.IsIndexed store) :
    vertex ∈ (explore store weights (bound store) (start origin distance)).reached ↔
      WithinBudget store weights origin distance vertex := by
  have started : IsTraced store weights origin distance [] [[]] (start origin distance) :=
    isTraced_start number
  constructor
  · intro member
    rcases started.explore positive number coherent indexed (bound store) with
      ⟨done, waiting, traced⟩
    exact traced.reached vertex member
  · rintro ⟨path, nonempty, walk, left, paid⟩
    have closed := (isClosed_start number).explore positive number coherent indexed started
      (bound store)
    have ended : (explore store weights (bound store) (start origin distance)).frontier = [] :=
      frontier_explore_eq_nil positive number coherent indexed
    exact (closed.arrives positive number indexed ended walk paid).1 nonempty

end Reached

end Search

namespace Neighborhood

/-- Whether a number can be the distance of a neighbourhood. -/
def IsDistance (distance : α) : Prop := Scalar.IsNumber distance ∧ 0 ≤ distance

/-- A neighbourhood of some vertices: its edges are all edges of the store among them and the
origin, in ascending order, but none if there are no vertices. -/
structure IsInduced (store : σ) (origin : VertexId) (within : VertexId → Prop)
    (found : Neighborhood) : Prop where
  mem_vertices_iff : ∀ vertex, vertex ∈ found.vertices ↔ within vertex
  edges_ascending : found.edges.Pairwise (·.id < ·.id)
  mem_edges_iff : ∀ edge, edge ∈ found.edges ↔
    (∃ vertex, within vertex) ∧ edge ∈ GraphStore.edges store ∧
      (edge.source = origin ∨ within edge.source) ∧
      (edge.destination = origin ∨ within edge.destination)

/-- The neighbourhood of a vertex fails first for a distance that is none, then for a vertex that
the store does not have, and else consists of what walks within the budget reach. Without rounding
these are the walks whose total weight is at most the distance. -/
def IsReach (store : σ) (origin : VertexId) (distance : α) (weights : EdgeWeights α) : Prop :=
  (¬IsDistance distance → around store origin distance weights =
    .error (.setting (.negativeDistance (Scalar.text distance)))) ∧
  (IsDistance distance → origin ∉ GraphStore.vertexIds store →
    around store origin distance weights = .error (.vertexNotFound origin)) ∧
  (IsDistance distance → origin ∈ GraphStore.vertexIds store →
    ∃ found, around store origin distance weights = .ok found ∧
      IsInduced store origin (WithinBudget store weights origin distance) found ∧
      (Scalar.IsExact α →
        IsInduced store origin (WithinTotal store weights origin distance) found))

section Around

variable {store : σ} {origin : VertexId} {distance : α} {weights : EdgeWeights α}

theorem isDistance_iff [Scalar.IsOrdered α] :
    (!(distance == distance) || decide (distance < 0)) = false ↔ IsDistance distance := by
  rw [Bool.or_eq_false_iff, Bool.not_eq_false', decide_eq_false_iff_not]
  refine and_congr_right fun number => ?_
  exact Scalar.not_lt number Scalar.IsOrdered.isNumber_zero

theorem withinBudget_iff_withinTotal [Scalar.IsOrdered α] [Scalar.IsExact α]
    (positive : weights.ArePositive) (valid : IsDistance distance) (vertex : VertexId) :
    WithinBudget store weights origin distance vertex ↔
      WithinTotal store weights origin distance vertex := by
  simp only [WithinBudget, WithinTotal,
    EdgeWeights.leftover?_eq_some_iff positive valid.1 valid.2, exists_and_left, exists_eq',
    and_true]

/-- The edges that are taken along lie among the vertices found and the origin. -/
theorem isInduced_of_mem_iff (coherent : GraphStore.IsCoherent store)
    (indexed : GraphStore.IsIndexed store) {within : VertexId → Prop}
    {vertices : Std.TreeSet VertexId} (same : ∀ vertex, vertex ∈ vertices ↔ within vertex) :
    IsInduced store origin within ⟨vertices, if vertices.isEmpty then []
      else GraphStore.edgesBetween store (vertices.insert origin)⟩ := by
  have inside : ∀ vertex, (vertices.insert origin).contains vertex = true ↔
      vertex = origin ∨ within vertex := by
    intro vertex
    rw [← same, Std.TreeSet.contains_iff_mem, Std.TreeSet.mem_insert,
      Std.LawfulEqCmp.compare_eq_iff_eq, eq_comm]
  refine ⟨same, ?_, ?_⟩
  · rw [GraphStore.edgesBetween_eq coherent indexed]
    split
    next => exact List.Pairwise.nil
    next => exact coherent.edges_ascending.filter _
  · intro edge
    simp only [GraphStore.edgesBetween_eq coherent indexed]
    split
    next empty =>
      have none : ¬∃ vertex, within vertex := by
        rintro ⟨vertex, holds⟩
        exact Std.TreeSet.not_mem_of_isEmpty empty ((same vertex).mpr holds)
      simp [none]
    next nonempty =>
      have some : ∃ vertex, within vertex := by
        rcases Std.TreeSet.isEmpty_eq_false_iff_exists_mem.mp (by simpa using nonempty) with
          ⟨vertex, member⟩
        exact ⟨vertex, (same vertex).mp member⟩
      rw [List.mem_filter, Bool.and_eq_true, inside, inside]
      simp only [some, true_and]

variable [Scalar.IsMonotone α]

theorem isReach_of_isIndexed (coherent : GraphStore.IsCoherent store)
    (indexed : GraphStore.IsIndexed store) (positive : weights.ArePositive) :
    IsReach store origin distance weights := by
  refine ⟨?_, ?_, ?_⟩
  · intro invalid
    have refused : (!(distance == distance) || decide (distance < 0)) = true := by
      rw [← Bool.not_eq_false]
      exact mt isDistance_iff.mp invalid
    rw [around, if_pos refused]
  · intro valid absent
    have missing : GraphStore.contains store origin = false := by
      simpa using mt (coherent.contains_iff origin).mp absent
    simp only [around, isDistance_iff.mpr valid, missing]
    rfl
  · intro valid present
    have known := (coherent.contains_iff origin).mpr present
    have reached : ∀ vertex, _ ↔ WithinBudget store weights origin distance vertex :=
      fun _ => Search.mem_reached_iff positive valid.1 coherent indexed
    refine ⟨_, ?_, isInduced_of_mem_iff coherent indexed reached, ?_⟩
    · simp only [around, isDistance_iff.mpr valid, known]
      rfl
    · intro exactly
      refine isInduced_of_mem_iff coherent indexed ?_
      intro vertex
      rw [reached, withinBudget_iff_withinTotal positive valid]

end Around

section Stores

variable [Scalar.IsMonotone α] {weights : EdgeWeights α}

/-- After any events that create no more edges than there are ids for, on either kind of store, and
with any accepted weights, the neighbourhood of a vertex is what walks reach. -/
theorem isReach_after {given : Std.TreeMap String α} {default : α}
    (accepted : EdgeWeights.make given default = .ok weights) (events : List StoreEvent)
    (origin : VertexId) (distance : α) :
    (DocumentStore.edgesCreated MemoryGraph.empty events ≤ UInt64.size →
      IsReach (DocumentStore.after MemoryGraph.empty events) origin distance weights) ∧
    (DocumentStore.edgesCreated TableGraph.empty events ≤ UInt64.size →
      IsReach (DocumentStore.after TableGraph.empty events) origin distance weights) := by
  have positive := EdgeWeights.arePositive_of_make_eq_ok accepted
  have sound := MemoryGraph.isSound_after events
  have alike := TableGraph.readAlike_after events
  constructor
  · intro room
    have indexed := (MemoryGraph.isIndexed_after room).isIndexed sound
    exact isReach_of_isIndexed sound.isCoherent indexed positive
  · intro room
    rw [← TableGraph.represents_empty.edgesCreated_eq] at room
    have indexed := (MemoryGraph.isIndexed_after room).isIndexed sound
    exact isReach_of_isIndexed (sound.isCoherent.congr alike) (indexed.congr alike) positive

/-- Two vertices and an edge, over the rationals: the edge leads from the first to the second. -/
theorem isReach_pair :
    EdgeWeights.make ∅ (1 : Rat) = .ok ⟨∅, 1⟩ ∧ IsDistance (2 : Rat) ∧
      (∃ found, around (DocumentStore.after MemoryGraph.empty [.call (.createVertex []),
          .call (.createVertex []), .call (.createEdge 0 "next" 1)]) 0 (2 : Rat) ⟨∅, 1⟩ =
            .ok found ∧ 1 ∈ found.vertices) ∧
      ∃ found, around (DocumentStore.after TableGraph.empty [.call (.createVertex []),
          .call (.createVertex []), .reopen, .call (.createEdge 0 "next" 1)]) 0 (2 : Rat) ⟨∅, 1⟩ =
            .ok found ∧ 1 ∈ found.vertices := by
  have accepted : EdgeWeights.make ∅ (1 : Rat) = .ok ⟨∅, 1⟩ := by cbv
  have valid : IsDistance (2 : Rat) := ⟨rfl, by decide⟩
  have memory := (isReach_after accepted [.call (.createVertex []), .call (.createVertex []),
    .call (.createEdge 0 "next" 1)] 0 2).1 (by decide +kernel)
  have tables := (isReach_after accepted [.call (.createVertex []), .call (.createVertex []),
    .reopen, .call (.createEdge 0 "next" 1)] 0 2).2 (by decide +kernel)
  rcases memory.2.2 valid (by decide +kernel) with ⟨inMemory, ranInMemory, -, exactInMemory⟩
  rcases tables.2.2 valid (by decide +kernel) with ⟨inTables, ranInTables, -, exactInTables⟩
  refine ⟨accepted, valid, ⟨inMemory, ranInMemory, ?_⟩, inTables, ranInTables, ?_⟩
  · refine ((exactInMemory inferInstance).mem_vertices_iff 1).mpr ⟨[⟨0, 0, 1, "next"⟩], by simp,
      Walk.start.step (by decide +kernel) (Or.inl ⟨rfl, rfl⟩), by decide +kernel⟩
  · refine ((exactInTables inferInstance).mem_vertices_iff 1).mpr ⟨[⟨0, 0, 1, "next"⟩], by simp,
      Walk.start.step (by decide +kernel) (Or.inl ⟨rfl, rfl⟩), by decide +kernel⟩

end Stores

end Neighborhood

end MotifVote
