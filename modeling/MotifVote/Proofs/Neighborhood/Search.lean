import MotifVote.Proofs.Neighborhood.Walk

/-!
# The trails of a search

Every entry of the frontier has been reached by a walk that repeats no vertex: all vertices of the
walk are known with budgets at least as large as the one of the entry, so none of them is improved
by going on from there. No walk leads to two entries.

The search itself keeps no walks. They are kept beside it, in a history of what it puts on its
frontier.

Of the numbers this needs only that taking off a weight leaves no more than there was.
-/

namespace MotifVote.Search

variable {σ α : Type} [GraphStore σ] [Scalar α]

section Take

variable {search : Search α} {budget weight : α} {edge : Edge} {other : VertexId}

/-- An edge is too expensive, or it only reaches its other end, or the search will go on there with
a larger budget than the one known so far. -/
theorem take_cases (search : Search α) (budget weight : α) (edge : Edge) (other : VertexId) :
    (budget < weight ∧ search.take budget (edge, other, weight) = search) ∨
      (¬budget < weight ∧
        (0 < budget - weight →
          ∃ known, search.budgets[other]? = some known ∧ ¬known < budget - weight) ∧
        search.take budget (edge, other, weight) =
          { search with reached := search.reached.insert other }) ∨
      ¬budget < weight ∧ 0 < budget - weight ∧
        (∀ known, search.budgets[other]? = some known → known < budget - weight) ∧
        search.take budget (edge, other, weight) =
          ⟨search.reached.insert other, search.budgets.insert other (budget - weight),
            (other, budget - weight) :: search.frontier⟩ := by
  by_cases expensive : budget < weight
  · exact Or.inl ⟨expensive, by simp [take, expensive]⟩
  right
  by_cases remains : 0 < budget - weight
  · rcases found : search.budgets[other]? with _ | known
    · refine Or.inr ⟨expensive, remains, by simp, ?_⟩
      simp [take, expensive, remains, found]
    · by_cases improves : known < budget - weight
      · refine Or.inr ⟨expensive, remains, by simpa using improves, ?_⟩
        simp [take, expensive, remains, found, improves]
      · refine Or.inl ⟨expensive, fun _ => ⟨known, rfl, improves⟩, ?_⟩
        simp [take, expensive, found, improves]
  · refine Or.inl ⟨expensive, fun positive => absurd positive remains, ?_⟩
    simp [take, expensive, remains]

/-- All budgets known are numbers. -/
def IsNumeric (search : Search α) : Prop :=
  ∀ {vertex : VertexId} {known : α}, search.budgets[vertex]? = some known → Scalar.IsNumber known

/-- What a search has reached stays reached, known budgets only grow, and a budget that is new is on
the frontier. -/
structure Grows (search next : Search α) : Prop where
  numeric : next.IsNumeric
  reached : ∀ vertex ∈ search.reached, vertex ∈ next.reached
  frontier : ∀ entry ∈ search.frontier, entry ∈ next.frontier
  budgets : ∀ {vertex : VertexId} {known : α}, search.budgets[vertex]? = some known →
    ∃ larger, next.budgets[vertex]? = some larger ∧ known ≤ larger
  fresh : ∀ {vertex : VertexId} {known : α}, next.budgets[vertex]? = some known →
    search.budgets[vertex]? = some known ∨ (vertex, known) ∈ next.frontier

variable [Scalar.IsOrdered α]

theorem Grows.refl (numeric : search.IsNumeric) : search.Grows search where
  numeric := numeric
  reached _ member := member
  frontier _ member := member
  budgets found := ⟨_, found, Scalar.le_refl (numeric found)⟩
  fresh found := Or.inl found

theorem Grows.trans {middle next : Search α} (numeric : search.IsNumeric)
    (first : search.Grows middle) (second : middle.Grows next) : search.Grows next where
  numeric := second.numeric
  reached vertex member := second.reached vertex (first.reached vertex member)
  frontier entry member := second.frontier entry (first.frontier entry member)
  budgets := by
    intro vertex known found
    rcases first.budgets found with ⟨larger, foundLater, atMost⟩
    rcases second.budgets foundLater with ⟨largest, foundLast, atMostLast⟩
    exact ⟨largest, foundLast, Scalar.IsOrdered.le_trans (numeric found)
      (first.numeric foundLater) (second.numeric foundLast) atMost atMostLast⟩
  fresh := by
    intro vertex known found
    rcases second.fresh found with earlier | waiting
    · exact (first.fresh earlier).imp_right (second.frontier _)
    · exact Or.inr waiting

theorem take_grows (numeric : search.IsNumeric) (number : Scalar.IsNumber (budget - weight)) :
    search.Grows (search.take budget (edge, other, weight)) := by
  rcases take_cases search budget weight edge other with
    ⟨-, taken⟩ | ⟨-, -, taken⟩ | ⟨-, -, improves, taken⟩
  · rw [taken]
    exact .refl numeric
  · rw [taken]
    have same : search.Grows search := .refl numeric
    exact ⟨numeric, fun _ member => Std.TreeSet.mem_insert.mpr (Or.inr member), same.frontier,
      same.budgets, same.fresh⟩
  · rw [taken]
    refine ⟨?_, ?_, ?_, ?_, ?_⟩
    · intro vertex known found
      simp only [getElem?_insert_eq] at found
      split at found
      next => exact Option.some.inj found ▸ number
      next => exact numeric found
    · exact fun _ member => Std.TreeSet.mem_insert.mpr (Or.inr member)
    · exact fun _ member => List.mem_cons_of_mem _ member
    · intro vertex known found
      simp only [getElem?_insert_eq]
      split
      next same =>
        subst same
        exact ⟨_, rfl, Scalar.le_of_lt (numeric found) number (improves known found)⟩
      next => exact ⟨known, found, Scalar.le_refl (numeric found)⟩
    · intro vertex known found
      simp only [getElem?_insert_eq] at found
      split at found
      next same =>
        cases found
        exact Or.inr (same ▸ List.mem_cons_self)
      next => exact Or.inl found

end Take

section Advance

/-- The search after going on from the first entry of its frontier. -/
def advance (store : σ) (weights : EdgeWeights α) (search : Search α) : Search α :=
  match search.frontier with
  | [] => search
  | (vertex, budget) :: frontier =>
    (GraphStore.weightedNeighbors store weights vertex).foldl (take budget)
      { search with frontier }

theorem explore_of_frontier_eq_nil (store : σ) (weights : EdgeWeights α) (fuel : Nat)
    {search : Search α} (ended : search.frontier = []) :
    explore store weights fuel search = search := by
  cases fuel with
  | zero => rfl
  | succ fuel => simp only [explore, ended]

theorem explore_succ (store : σ) (weights : EdgeWeights α) (fuel : Nat) (search : Search α) :
    explore store weights (fuel + 1) search =
      explore store weights fuel (advance store weights search) := by
  rcases ended : search.frontier with _ | ⟨⟨vertex, budget⟩, frontier⟩
  · simp only [explore, advance, ended, explore_of_frontier_eq_nil store weights fuel ended]
  · simp only [explore, advance, ended]

end Advance

section Histories

/-- A search with what it does not keep: by which trails the entries of its frontier have come, and
what has ever been put there. -/
structure History (α : Type) where
  search : Search α
  /-- The trail of each entry of the frontier. -/
  waiting : List (List Edge)
  /-- The entries that have been put on the frontier, with their trails, the latest first. -/
  pushes : List (List Edge × VertexId × α)

namespace History

/-- The history of a search before its first step. -/
def start (origin : VertexId) (distance : α) : History α :=
  ⟨.start origin distance, [[]], [([], origin, distance)]⟩

/-- Takes an edge at the end of a trail. What is put on the frontier then has come by this trail and
this edge. -/
def take (trail : List Edge) (budget : α) (history : History α) (step : Edge × VertexId × α) :
    History α :=
  let next := history.search.take budget step
  let added := next.frontier.take (next.frontier.length - history.search.frontier.length)
  { search := next
    waiting := added.map (fun _ => trail ++ [step.1]) ++ history.waiting
    pushes := added.map (fun entry => (trail ++ [step.1], entry)) ++ history.pushes }

/-- Goes on from the first entry of the frontier, and from the end of its trail. -/
def pop (store : σ) (weights : EdgeWeights α) (history : History α) : History α :=
  match history.search.frontier, history.waiting with
  | (vertex, budget) :: frontier, trail :: waiting =>
    (GraphStore.weightedNeighbors store weights vertex).foldl (take trail budget)
      { history with search := { history.search with frontier }, waiting }
  | _, _ => history

theorem search_foldl_take (trail : List Edge) (budget : α) (history : History α)
    (steps : List (Edge × VertexId × α)) :
    (steps.foldl (take trail budget) history).search =
      steps.foldl (Search.take budget) history.search := by
  induction steps generalizing history with
  | nil => rfl
  | cons step steps ih => exact ih _

/-- An edge that is taken puts nothing on the frontier, or one entry. -/
theorem take_cases (history : History α) (trail : List Edge) (budget weight : α) (edge : Edge)
    (other : VertexId) :
    ((history.search.take budget (edge, other, weight)).frontier = history.search.frontier ∧
      history.take trail budget (edge, other, weight) =
        { history with search := history.search.take budget (edge, other, weight) }) ∨
    ∃ entry,
      (history.search.take budget (edge, other, weight)).frontier =
        entry :: history.search.frontier ∧
      history.take trail budget (edge, other, weight) =
        ⟨history.search.take budget (edge, other, weight), (trail ++ [edge]) :: history.waiting,
          (trail ++ [edge], entry) :: history.pushes⟩ := by
  rcases Search.take_cases history.search budget weight edge other with
    ⟨-, taken⟩ | ⟨-, -, taken⟩ | ⟨-, -, -, taken⟩
  · exact Or.inl (by simp [take, taken])
  · exact Or.inl (by simp [take, taken])
  · exact Or.inr ⟨(other, budget - weight), by simp [take, taken]⟩

end History

end Histories

section Trails

/-- A walk without repeated vertices that led to an entry of the frontier, and on which every vertex
is known with a budget at least as large as the one of the entry. -/
def IsTrail (store : σ) (weights : EdgeWeights α) (origin : VertexId) (distance : α)
    (budgets : Std.TreeMap VertexId α) (trail : List Edge) (entry : VertexId × α) : Prop :=
  ∃ earlier, SimpleWalk store origin trail entry.1 earlier ∧
    weights.leftover? distance trail = some entry.2 ∧
    ∀ visited ∈ entry.1 :: earlier,
      ∃ known, budgets[visited]? = some known ∧ entry.2 ≤ known

/-- A search whose trails are known, the ones it has gone on from and the ones that wait. -/
structure IsTraced (store : σ) (weights : EdgeWeights α) (origin : VertexId) (distance : α)
    (done waiting : List (List Edge)) (search : Search α) : Prop where
  numeric : search.IsNumeric
  entries : List.Forall₂ (IsTrail store weights origin distance search.budgets) waiting
    search.frontier
  distinct : (done ++ waiting).Nodup
  parents : ∀ {trail : List Edge} {edge : Edge},
    trail ++ [edge] ∈ done ++ waiting → trail ∈ done
  simple : ∀ trail ∈ done ++ waiting, ∃ vertex earlier, SimpleWalk store origin trail vertex earlier
  reached : ∀ vertex ∈ search.reached, WithinBudget store weights origin distance vertex

variable {store : σ} {weights : EdgeWeights α} {origin : VertexId} {distance : α}
variable {done waiting : List (List Edge)} {search : Search α}

theorem IsTrail.withinBudget {budgets : Std.TreeMap VertexId α} {trail : List Edge}
    {vertex other : VertexId} {budget : α}
    (leads : IsTrail store weights origin distance budgets trail (vertex, budget)) {edge : Edge}
    (stored : edge ∈ GraphStore.edges store) (joins : edge.Joins vertex other)
    (affordable : weights.weight edge.label ≤ budget) :
    WithinBudget store weights origin distance other := by
  rcases leads with ⟨earlier, simple, left, -⟩
  refine ⟨trail ++ [edge], by simp, simple.walk.step stored joins, ?_⟩
  exact ⟨_, EdgeWeights.leftover?_snoc.mpr ⟨budget, left, affordable, rfl⟩⟩

/-- An entry that has come by a walk without repeated vertices, with what the walk leaves. -/
def IsPush (store : σ) (weights : EdgeWeights α) (origin : VertexId) (distance : α)
    (push : List Edge × VertexId × α) : Prop :=
  ∃ earlier, SimpleWalk store origin push.1 push.2.1 earlier ∧
    weights.leftover? distance push.1 = some push.2.2

/-- One history goes on from another, and what has been put on the frontier in between still waits.
-/
def Continues (store : σ) (weights : EdgeWeights α) (origin : VertexId) (distance : α)
    (history next : History α) : Prop :=
  ∃ added, next.pushes = added ++ history.pushes ∧
    next.waiting = added.map (·.1) ++ history.waiting ∧
    ∀ push ∈ added, IsPush store weights origin distance push

theorem IsTrail.isPush {budgets : Std.TreeMap VertexId α} {trail : List Edge}
    {entry : VertexId × α} (leads : IsTrail store weights origin distance budgets trail entry) :
    IsPush store weights origin distance (trail, entry) := by
  rcases leads with ⟨earlier, simple, left, -⟩
  exact ⟨earlier, simple, left⟩

theorem Continues.refl (history : History α) :
    Continues store weights origin distance history history :=
  ⟨[], rfl, rfl, by simp⟩

theorem Continues.trans {history middle next : History α}
    (first : Continues store weights origin distance history middle)
    (second : Continues store weights origin distance middle next) :
    Continues store weights origin distance history next := by
  rcases first with ⟨added, pushes, waiting, sound⟩
  rcases second with ⟨later, laterPushes, laterWaiting, laterSound⟩
  refine ⟨later ++ added, ?_, ?_, List.forall_mem_append.mpr ⟨laterSound, sound⟩⟩
  · rw [laterPushes, pushes, List.append_assoc]
  · rw [laterWaiting, waiting, List.map_append, List.append_assoc]

theorem isNumeric_start (number : Scalar.IsNumber distance) :
    (start origin distance).IsNumeric := by
  intro vertex known found
  simp only [start, getElem?_insert_eq] at found
  split at found
  next => exact Option.some.inj found ▸ number
  next => simp at found

variable [Scalar.IsOrdered α]

theorem isTraced_start (number : Scalar.IsNumber distance) :
    IsTraced store weights origin distance [] [[]] (start origin distance) where
  numeric := isNumeric_start number
  entries := by
    refine List.Forall₂.cons ⟨[], .start, rfl, ?_⟩ List.Forall₂.nil
    intro visited member
    rw [List.mem_singleton] at member
    subst member
    exact ⟨distance, by simp [start], Scalar.le_refl number⟩
  distinct := by simp
  parents := by simp
  simple := by
    intro trail member
    rw [List.nil_append, List.mem_singleton] at member
    subst member
    exact ⟨origin, [], .start⟩
  reached := by simp [start]

variable (positive : weights.ArePositive) (number : Scalar.IsNumber distance)

include positive number

theorem IsTrail.isNumber {budgets : Std.TreeMap VertexId α} {trail : List Edge}
    {entry : VertexId × α} (leads : IsTrail store weights origin distance budgets trail entry) :
    Scalar.IsNumber entry.2 := by
  rcases leads with ⟨earlier, -, left, -⟩
  exact EdgeWeights.isNumber_leftover? positive number left

theorem IsTrail.mono {next : Search α} (numeric : search.IsNumeric) (grows : search.Grows next)
    {trail : List Edge} {entry : VertexId × α}
    (leads : IsTrail store weights origin distance search.budgets trail entry) :
    IsTrail store weights origin distance next.budgets trail entry := by
  have entryNumber := leads.isNumber positive number
  rcases leads with ⟨earlier, simple, left, visited⟩
  refine ⟨earlier, simple, left, ?_⟩
  intro vertex member
  rcases visited vertex member with ⟨known, found, atMost⟩
  rcases grows.budgets found with ⟨larger, foundLater, atMostLater⟩
  exact ⟨larger, foundLater, Scalar.IsOrdered.le_trans entryNumber (numeric found)
    (grows.numeric foundLater) atMost atMostLater⟩

/-- Where an edge improves the budget of its other end, that is no vertex of the trail before it, so
the trail goes on with the edge. -/
theorem IsTrail.snoc (numeric : search.IsNumeric) {trail : List Edge}
    {vertex other : VertexId} {budget : α}
    (leads : IsTrail store weights origin distance search.budgets trail (vertex, budget))
    {edge : Edge} (stored : edge ∈ GraphStore.edges store) (joins : edge.Joins vertex other)
    (affordable : weights.weight edge.label ≤ budget)
    (improves : ∀ known, search.budgets[other]? = some known →
      known < budget - weights.weight edge.label) :
    IsTrail store weights origin distance
      (search.budgets.insert other (budget - weights.weight edge.label)) (trail ++ [edge])
      (other, budget - weights.weight edge.label) := by
  rcases leads with ⟨earlier, simple, left, visited⟩
  have weight := positive edge.label
  have budgetNumber := EdgeWeights.isNumber_leftover? positive number left
  have remaining := Scalar.IsOrdered.isNumber_sub budgetNumber weight.1
  have visitedBudget : ∀ seen ∈ vertex :: earlier, ∃ known, search.budgets[seen]? = some known ∧
      budget - weights.weight edge.label ≤ known := by
    intro seen member
    rcases visited seen member with ⟨known, found, atLeast⟩
    exact ⟨known, found, Scalar.IsOrdered.le_trans remaining budgetNumber (numeric found)
      (Scalar.IsOrdered.sub_le budgetNumber weight.1 weight.2) atLeast⟩
  -- Taking off a weight leaves no more than there was, so no vertex of the trail is improved.
  have unseen : other ∉ vertex :: earlier := by
    intro member
    rcases visitedBudget other member with ⟨known, found, atLeast⟩
    exact (Scalar.not_lt (numeric found) remaining).mpr atLeast (improves known found)
  refine ⟨vertex :: earlier, simple.step stored joins unseen,
    EdgeWeights.leftover?_snoc.mpr ⟨budget, left, affordable, rfl⟩, ?_⟩
  intro seen member
  rcases List.mem_cons.mp member with rfl | before
  · exact ⟨_, by simp, Scalar.le_refl remaining⟩
  · have different : other ≠ seen := by
      rintro rfl
      exact unseen before
    simpa [getElem?_insert_eq, different] using visitedBudget seen before

/-- A trail that goes on from one the search has gone on from may wait before the others. -/
theorem IsTraced.push (traced : IsTraced store weights origin distance done waiting search)
    {next : Search α} (grows : search.Grows next) {trail : List Edge} {edge : Edge}
    {entry : VertexId × α}
    (popped : trail ∈ done) (fresh : trail ++ [edge] ∉ done ++ waiting)
    (leads : IsTrail store weights origin distance next.budgets (trail ++ [edge]) entry)
    (onFrontier : next.frontier = entry :: search.frontier)
    (reached : ∀ vertex ∈ next.reached, WithinBudget store weights origin distance vertex) :
    IsTraced store weights origin distance done ((trail ++ [edge]) :: waiting) next where
  numeric := grows.numeric
  entries := by
    rw [onFrontier]
    refine List.Forall₂.cons leads (traced.entries.imp ?_)
    intro older olderEntry olderLeads
    exact olderLeads.mono positive number traced.numeric grows
  distinct := by
    rw [List.nodup_middle]
    exact List.nodup_cons.mpr ⟨fresh, traced.distinct⟩
  parents := by
    intro parent last member
    rcases List.mem_append.mp member with old | added
    · exact traced.parents (List.mem_append_left _ old)
    · rcases List.mem_cons.mp added with same | old
      · exact (List.append_inj' same rfl).1 ▸ popped
      · exact traced.parents (List.mem_append_right _ old)
  simple := by
    intro known member
    rcases List.mem_append.mp member with old | added
    · exact traced.simple known (List.mem_append_left _ old)
    · rcases List.mem_cons.mp added with rfl | old
      · rcases leads with ⟨earlier, simple, -, -⟩
        exact ⟨entry.1, earlier, simple⟩
      · exact traced.simple known (List.mem_append_right _ old)
  reached := reached

/-- Taking an edge from the end of a trail either leaves the trails that wait as they are or adds
the one that goes on with the edge. -/
theorem IsTraced.take (traced : IsTraced store weights origin distance done waiting search)
    {trail : List Edge} {vertex : VertexId} {budget : α} (popped : trail ∈ done)
    (leads : IsTrail store weights origin distance search.budgets trail (vertex, budget))
    {edge : Edge} {other : VertexId} (stored : edge ∈ GraphStore.edges store)
    (joins : edge.Joins vertex other) (fresh : trail ++ [edge] ∉ done ++ waiting) :
    ∃ waiting', (waiting' = waiting ∨ waiting' = (trail ++ [edge]) :: waiting) ∧
      IsTraced store weights origin distance done waiting'
        (search.take budget (edge, other, weights.weight edge.label)) := by
  have weight := positive edge.label
  have weightNumber := Scalar.IsOrdered.isNumber_of_isFinite weight.1
  have budgetNumber : Scalar.IsNumber budget := leads.isNumber positive number
  have grows : search.Grows (search.take budget (edge, other, weights.weight edge.label)) :=
    take_grows traced.numeric (Scalar.IsOrdered.isNumber_sub budgetNumber weight.1)
  have reached : weights.weight edge.label ≤ budget →
      ∀ seen ∈ search.reached.insert other, WithinBudget store weights origin distance seen := by
    intro affordable seen member
    rw [Std.TreeSet.mem_insert, Std.LawfulEqCmp.compare_eq_iff_eq] at member
    rcases member with rfl | before
    · exact leads.withinBudget stored joins affordable
    · exact traced.reached seen before
  rcases take_cases search budget (weights.weight edge.label) edge other with
    ⟨-, taken⟩ | ⟨notLess, -, taken⟩ | ⟨notLess, -, improves, taken⟩
  · rw [taken]
    exact ⟨waiting, Or.inl rfl, traced⟩
  · have affordable := (Scalar.not_lt budgetNumber weightNumber).mp notLess
    rw [taken]
    exact ⟨waiting, Or.inl rfl, traced.numeric, traced.entries, traced.distinct, traced.parents,
      traced.simple, reached affordable⟩
  · have affordable := (Scalar.not_lt budgetNumber weightNumber).mp notLess
    have longer := leads.snoc positive number traced.numeric stored joins affordable improves
    refine ⟨(trail ++ [edge]) :: waiting, Or.inr rfl, ?_⟩
    rw [taken] at grows ⊢
    exact traced.push positive number grows popped fresh longer rfl (reached affordable)

/-- The history of the search has the trails that wait. -/
theorem IsTraced.take_history {history : History α}
    (traced : IsTraced store weights origin distance done history.waiting history.search)
    {trail : List Edge} {vertex : VertexId} {budget : α} (popped : trail ∈ done)
    (leads : IsTrail store weights origin distance history.search.budgets trail (vertex, budget))
    {edge : Edge} {other : VertexId} (stored : edge ∈ GraphStore.edges store)
    (joins : edge.Joins vertex other) (fresh : trail ++ [edge] ∉ done ++ history.waiting) :
    let next := history.take trail budget (edge, other, weights.weight edge.label)
    IsTraced store weights origin distance done next.waiting next.search ∧
      Continues store weights origin distance history next := by
  rcases traced.take positive number popped leads stored joins fresh with
    ⟨waiting, added, later⟩
  have before := traced.entries.length_eq
  have after := later.entries.length_eq
  rcases history.take_cases trail budget (weights.weight edge.label) edge other with
    ⟨frontier, taken⟩ | ⟨entry, frontier, taken⟩
  · rw [frontier, ← before] at after
    rcases added with rfl | rfl
    · rw [taken]
      exact ⟨later, [], rfl, rfl, by simp⟩
    · simp at after
  · rw [frontier, List.length_cons, ← before] at after
    rcases added with rfl | rfl
    · simp at after
    · have entries := later.entries
      rw [frontier] at entries
      rcases entries with _ | ⟨longer, -⟩
      rw [taken]
      exact ⟨later, [(trail ++ [edge], entry)], rfl, rfl, by simpa using longer.isPush⟩

/-- All edges at the end of a trail are taken, each of them once. -/
theorem IsTraced.foldl_take {history : History α}
    (traced : IsTraced store weights origin distance done history.waiting history.search)
    {trail : List Edge} {vertex : VertexId} {budget : α} (popped : trail ∈ done)
    (leads : IsTrail store weights origin distance history.search.budgets trail (vertex, budget))
    {steps : List (Edge × VertexId × α)}
    (available : ∀ step ∈ steps, step.1 ∈ GraphStore.edges store ∧ step.1.Joins vertex step.2.1 ∧
      step.2.2 = weights.weight step.1.label)
    (distinct : (steps.map (·.1)).Nodup)
    (fresh : ∀ step ∈ steps, trail ++ [step.1] ∉ done ++ history.waiting) :
    let next := steps.foldl (History.take trail budget) history
    IsTraced store weights origin distance done next.waiting next.search ∧
      Continues store weights origin distance history next := by
  induction steps generalizing history with
  | nil => exact ⟨traced, .refl history⟩
  | cons step steps ih =>
      rcases step with ⟨edge, other, weight⟩
      rcases List.forall_mem_cons.mp available with ⟨⟨stored, joins, weighed⟩, availableRest⟩
      rcases List.forall_mem_cons.mp fresh with ⟨freshStep, freshRest⟩
      rcases List.nodup_cons.mp distinct with ⟨unrepeated, distinctRest⟩
      have weightEq : weight = weights.weight edge.label := weighed
      subst weightEq
      have remaining := Scalar.IsOrdered.isNumber_sub (leads.isNumber positive number)
        (positive edge.label).1
      have grows : history.search.Grows
          (history.search.take budget (edge, other, weights.weight edge.label)) :=
        take_grows traced.numeric remaining
      rcases traced.take_history positive number popped leads stored joins freshStep with
        ⟨later, continues⟩
      have leadsLater := leads.mono positive number traced.numeric grows
      have freshLater : ∀ step ∈ steps, trail ++ [step.1] ∉ done ++
          (history.take trail budget (edge, other, weights.weight edge.label)).waiting := by
        intro next member
        have old := freshRest next member
        have different : next.1 ≠ edge := by
          rintro rfl
          exact unrepeated (List.mem_map.mpr ⟨next, member, rfl⟩)
        rcases history.take_cases trail budget (weights.weight edge.label) edge other with
          ⟨-, taken⟩ | ⟨entry, -, taken⟩
        · rw [taken]
          exact old
        · rw [taken]
          simpa [different] using old
      rcases ih later leadsLater availableRest distinctRest freshLater with ⟨final, rest⟩
      exact ⟨final, continues.trans rest⟩

variable (coherent : GraphStore.IsCoherent store) (indexed : GraphStore.IsIndexed store)

include coherent indexed

/-- One step moves the first trail that waits to those that the search has gone on from. The history
watches the search without changing it. -/
theorem IsTraced.pop {history : History α}
    (traced : IsTraced store weights origin distance done history.waiting history.search)
    (goesOn : history.search.frontier ≠ []) :
    let next := history.pop store weights
    next.search = advance store weights history.search ∧
      ∃ trail waiting, history.waiting = trail :: waiting ∧
        IsTraced store weights origin distance (done ++ [trail]) next.waiting next.search ∧
        Continues store weights origin distance { history with waiting } next := by
  rcases history with ⟨search, waiting, pushes⟩
  rcases shape : search.frontier with _ | ⟨⟨vertex, budget⟩, frontier⟩
  · exact absurd shape goesOn
  have entries := traced.entries
  rw [shape] at entries
  rcases entries with _ | ⟨leads, rest⟩
  rename_i trail waiting
  have regrouped : done ++ [trail] ++ waiting = done ++ trail :: waiting := by simp
  have popped : IsTraced store weights origin distance (done ++ [trail])
      (History.mk { search with frontier } waiting pushes).waiting
      (History.mk { search with frontier } waiting pushes).search := by
    refine ⟨traced.numeric, rest, ?_, ?_, ?_, traced.reached⟩
    · exact regrouped ▸ traced.distinct
    · intro parent edge member
      rw [regrouped] at member
      exact List.mem_append_left _ (traced.parents member)
    · exact regrouped ▸ traced.simple
  -- Nothing goes on from the trail yet, as only trails that are done have others after them.
  have waits : trail ∉ done := by
    have apart := List.disjoint_of_nodup_append traced.distinct
    exact fun gone => apart gone List.mem_cons_self
  have available := fun step =>
    (GraphStore.mem_weightedNeighbors indexed weights vertex step).mp
  have fresh : ∀ step ∈ GraphStore.weightedNeighbors store weights vertex,
      trail ++ [step.1] ∉ done ++ [trail] ++ waiting := by
    intro step _ member
    rw [regrouped] at member
    exact waits (traced.parents member)
  have next : History.pop store weights ⟨search, trail :: waiting, pushes⟩ =
      (GraphStore.weightedNeighbors store weights vertex).foldl (History.take trail budget)
        ⟨{ search with frontier }, waiting, pushes⟩ := by
    simp only [History.pop, shape]
  rw [next]
  refine ⟨?_, trail, waiting, rfl, ?_⟩
  · simp only [History.search_foldl_take, Search.advance, shape]
  · exact popped.foldl_take positive number (by simp) leads available
      (GraphStore.nodup_weightedNeighbors coherent indexed weights vertex) fresh

/-- One step goes on from one more trail. -/
theorem IsTraced.advance
    (traced : IsTraced store weights origin distance done waiting search)
    (goesOn : search.frontier ≠ []) :
    ∃ trail waiting', IsTraced store weights origin distance (done ++ [trail]) waiting'
      (advance store weights search) := by
  have watched : IsTraced store weights origin distance done
      (History.mk search waiting []).waiting (History.mk search waiting []).search := traced
  rcases watched.pop positive number coherent indexed goesOn with ⟨same, trail, _, -, later, -⟩
  exact ⟨trail, _, same ▸ later⟩

/-- The trails of a search stay known until its frontier is empty. -/
theorem IsTraced.explore
    (traced : IsTraced store weights origin distance done waiting search) (fuel : Nat) :
    ∃ done' waiting', IsTraced store weights origin distance done' waiting'
      (explore store weights fuel search) := by
  induction fuel generalizing done waiting search with
  | zero => exact ⟨done, waiting, traced⟩
  | succ fuel ih =>
      by_cases ended : search.frontier = []
      · rw [explore_of_frontier_eq_nil store weights _ ended]
        exact ⟨done, waiting, traced⟩
      · rcases traced.advance positive number coherent indexed ended with ⟨trail, rest, later⟩
        rw [explore_succ]
        exact ih later

end Trails

end MotifVote.Search
