import MotifVote.Neighborhood
import MotifVote.Proofs.Scalar.Order
import MotifVote.Proofs.Store.Reads
import Mathlib.Data.List.Induction

/-!
# Walks and what they cost

A walk takes edges of a store from one vertex to the next, in either direction. It starts with the
distance as its budget; every edge must cost no more than what is left, and its weight is taken off.
Without rounding, a walk can be paid for exactly if its total weight is at most the distance.

A walk that repeats no vertex has no more edges than the store has vertices, so there are only so
many of them.
-/

namespace MotifVote

namespace EdgeWeights

variable {α : Type} [Scalar α]

theorem check_eq_ok_iff {label : String} {weight : α} :
    check label weight = .ok () ↔ Scalar.isFinite weight = true ∧ 0 < weight := by
  by_cases sound : (Scalar.isFinite weight && decide (weight > 0)) = true
  · rw [check, if_pos sound]
    simpa using sound
  · rw [check, if_neg sound]
    simpa using sound

theorem checkAll_eq_ok {rows : List (String × α)}
    (checked : (rows.forM fun (label, weight) => check label weight) = .ok ()) :
    ∀ row ∈ rows, Scalar.isFinite row.2 = true ∧ 0 < row.2 := by
  induction rows with
  | nil => simp
  | cons row rows ih =>
      rw [List.forM_eq_forM, List.forM_cons] at checked
      rcases first : check row.1 row.2 with fault | ⟨⟩
      · simp [first, bind, Except.bind] at checked
      · simp only [first, bind, Except.bind] at checked
        rw [List.forall_mem_cons]
        exact ⟨check_eq_ok_iff.mp first, ih checked⟩

/-- Every label has a finite and positive weight. -/
def ArePositive (weights : EdgeWeights α) : Prop :=
  ∀ label, Scalar.isFinite (weights.weight label) = true ∧ 0 < weights.weight label

theorem arePositive_of_make_eq_ok {given : Std.TreeMap String α} {default : α}
    {weights : EdgeWeights α} (accepted : make given default = .ok weights) :
    weights.ArePositive := by
  intro label
  rcases defaultChecked : check "edge_weight_default" default with fault | ⟨⟩
  · simp [make, defaultChecked, bind, Except.bind] at accepted
  rcases rowsChecked : (given.toList.forM fun (label, weight) => check label weight)
    with fault | ⟨⟩
  · simp [make, defaultChecked, rowsChecked, bind, Except.bind] at accepted
  simp only [make, defaultChecked, rowsChecked, bind, Except.bind, pure, Except.pure,
    Except.ok.injEq] at accepted
  subst accepted
  have listed : ∀ {name : String} {weight : α}, given[name]? = some weight →
      Scalar.isFinite weight = true ∧ 0 < weight := by
    intro name weight found
    exact checkAll_eq_ok rowsChecked (name, weight)
      (Std.TreeMap.mem_toList_iff_getElem?_eq_some.mpr found)
  rcases own : given[label]? with _ | weight
  · rcases shared : (namespace? label).bind fun name => given[name]? with _ | weight
    · simpa only [EdgeWeights.weight, own, shared, Option.getD_none] using
        check_eq_ok_iff.mp defaultChecked
    · rcases Option.bind_eq_some_iff.mp shared with ⟨name, -, found⟩
      simpa only [EdgeWeights.weight, own, shared, Option.getD_some] using listed found
  · simpa only [EdgeWeights.weight, own] using listed own

/-- What a path leaves of a budget, if it never costs more than is left. -/
def leftover? (weights : EdgeWeights α) (budget : α) (path : List Edge) : Option α :=
  path.foldlM
    (fun left edge =>
      if weights.weight edge.label ≤ left then some (left - weights.weight edge.label) else none)
    budget

/-- The weight of all edges of a path. -/
def total (weights : EdgeWeights α) (path : List Edge) : α :=
  Scalar.sum (path.map fun edge => weights.weight edge.label)

section Budget

variable {weights : EdgeWeights α} {budget left : α} {path : List Edge} {edge : Edge}

theorem leftover?_snoc :
    weights.leftover? budget (path ++ [edge]) = some left ↔
      ∃ before, weights.leftover? budget path = some before ∧
        weights.weight edge.label ≤ before ∧ before - weights.weight edge.label = left := by
  simp only [leftover?, List.foldlM_append, List.foldlM_cons, List.foldlM_nil]
  rcases path.foldlM _ budget with _ | before
  · simp
  · by_cases affordable : weights.weight edge.label ≤ before
    · simp [affordable]
    · simp [affordable]

theorem total_snoc : weights.total (path ++ [edge]) =
    weights.total path + weights.weight edge.label := by
  simp only [total, List.map_append, List.map_singleton, Scalar.sum_append_singleton]

theorem isFinite_total [Scalar.IsExact α] (positive : weights.ArePositive) :
    Scalar.isFinite (weights.total path) = true := by
  induction path using List.reverseRecOn with
  | nil => exact Scalar.IsExact.isFinite_zero
  | append_singleton path edge ih =>
      rw [total_snoc]
      exact Scalar.IsExact.isFinite_add ih (positive edge.label).1

variable [Scalar.IsOrdered α]

theorem isNumber_leftover? (positive : weights.ArePositive) (number : Scalar.IsNumber budget)
    (found : weights.leftover? budget path = some left) : Scalar.IsNumber left := by
  induction path using List.reverseRecOn generalizing left with
  | nil =>
      cases found
      exact number
  | append_singleton path edge ih =>
      rcases leftover?_snoc.mp found with ⟨before, earlier, -, rfl⟩
      exact Scalar.IsOrdered.isNumber_sub (ih earlier) (positive edge.label).1

variable [Scalar.IsExact α]

/-- Without rounding, a path can be paid for if its total is within the budget. -/
theorem leftover?_eq_some_iff (positive : weights.ArePositive) (number : Scalar.IsNumber budget)
    (nonnegative : 0 ≤ budget) :
    weights.leftover? budget path = some left ↔
      weights.total path ≤ budget ∧ budget - weights.total path = left := by
  induction path using List.reverseRecOn generalizing left with
  | nil =>
      have none : weights.total [] = 0 := rfl
      have whole : weights.leftover? budget [] = some budget := rfl
      rw [none, whole, Scalar.IsExact.sub_zero number, Option.some.injEq]
      exact (and_iff_right nonnegative).symm
  | append_singleton path edge ih =>
      have soFar : Scalar.isFinite (weights.total path) = true := isFinite_total positive
      have next := positive edge.label
      have sum := Scalar.IsExact.isFinite_add soFar next.1
      rw [leftover?_snoc, total_snoc, ← Scalar.IsExact.sub_sub number soFar next.1,
        ← Scalar.IsExact.le_sub_iff number soFar next.1]
      constructor
      · rintro ⟨before, earlier, affordable, rfl⟩
        rcases ih.mp earlier with ⟨-, rfl⟩
        exact ⟨affordable, rfl⟩
      · rintro ⟨affordable, rfl⟩
        refine ⟨_, ih.mpr ⟨?_, rfl⟩, affordable, rfl⟩
        exact Scalar.IsOrdered.le_trans (Scalar.IsOrdered.isNumber_of_isFinite soFar)
          (Scalar.IsOrdered.isNumber_of_isFinite sum) number
          (Scalar.IsExact.le_add soFar next.1 next.2)
          ((Scalar.IsExact.le_sub_iff number soFar next.1).mp affordable)

end Budget

end EdgeWeights

section Walks

variable {σ : Type} [GraphStore σ]

/-- A walk from an origin along a path of edges of the store, to the vertex where it ends. -/
inductive Walk (store : σ) (origin : VertexId) : List Edge → VertexId → Prop
  | start : Walk store origin [] origin
  | step {path : List Edge} {vertex other : VertexId} {edge : Edge} :
      Walk store origin path vertex → edge ∈ GraphStore.edges store → edge.Joins vertex other →
      Walk store origin (path ++ [edge]) other

/-- Whether some walk of at least one edge leads to a vertex and can be paid for from a distance. -/
def WithinBudget {α : Type} [Scalar α] (store : σ) (weights : EdgeWeights α) (origin : VertexId)
    (distance : α) (vertex : VertexId) : Prop :=
  ∃ path, path ≠ [] ∧ Walk store origin path vertex ∧
    ∃ left, weights.leftover? distance path = some left

/-- Whether the edges of some walk to a vertex, of at least one edge, weigh no more than a distance
in total. -/
def WithinTotal {α : Type} [Scalar α] (store : σ) (weights : EdgeWeights α) (origin : VertexId)
    (distance : α) (vertex : VertexId) : Prop :=
  ∃ path, path ≠ [] ∧ Walk store origin path vertex ∧ weights.total path ≤ distance

/-- A walk that repeats no vertex, with the vertices before the last one, the latest first. -/
inductive SimpleWalk (store : σ) (origin : VertexId) :
    List Edge → VertexId → List VertexId → Prop
  | start : SimpleWalk store origin [] origin []
  | step {path : List Edge} {vertex other : VertexId} {earlier : List VertexId} {edge : Edge} :
      SimpleWalk store origin path vertex earlier → edge ∈ GraphStore.edges store →
      edge.Joins vertex other → other ∉ vertex :: earlier →
      SimpleWalk store origin (path ++ [edge]) other (vertex :: earlier)

variable {store : σ} {origin vertex : VertexId} {path : List Edge} {earlier : List VertexId}

theorem SimpleWalk.walk (simple : SimpleWalk store origin path vertex earlier) :
    Walk store origin path vertex := by
  induction simple with
  | start => exact .start
  | step _ stored joins _ ih => exact ih.step stored joins

theorem SimpleWalk.nodup (simple : SimpleWalk store origin path vertex earlier) :
    (vertex :: earlier).Nodup := by
  induction simple with
  | start => simp
  | step _ _ _ fresh ih => exact List.nodup_cons.mpr ⟨fresh, ih⟩

theorem SimpleWalk.length_eq (simple : SimpleWalk store origin path vertex earlier) :
    path.length = earlier.length := by
  induction simple with
  | start => rfl
  | step _ _ _ _ ih => simp [ih]

theorem SimpleWalk.subset_edges (simple : SimpleWalk store origin path vertex earlier) :
    path ⊆ GraphStore.edges store := by
  induction simple with
  | start => simp
  | step _ stored _ _ ih => exact List.append_subset.mpr ⟨ih, by simpa using stored⟩

theorem SimpleWalk.earlier_subset_vertexIds (coherent : GraphStore.IsCoherent store)
    (simple : SimpleWalk store origin path vertex earlier) :
    earlier ⊆ GraphStore.vertexIds store := by
  induction simple with
  | start => simp
  | step _ stored joins _ ih =>
      refine List.cons_subset.mpr ⟨?_, ih⟩
      have ends := coherent.ends _ stored
      rcases joins with ⟨rfl, -⟩ | ⟨-, rfl⟩
      · exact ends.1
      · exact ends.2

/-- A walk that repeats no vertex takes no more edges than there are vertices. -/
theorem SimpleWalk.length_le (coherent : GraphStore.IsCoherent store)
    (simple : SimpleWalk store origin path vertex earlier) :
    path.length ≤ GraphStore.vertexCount store := by
  rw [simple.length_eq, coherent.vertexCount_eq]
  exact (List.subperm_of_subset (List.nodup_cons.mp simple.nodup).2
    (simple.earlier_subset_vertexIds coherent)).length_le

end Walks

section Counting

variable {β : Type}

/-- All lists over some letters up to a length. -/
def wordsUpTo (letters : List β) : Nat → List (List β)
  | 0 => [[]]
  | length + 1 =>
    [] :: letters.flatMap fun letter => (wordsUpTo letters length).map (letter :: ·)

theorem mem_wordsUpTo {letters word : List β} {length : Nat} (spelled : word ⊆ letters)
    (short : word.length ≤ length) : word ∈ wordsUpTo letters length := by
  induction length generalizing word with
  | zero => simpa [wordsUpTo] using short
  | succ length ih =>
      rcases word with _ | ⟨letter, word⟩
      · simp [wordsUpTo]
      · rcases List.cons_subset.mp spelled with ⟨known, spelledRest⟩
        have rest := ih spelledRest (Nat.le_of_succ_le_succ short)
        refine List.mem_cons_of_mem _ (List.mem_flatMap.mpr ⟨letter, known, ?_⟩)
        exact List.mem_map.mpr ⟨word, rest, rfl⟩

theorem length_wordsUpTo_le (letters : List β) (length : Nat) :
    0 < (wordsUpTo letters length).length ∧
      (wordsUpTo letters length).length ≤ Nat.pow (letters.length + 1) length := by
  induction length with
  | zero => simp [wordsUpTo]
  | succ length ih =>
      have count : (wordsUpTo letters (length + 1)).length =
          letters.length * (wordsUpTo letters length).length + 1 := by
        simp [wordsUpTo, List.length_flatMap]
      refine ⟨by omega, ?_⟩
      calc (wordsUpTo letters (length + 1)).length
          = letters.length * (wordsUpTo letters length).length + 1 := count
        _ ≤ (wordsUpTo letters length).length * (letters.length + 1) := by
            rw [Nat.mul_succ, Nat.mul_comm]
            omega
        _ ≤ Nat.pow (letters.length + 1) length * (letters.length + 1) :=
            Nat.mul_le_mul_right _ ih.2

/-- There are only so many different short lists over some letters. -/
theorem length_le_of_nodup_of_short {letters : List β} {words : List (List β)} {length : Nat}
    (distinct : words.Nodup) (short : ∀ word ∈ words, word ⊆ letters ∧ word.length ≤ length) :
    words.length ≤ Nat.pow (letters.length + 1) length := by
  have listed : words ⊆ wordsUpTo letters length := by
    intro word member
    exact mem_wordsUpTo (short word member).1 (short word member).2
  exact (List.subperm_of_subset distinct listed).length_le.trans
    (length_wordsUpTo_le letters length).2

end Counting

end MotifVote
