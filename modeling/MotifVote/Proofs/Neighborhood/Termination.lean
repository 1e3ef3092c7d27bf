import MotifVote.Proofs.Neighborhood.Search
import MotifVote.Proofs.Scalar.Difference
import MotifVote.Proofs.Store.Persistence
import Mathlib.Data.Set.Card

/-!
# How many steps the search takes

The search goes on from the first entry of its frontier for as long as there is any, and what it
goes on from may lead back to where it has been. It ends on every graph nevertheless: everything it
ever puts on its frontier has come by a walk that repeats no vertex, and never twice by the same
edges. So it takes as many steps as it has put entries there, and no more than there are such walks.
-/

namespace MotifVote.Search

open scoped List

variable {σ α : Type} [GraphStore σ] [Scalar α]

/-- The paths of the walks from a vertex that repeat no vertex. -/
def simplePaths (store : σ) (origin : VertexId) : Set (List Edge) :=
  {path | ∃ vertex earlier, SimpleWalk store origin path vertex earlier}

section Paths

variable {store : σ} {origin : VertexId} {path : List Edge}

theorem short_of_mem_simplePaths (coherent : GraphStore.IsCoherent store)
    (member : path ∈ simplePaths store origin) :
    path ⊆ GraphStore.edges store ∧ path.length ≤ GraphStore.vertexCount store := by
  rcases member with ⟨vertex, earlier, simple⟩
  exact ⟨simple.subset_edges, simple.length_le coherent⟩

theorem finite_simplePaths (coherent : GraphStore.IsCoherent store) :
    (simplePaths store origin).Finite := by
  refine (List.finite_toSet
    (wordsUpTo (GraphStore.edges store) (GraphStore.vertexCount store))).subset ?_
  intro path member
  rcases short_of_mem_simplePaths coherent member with ⟨spelled, short⟩
  exact mem_wordsUpTo spelled short

end Paths

/-- A history of a search that has gone on from some trails. -/
structure IsWatched (store : σ) (weights : EdgeWeights α) (origin : VertexId) (distance : α)
    (done : List (List Edge)) (history : History α) : Prop where
  traced : IsTraced store weights origin distance done history.waiting history.search
  trails : (history.pushes.map (·.1)).Perm (done ++ history.waiting)
  isPush : ∀ push ∈ history.pushes, IsPush store weights origin distance push

/-- The search goes on exactly so many times before its frontier is empty. Each time it goes on from
another entry that has been put there, and these have all come by different walks that repeat no
vertex. -/
structure EndsAfter (store : σ) (weights : EdgeWeights α) (origin : VertexId) (distance : α)
    (pops : Nat) : Prop where
  frontier_eq_nil_iff : ∀ n,
    ((advance store weights)^[n] (start origin distance)).frontier = [] ↔ pops ≤ n
  explore_eq : ∀ fuel, pops ≤ fuel → explore store weights fuel (start origin distance) =
    (advance store weights)^[pops] (start origin distance)
  search_eq : ∀ n, ((History.pop store weights)^[n] (.start origin distance)).search =
    (advance store weights)^[n] (start origin distance)
  isPush : ∀ n, ∀ push ∈ ((History.pop store weights)^[n] (.start origin distance)).pushes,
    IsPush store weights origin distance push
  nodup_pushes : ∀ n,
    (((History.pop store weights)^[n] (.start origin distance)).pushes.map (·.1)).Nodup
  length_pushes : ((History.pop store weights)^[pops] (.start origin distance)).pushes.length = pops

section Watched

variable {store : σ} {weights : EdgeWeights α} {origin : VertexId} {distance : α}
variable {done : List (List Edge)} {history : History α}

theorem IsWatched.subset_simplePaths
    (watched : IsWatched store weights origin distance done history) :
    ∀ trail ∈ done ++ history.waiting, trail ∈ simplePaths store origin :=
  watched.traced.simple

theorem IsWatched.nodup_pushes (watched : IsWatched store weights origin distance done history) :
    (history.pushes.map (·.1)).Nodup :=
  watched.trails.nodup_iff.mpr watched.traced.distinct

/-- The search has not gone on from more trails than there are. -/
theorem IsWatched.length_le (coherent : GraphStore.IsCoherent store)
    (watched : IsWatched store weights origin distance done history) :
    done.length ≤ (simplePaths store origin).ncard ∧ done.length ≤ bound store := by
  have distinct : done.Nodup := (List.nodup_append.mp watched.traced.distinct).1
  have simple : ∀ trail ∈ done, trail ∈ simplePaths store origin := fun trail member =>
    watched.subset_simplePaths trail (List.mem_append_left _ member)
  constructor
  · rw [← List.toFinset_card_of_nodup distinct, ← Set.ncard_coe_finset]
    refine Set.ncard_le_ncard ?_ (finite_simplePaths coherent)
    intro trail member
    exact simple trail (by simpa using member)
  · rw [bound, coherent.edgeCount_eq]
    exact length_le_of_nodup_of_short distinct fun trail member =>
      short_of_mem_simplePaths coherent (simple trail member)

theorem explore_eq_iterate (fuel : Nat) (search : Search α) :
    explore store weights fuel search = (advance store weights)^[fuel] search := by
  induction fuel generalizing search with
  | zero => rfl
  | succ fuel ih => rw [explore_succ, ih, Function.iterate_succ_apply]

theorem iterate_eq_of_fixed {β : Type} {next : β → β} {first : β} {m n : Nat}
    (fixed : next (next^[m] first) = next^[m] first) (later : m ≤ n) :
    next^[n] first = next^[m] first := by
  rw [← Nat.sub_add_cancel later, Function.iterate_add_apply]
  exact Function.iterate_fixed fixed _

theorem pop_of_frontier_eq_nil (ended : history.search.frontier = []) :
    history.pop store weights = history := by
  simp only [History.pop, ended]

theorem advance_of_frontier_eq_nil {search : Search α} (ended : search.frontier = []) :
    advance store weights search = search := by
  simp only [advance, ended]

variable [Scalar.IsOrdered α]

theorem isWatched_start (number : Scalar.IsNumber distance) :
    IsWatched store weights origin distance [] (.start origin distance) where
  traced := isTraced_start number
  trails := List.Perm.refl _
  isPush := by
    simp only [History.start, List.mem_singleton, forall_eq]
    exact ⟨[], .start, rfl⟩

variable (positive : weights.ArePositive) (number : Scalar.IsNumber distance)
variable (coherent : GraphStore.IsCoherent store) (indexed : GraphStore.IsIndexed store)

include positive number coherent indexed

theorem IsWatched.pop (watched : IsWatched store weights origin distance done history)
    (goesOn : history.search.frontier ≠ []) :
    (history.pop store weights).search = advance store weights history.search ∧
      ∃ trail, IsWatched store weights origin distance (done ++ [trail])
        (history.pop store weights) := by
  rcases watched.traced.pop positive number coherent indexed goesOn with
    ⟨same, trail, waiting, first, traced, added, pushes, later, sound⟩
  refine ⟨same, trail, traced, ?_, ?_⟩
  · have trails := watched.trails
    rw [first] at trails
    rw [pushes, later, List.map_append]
    calc added.map (·.1) ++ history.pushes.map (·.1)
        ~ added.map (·.1) ++ (done ++ trail :: waiting) := trails.append_left _
      _ ~ (done ++ trail :: waiting) ++ added.map (·.1) := List.perm_append_comm
      _ = (done ++ [trail]) ++ (waiting ++ added.map (·.1)) := by simp
      _ ~ (done ++ [trail]) ++ (added.map (·.1) ++ waiting) :=
          List.perm_append_comm.append_left _
  · rw [pushes]
    exact List.forall_mem_append.mpr ⟨sound, watched.isPush⟩

/-- As long as the frontier is not empty, every step goes on from one more trail. -/
theorem exists_isWatched (n : Nat)
    (goesOn : ∀ m < n, ((advance store weights)^[m] (start origin distance)).frontier ≠ []) :
    ((History.pop store weights)^[n] (.start origin distance)).search =
        (advance store weights)^[n] (start origin distance) ∧
      ∃ done, IsWatched store weights origin distance done
          ((History.pop store weights)^[n] (.start origin distance)) ∧ done.length = n := by
  induction n with
  | zero => exact ⟨rfl, [], isWatched_start number, rfl⟩
  | succ n ih =>
      rcases ih fun m less => goesOn m (Nat.lt_succ_of_lt less) with ⟨same, done, watched, count⟩
      have next := goesOn n (Nat.lt_succ_self n)
      rw [← same] at next
      rcases watched.pop positive number coherent indexed next with ⟨search, trail, later⟩
      simp only [Function.iterate_succ_apply']
      refine ⟨by rw [search, same], done ++ [trail], later, ?_⟩
      rw [List.length_append, count, List.length_singleton]

/-- The search comes to an end. -/
theorem exists_frontier_eq_nil :
    ∃ n, ((advance store weights)^[n] (start origin distance)).frontier = [] := by
  by_contra never
  rw [not_exists] at never
  rcases exists_isWatched positive number coherent indexed
      ((simplePaths store origin).ncard + 1) (fun m _ => never m) with ⟨-, done, watched, count⟩
  have few := (watched.length_le coherent).1
  omega

/-- The history agrees with the search also after the last step. -/
theorem exists_isWatched_of_ended {pops : Nat}
    (before : ∀ m < pops, ((advance store weights)^[m] (start origin distance)).frontier ≠ [])
    (ended : ((advance store weights)^[pops] (start origin distance)).frontier = []) (n : Nat) :
    ((History.pop store weights)^[n] (.start origin distance)).search =
        (advance store weights)^[n] (start origin distance) ∧
      ∃ done, IsWatched store weights origin distance done
        ((History.pop store weights)^[n] (.start origin distance)) := by
  rcases Nat.lt_or_ge n pops with earlier | later
  · rcases exists_isWatched positive number coherent indexed n
      (fun m less => before m (less.trans earlier)) with ⟨same, done, watched, -⟩
    exact ⟨same, done, watched⟩
  · rcases exists_isWatched positive number coherent indexed pops before with
      ⟨same, done, watched, -⟩
    have endedToo : ((History.pop store weights)^[pops] (.start origin distance)).search.frontier =
        [] := same ▸ ended
    rw [iterate_eq_of_fixed (pop_of_frontier_eq_nil endedToo) later,
      iterate_eq_of_fixed (advance_of_frontier_eq_nil ended) later]
    exact ⟨same, done, watched⟩

/-- The number of steps until the frontier is empty is the number of all that has been put there. -/
theorem endsAfter_of_ended {pops : Nat}
    (before : ∀ m < pops, ((advance store weights)^[m] (start origin distance)).frontier ≠ [])
    (ended : ((advance store weights)^[pops] (start origin distance)).frontier = []) :
    EndsAfter store weights origin distance pops := by
  have watched := exists_isWatched_of_ended positive number coherent indexed before ended
  refine ⟨?_, ?_, fun n => (watched n).1, ?_, ?_, ?_⟩
  · intro n
    constructor
    · intro empty
      by_contra earlier
      exact before n (not_le.mp earlier) empty
    · intro later
      rw [iterate_eq_of_fixed (advance_of_frontier_eq_nil ended) later]
      exact ended
  · intro fuel enough
    rw [explore_eq_iterate, iterate_eq_of_fixed (advance_of_frontier_eq_nil ended) enough]
  · intro n
    rcases (watched n).2 with ⟨done, watched⟩
    exact watched.isPush
  · intro n
    rcases (watched n).2 with ⟨done, watched⟩
    exact watched.nodup_pushes
  · rcases exists_isWatched positive number coherent indexed pops before with
      ⟨same, done, last, count⟩
    have nothingWaits := last.traced.entries.length_eq
    rw [same, ended, List.length_nil] at nothingWaits
    have total := last.trails.length_eq
    rw [List.length_map, List.length_append, count, nothingWaits] at total
    exact total

theorem exists_endsAfter : ∃ pops, pops ≤ (simplePaths store origin).ncard ∧
    pops ≤ bound store ∧ EndsAfter store weights origin distance pops := by
  classical
  have ends : ∃ n, ((advance store weights)^[n] (start origin distance)).frontier = [] :=
    exists_frontier_eq_nil positive number coherent indexed
  have ended := Nat.find_spec ends
  have before : ∀ m < Nat.find ends,
      ((advance store weights)^[m] (start origin distance)).frontier ≠ [] :=
    fun m earlier => Nat.find_min ends earlier
  rcases exists_isWatched positive number coherent indexed (Nat.find ends) before with
    ⟨-, done, watched, count⟩
  rcases watched.length_le coherent with ⟨few, bounded⟩
  rw [count] at few bounded
  exact ⟨Nat.find ends, few, bounded,
    endsAfter_of_ended positive number coherent indexed before ended⟩

/-- The search has come to an end when the program stops it. -/
theorem frontier_explore_eq_nil :
    (explore store weights (bound store) (start origin distance)).frontier = [] := by
  have ends : ∃ pops, pops ≤ (simplePaths store origin).ncard ∧ pops ≤ bound store ∧
      EndsAfter store weights origin distance pops :=
    exists_endsAfter positive number coherent indexed
  rcases ends with ⟨pops, -, enough, ends⟩
  rw [ends.explore_eq _ enough]
  exact (ends.frontier_eq_nil_iff pops).mpr le_rfl

end Watched

/-- The search from a vertex comes to an end, after no more steps than there are walks that repeat
no vertex. The program gives it enough. -/
def Terminates (store : σ) (weights : EdgeWeights α) (origin : VertexId) (distance : α) : Prop :=
  (simplePaths store origin).Finite ∧
    ∃ pops, pops ≤ (simplePaths store origin).ncard ∧ pops ≤ bound store ∧
      EndsAfter store weights origin distance pops

section Stores

variable [Scalar.IsOrdered α] {weights : EdgeWeights α}

theorem terminates_of_isIndexed {store : σ} {origin : VertexId} {distance : α}
    (positive : weights.ArePositive) (number : Scalar.IsNumber distance)
    (coherent : GraphStore.IsCoherent store) (indexed : GraphStore.IsIndexed store) :
    Terminates store weights origin distance :=
  ⟨finite_simplePaths coherent, exists_endsAfter positive number coherent indexed⟩

/-- After any events that create no more edges than there are ids for, on either kind of store, with
any accepted weights and from any distance, infinite ones included, the search comes to an end. -/
theorem terminates_after {given : Std.TreeMap String α} {default : α}
    (accepted : EdgeWeights.make given default = .ok weights) (events : List StoreEvent)
    (origin : VertexId) {distance : α} (number : Scalar.IsNumber distance) :
    (DocumentStore.edgesCreated MemoryGraph.empty events ≤ UInt64.size →
      Terminates (DocumentStore.after MemoryGraph.empty events) weights origin distance) ∧
    (DocumentStore.edgesCreated TableGraph.empty events ≤ UInt64.size →
      Terminates (DocumentStore.after TableGraph.empty events) weights origin distance) := by
  have positive := EdgeWeights.arePositive_of_make_eq_ok accepted
  have sound := MemoryGraph.isSound_after events
  have alike := TableGraph.readAlike_after events
  constructor
  · intro room
    have indexed := (MemoryGraph.isIndexed_after room).isIndexed sound
    exact terminates_of_isIndexed positive number sound.isCoherent indexed
  · intro room
    rw [← TableGraph.represents_empty.edgesCreated_eq] at room
    have indexed := (MemoryGraph.isIndexed_after room).isIndexed sound
    exact terminates_of_isIndexed positive number (sound.isCoherent.congr alike)
      (indexed.congr alike)

/-- Three vertices and a circle of edges, over doubles. The second vertex is reached by a long edge
and then, at less cost, by two short ones, so the search goes on from it twice. A large distance
stays the same when a weight is taken off it, and then the search goes on from each vertex once. -/
theorem terminates_after_absorbed :
    let events : List StoreEvent := [.call (.createVertex []), .call (.createVertex []),
      .call (.createVertex []), .call (.createEdge 0 "far" 1), .call (.createEdge 0 "near" 2),
      .call (.createEdge 2 "near" 1), .reopen, .call (.createEdge 1 "near" 1)]
    let given : Std.TreeMap String Float := (∅ : Std.TreeMap String Float).insert "far" 4
    let memory := DocumentStore.after MemoryGraph.empty events
    let tables := DocumentStore.after TableGraph.empty events
    let large : Float := 1152921504606846976
    EdgeWeights.make given 1 = .ok ⟨given, 1⟩ ∧
      Scalar.IsNumber (10 : Float) ∧ Scalar.IsNumber large ∧
      DocumentStore.edgesCreated MemoryGraph.empty events ≤ UInt64.size ∧
      DocumentStore.edgesCreated TableGraph.empty events ≤ UInt64.size ∧
      Terminates memory ⟨given, 1⟩ 0 (10 : Float) ∧
      (((History.pop memory ⟨given, 1⟩)^[4] (.start 0 (10 : Float))).pushes.map fun push =>
          (push.1.map (·.id), push.2.1)) = [([1, 2], 1), ([1], 2), ([0], 1), ([], 0)] ∧
      (large - 4 == large) = true ∧
      Terminates tables ⟨given, 1⟩ 0 large ∧
      (((History.pop tables ⟨given, 1⟩)^[3] (.start 0 large)).pushes.map fun push =>
        (push.1.map (·.id), push.2.1)) = [([1], 2), ([0], 1), ([], 0)] := by
  intro events given memory tables large
  have accepted : EdgeWeights.make given 1 = .ok ⟨given, 1⟩ := by rfl
  have number : ((10 : Float) == 10) = true := by decide +kernel
  have largeNumber : (large == large) = true := by decide +kernel
  have inMemory : DocumentStore.edgesCreated MemoryGraph.empty events ≤ UInt64.size := by
    decide +kernel
  have inTables : DocumentStore.edgesCreated TableGraph.empty events ≤ UInt64.size := by
    decide +kernel
  exact ⟨accepted, number, largeNumber, inMemory, inTables,
    (terminates_after accepted events 0 number).1 inMemory, by decide +kernel, by decide +kernel,
    (terminates_after accepted events 0 largeNumber).2 inTables, by decide +kernel⟩

end Stores

end MotifVote.Search
