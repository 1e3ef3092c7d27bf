import MotifVote.Graph.Basic
import MotifVote.Error

/-!
# Filters

A filter is a conjunction of requirements on the attributes of a vertex, at most one for each kind.
Its predicates stand in ascending order of their kinds, so filters that require the same are equal.
A kind that is required twice is refused: it is the first one that occurs for the second time.
-/

namespace MotifVote

section Repetition

variable {α : Type} [DecidableEq α]

/-- The first element that occurs among the ones `seen` or earlier in the list. -/
def firstRepeat? (seen : List α) : List α → Option α
  | [] => none
  | x :: xs => if x ∈ seen then some x else firstRepeat? (x :: seen) xs

theorem firstRepeat?_eq_none_iff {seen xs : List α} :
    firstRepeat? seen xs = none ↔ xs.Nodup ∧ ∀ x ∈ xs, x ∉ seen := by
  induction xs generalizing seen with
  | nil => simp [firstRepeat?]
  | cons x xs ih =>
    by_cases known : x ∈ seen
    · simp [firstRepeat?, known]
    · simp only [firstRepeat?, known, if_false, ih, List.nodup_cons, List.mem_cons]
      grind

/-- Without a repetition all elements differ. -/
theorem nodup_of_firstRepeat?_eq_none {xs : List α} (none : firstRepeat? [] xs = none) :
    xs.Nodup :=
  (firstRepeat?_eq_none_iff.mp none).1

end Repetition

/-- The requirement that a vertex carries an attribute of this kind and value. -/
structure Predicate where
  kind : String
  value : String
  deriving DecidableEq, Repr

/-- A conjunction of predicates of different kinds. The empty one accepts every vertex. -/
structure Filter where
  predicates : List Predicate
  ascending : predicates.Pairwise (·.kind < ·.kind)
  deriving DecidableEq, Repr

namespace Predicate

/-- A list of predicates in ascending order with one more; it takes the place of one of its kind. -/
def insertInto (predicate : Predicate) : List Predicate → List Predicate
  | [] => [predicate]
  | first :: rest =>
    if predicate.kind < first.kind then predicate :: first :: rest
    else if predicate.kind = first.kind then predicate :: rest
    else first :: predicate.insertInto rest

theorem mem_insertInto {predicate other : Predicate} {predicates : List Predicate}
    (member : other ∈ predicate.insertInto predicates) :
    other = predicate ∨ other ∈ predicates := by
  induction predicates with
  | nil => simpa [insertInto] using member
  | cons first rest ih =>
    simp only [insertInto] at member
    split at member
    · simpa using member
    · split at member
      · rcases List.mem_cons.mp member with same | later
        · exact Or.inl same
        · exact Or.inr (List.mem_cons_of_mem _ later)
      · rcases List.mem_cons.mp member with same | later
        · exact Or.inr (same ▸ List.mem_cons_self)
        · exact (ih later).imp_right (List.mem_cons_of_mem _)

theorem insertInto_ascending (predicate : Predicate) {predicates : List Predicate}
    (ascending : predicates.Pairwise (·.kind < ·.kind)) :
    (predicate.insertInto predicates).Pairwise (·.kind < ·.kind) := by
  induction predicates with
  | nil => simp [insertInto]
  | cons first rest ih =>
    rw [List.pairwise_cons] at ascending
    simp only [insertInto]
    split
    · next before =>
      refine List.pairwise_cons.mpr ⟨fun other member => ?_, List.pairwise_cons.mpr ascending⟩
      rcases List.mem_cons.mp member with same | later
      · exact same ▸ before
      · exact String.lt_trans before (ascending.1 other later)
    · next notBefore =>
      split
      · next same => exact List.pairwise_cons.mpr ⟨same ▸ ascending.1, ascending.2⟩
      · next different =>
        refine List.pairwise_cons.mpr ⟨fun other member => ?_, ih ascending.2⟩
        rcases mem_insertInto member with same | later
        · subst same
          exact Std.lt_of_le_of_ne (Std.not_lt.mp notBefore) (Ne.symm different)
        · exact ascending.1 other later

end Predicate

namespace Filter

/-- The filter that accepts every vertex. -/
def empty : Filter := ⟨[], List.Pairwise.nil⟩

/-- The filter with one more predicate, which takes the place of one of its kind. -/
def insert (filter : Filter) (predicate : Predicate) : Filter :=
  ⟨predicate.insertInto filter.predicates, predicate.insertInto_ascending filter.ascending⟩

/-- The filter of some predicates, of each kind the last. -/
def collect (predicates : List Predicate) : Filter := predicates.foldl insert empty

/-- The filter that requires all of some predicates; no kind may occur twice. -/
def ofPredicates (predicates : List Predicate) : Except MotifFault Filter :=
  match firstRepeat? [] (predicates.map (·.kind)) with
  | some kind => .error (.repeatedKind kind)
  | none => .ok (collect predicates)

/-- The filter that a vertex with some attributes satisfies: of each kind but those to `avoid`, the
last attribute is required. -/
def ofAttributes (attributes : List Attribute) (avoid : List String) : Filter :=
  collect ((attributes.filter fun carried => !avoid.contains carried.kind).map
    fun carried => ⟨carried.kind, carried.value⟩)

/-- Whether a vertex carries everything that a filter requires. -/
def accepts (filter : Filter) (vertex : Vertex) : Bool :=
  filter.predicates.all fun predicate => vertex.has predicate.kind predicate.value

/-- A filter as it is shown. -/
def text (filter : Filter) : String :=
  "[" ++ " & ".intercalate (filter.predicates.map fun p => p.kind ++ " = " ++ p.value) ++ "]"

end Filter

end MotifVote
