import MotifVote.Motif.Filter
import Mathlib.Data.List.Induction

/-!
# What filters require

A filter that is collected from predicates requires the last one of every kind, because each takes
the place of the one of its kind before it. A filter made of the attributes of a vertex therefore
requires, of every kind that is not to be avoided, the attribute that the vertex got last; the
vertex carries it, whatever else of that kind it carries.
-/

namespace MotifVote

theorem Predicate.mem_insertInto_iff {predicate other : Predicate} {predicates : List Predicate}
    (ascending : predicates.Pairwise (·.kind < ·.kind)) :
    other ∈ predicate.insertInto predicates ↔
      other = predicate ∨ other ∈ predicates ∧ other.kind ≠ predicate.kind := by
  induction predicates with
  | nil => simp [insertInto]
  | cons first rest ih =>
      rcases List.pairwise_cons.mp ascending with ⟨least, ascendingRest⟩
      -- What comes behind a larger kind is of a larger kind itself.
      have differs : ∀ later ∈ rest, ¬first.kind < predicate.kind →
          later.kind ≠ predicate.kind := by
        intro later member notLess same
        exact notLess (same ▸ least later member)
      rw [insertInto]
      split
      next less =>
        have notLess : ¬first.kind < predicate.kind := String.lt_asymm less
        have firstDiffers : first.kind ≠ predicate.kind := (Std.ne_of_lt less).symm
        simp only [List.mem_cons]
        constructor
        · rintro (rfl | rfl | later)
          · exact Or.inl rfl
          · exact Or.inr ⟨Or.inl rfl, firstDiffers⟩
          · exact Or.inr ⟨Or.inr later, differs other later notLess⟩
        · rintro (rfl | ⟨rfl | later, -⟩)
          · exact Or.inl rfl
          · exact Or.inr (Or.inl rfl)
          · exact Or.inr (Or.inr later)
      next =>
        split
        next same =>
          have notLess : ¬first.kind < predicate.kind := by
            rw [same]
            exact String.lt_irrefl _
          simp only [List.mem_cons]
          constructor
          · rintro (rfl | later)
            · exact Or.inl rfl
            · exact Or.inr ⟨Or.inr later, differs other later notLess⟩
          · rintro (rfl | ⟨rfl | later, otherKind⟩)
            · exact Or.inl rfl
            · exact absurd same.symm otherKind
            · exact Or.inr later
        next different =>
          simp only [List.mem_cons, ih ascendingRest]
          constructor
          · rintro (rfl | rfl | ⟨later, otherKind⟩)
            · exact Or.inr ⟨Or.inl rfl, fun same => different same.symm⟩
            · exact Or.inl rfl
            · exact Or.inr ⟨Or.inr later, otherKind⟩
          · rintro (rfl | ⟨rfl | later, otherKind⟩)
            · exact Or.inr (Or.inl rfl)
            · exact Or.inl rfl
            · exact Or.inr (Or.inr ⟨later, otherKind⟩)

namespace Filter

/-- Of each kind the last predicate is collected. -/
theorem mem_collect_iff {predicates : List Predicate} {predicate : Predicate} :
    predicate ∈ (collect predicates).predicates ↔
      predicates.findRev? (·.kind == predicate.kind) = some predicate := by
  induction predicates using List.reverseRecOn with
  | nil => simp [collect, empty]
  | append_singleton predicates last ih =>
      have collected : (collect (predicates ++ [last])).predicates =
          last.insertInto (collect predicates).predicates := by
        rw [collect, List.foldl_append]
        rfl
      rw [collected, Predicate.mem_insertInto_iff (collect predicates).ascending, ih,
        List.findRev?_eq_find?_reverse, List.findRev?_eq_find?_reverse, List.reverse_append,
        List.reverse_singleton, List.singleton_append, List.find?_cons]
      by_cases same : last.kind = predicate.kind
      · simp [same, eq_comm]
      · have differs : predicate ≠ last := fun equal => same (congrArg Predicate.kind equal).symm
        simp [beq_eq_false_iff_ne.mpr same, Ne.symm same, differs]

/-- Of each kind that is not to be avoided, the last attribute is required. -/
theorem mem_ofAttributes_iff {attributes : List Attribute} {avoid : List String}
    {kind value : String} :
    ⟨kind, value⟩ ∈ (ofAttributes attributes avoid).predicates ↔
      kind ∉ avoid ∧ attributes.findRev? (·.kind == kind) = some ⟨kind, value⟩ := by
  have chosen : (attributes.reverse.filter fun carried => !avoid.contains carried.kind).find?
        (fun carried => carried.kind == kind) =
      if kind ∈ avoid then none else attributes.reverse.find? (·.kind == kind) := by
    rw [List.find?_filter]
    split
    next avoided =>
      rw [List.find?_eq_none]
      rintro carried -
      simp only [Bool.not_eq_true', beq_iff_eq, decide_eq_true_eq]
      rintro ⟨kept, same⟩
      simp [same, avoided] at kept
    next allowed =>
      congr 1
      funext carried
      by_cases same : carried.kind = kind
      · simp [same, allowed]
      · simp [same]
  rw [ofAttributes, mem_collect_iff, List.findRev?_eq_find?_reverse,
    List.findRev?_eq_find?_reverse, ← List.map_reverse, ← List.filter_reverse, List.find?_map]
  simp only [Function.comp_def, chosen, Option.map_eq_some_iff]
  constructor
  · rintro ⟨carried, found, same⟩
    split at found
    next => cases found
    next allowed =>
      cases same
      exact ⟨allowed, found⟩
  · rintro ⟨allowed, found⟩
    exact ⟨⟨kind, value⟩, by rw [if_neg allowed, found], rfl⟩

/-- What a filter made of attributes requires is among these attributes. -/
theorem mem_of_mem_ofAttributes {attributes : List Attribute} {avoid : List String}
    {predicate : Predicate} (member : predicate ∈ (ofAttributes attributes avoid).predicates) :
    ⟨predicate.kind, predicate.value⟩ ∈ attributes := by
  have last := (mem_ofAttributes_iff.mp member).2
  rw [List.findRev?_eq_find?_reverse] at last
  exact List.mem_reverse.mp (List.mem_of_find?_eq_some last)

end Filter

end MotifVote
