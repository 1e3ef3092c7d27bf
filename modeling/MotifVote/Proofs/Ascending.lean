import MotifVote.Graph.Basic
import Mathlib.Data.List.Sort
import Std.Data.TreeMap.Lemmas
import Std.Data.TreeSet.Lemmas

/-!
# Tables and sets as ascending lists

Sets and tables are read out in ascending order. Two sets with the same elements are therefore read
out as the same list, and a list of edges is determined by its elements once its ids are ascending.
-/

namespace MotifVote

/-- What a set is read out as depends on its elements only. -/
theorem toList_eq_of_mem_iff {α : Type} [Ord α] [Std.TransOrd α] [Std.LawfulEqOrd α]
    {left right : Std.TreeSet α} (same : ∀ value, value ∈ left ↔ value ∈ right) :
    left.toList = right.toList :=
  (Std.TreeSet.Equiv.of_forall_mem_iff same).toList_eq

theorem toList_ascending (numbers : Std.TreeSet UInt64) : numbers.toList.Pairwise (· < ·) :=
  numbers.ordered_toList.imp Std.compare_eq_lt.mp

theorem nodup_toList {α : Type} [Ord α] [Std.TransOrd α] (set : Std.TreeSet α) :
    set.toList.Nodup := by
  refine set.distinct_toList.imp ?_
  rintro value _ distinct rfl
  exact distinct Std.ReflCmp.compare_self

/-- Taking an element out of a set takes it out of its list. -/
theorem toList_perm_cons_erase {α : Type} [Ord α] [Std.TransOrd α] [Std.LawfulEqOrd α]
    {set : Std.TreeSet α} {value : α} (member : value ∈ set) :
    set.toList.Perm (value :: (set.erase value).toList) := by
  refine (List.perm_ext_iff_of_nodup (nodup_toList set) ?_).mpr ?_
  · exact List.nodup_cons.mpr ⟨by simp, nodup_toList _⟩
  · intro other
    rw [List.mem_cons, Std.TreeSet.mem_toList, Std.TreeSet.mem_toList, Std.TreeSet.mem_erase,
      ne_eq, Std.LawfulEqCmp.compare_eq_iff_eq]
    constructor
    · intro inside
      exact (eq_or_ne other value).imp_right fun different => ⟨different.symm, inside⟩
    · rintro (rfl | ⟨-, inside⟩)
      · exact member
      · exact inside

/-- Adding an element to a set adds it to its list. -/
theorem toList_insert_perm {α : Type} [Ord α] [Std.TransOrd α] [Std.LawfulEqOrd α]
    {set : Std.TreeSet α} {value : α} (fresh : value ∉ set) :
    (set.insert value).toList.Perm (value :: set.toList) := by
  have rest : ((set.insert value).erase value).toList = set.toList := by
    apply toList_eq_of_mem_iff
    intro other
    simp only [Std.TreeSet.mem_erase, Std.TreeSet.mem_insert, ne_eq,
      Std.LawfulEqCmp.compare_eq_iff_eq]
    constructor
    · rintro ⟨different, same | inside⟩
      · exact absurd same different
      · exact inside
    · intro inside
      refine ⟨?_, Or.inr inside⟩
      rintro rfl
      exact fresh inside
  rw [← rest]
  exact toList_perm_cons_erase Std.TreeSet.mem_insert_self

/-- Edges listed by ascending ids are listed in one way only. -/
theorem edges_eq_of_mem_iff {left right : List Edge} (leftAscending : left.Pairwise (·.id < ·.id))
    (rightAscending : right.Pairwise (·.id < ·.id)) (same : ∀ edge, edge ∈ left ↔ edge ∈ right) :
    left = right := by
  have irreflexive : Std.Irrefl fun left right : Edge => left.id < right.id :=
    ⟨fun edge => UInt64.lt_irrefl edge.id⟩
  have asymmetric : Std.Asymm fun left right : Edge => left.id < right.id :=
    ⟨fun _ _ => UInt64.lt_asymm⟩
  exact leftAscending.eq_of_mem_iff rightAscending same

theorem getElem?_insert_eq {β : Type} (table : Std.TreeMap UInt64 β) (key other : UInt64)
    (value : β) :
    (table.insert key value)[other]? = if key = other then some value else table[other]? := by
  rw [Std.TreeMap.getElem?_insert]
  simp only [Std.LawfulEqCmp.compare_eq_iff_eq]

theorem values_eq_map_toList {κ β : Type} {order : κ → κ → Ordering}
    (table : Std.TreeMap κ β order) : table.values = table.toList.map (·.2) := by
  have folded : table.values = table.foldr (fun _ value values => value :: values) [] := rfl
  rw [folded, Std.TreeMap.foldr_eq_foldr_toList]
  induction table.toList with
  | nil => rfl
  | cons row rows ih => simp [ih]

theorem getElem?_ofList_edges {listed : List Edge}
    (unique : ∀ edge ∈ listed, ∀ other ∈ listed, edge.id = other.id → edge = other) {id : EdgeId}
    {edge : Edge} :
    (Std.TreeMap.ofList (listed.map fun edge => (edge.id, edge)))[id]? = some edge ↔
      edge ∈ listed ∧ edge.id = id := by
  rw [Std.TreeMap.ofList_eq_insertMany_empty, Std.TreeMap.getElem?_insertMany_list,
    Std.TreeMap.getElem?_emptyc, Option.or_none, List.findSomeRev?_eq_findSome?_reverse,
    ← List.map_reverse, List.findSome?_map]
  simp only [Function.comp_def, Std.LawfulEqCmp.compare_eq_iff_eq]
  constructor
  · intro filed
    rcases List.exists_of_findSome?_eq_some filed with ⟨other, member, chosen⟩
    split at chosen
    next same =>
      cases chosen
      exact ⟨List.mem_reverse.mp member, same⟩
    next => cases chosen
  · rintro ⟨member, rfl⟩
    rcases filed : listed.reverse.findSome? fun other =>
        if other.id = edge.id then some other else none with _ | other
    · have missed := List.findSome?_eq_none_iff.mp filed edge (List.mem_reverse.mpr member)
      simp at missed
    · rcases List.exists_of_findSome?_eq_some filed with ⟨last, lastMember, chosen⟩
      split at chosen
      next same =>
        rw [filed, ← Option.some.inj chosen,
          unique last (List.mem_reverse.mp lastMember) edge member same]
      next => cases chosen

/-- A table that edges go into by their own ids lists them in ascending order. -/
theorem values_ofList_edges {listed : List Edge}
    (unique : ∀ edge ∈ listed, ∀ other ∈ listed, edge.id = other.id → edge = other) :
    (Std.TreeMap.ofList (listed.map fun edge => (edge.id, edge))).values.Pairwise (·.id < ·.id) ∧
      ∀ edge, edge ∈ (Std.TreeMap.ofList (listed.map fun edge => (edge.id, edge))).values ↔
        edge ∈ listed := by
  have filed : ∀ {row : EdgeId × Edge},
      row ∈ (Std.TreeMap.ofList (listed.map fun edge => (edge.id, edge))).toList ↔
        row.2 ∈ listed ∧ row.2.id = row.1 := by
    intro row
    rw [Std.TreeMap.mem_toList_iff_getElem?_eq_some, getElem?_ofList_edges unique]
  rw [values_eq_map_toList]
  constructor
  · rw [List.pairwise_map]
    refine Std.TreeMap.ordered_keys_toList.imp_of_mem ?_
    intro left right leftRow rightRow before
    rw [(filed.mp leftRow).2, (filed.mp rightRow).2]
    exact Std.compare_eq_lt.mp before
  · intro edge
    rw [List.mem_map]
    constructor
    · rintro ⟨row, member, rfl⟩
      exact (filed.mp member).1
    · intro member
      exact ⟨(edge.id, edge), filed.mpr ⟨member, rfl⟩, rfl⟩

end MotifVote
