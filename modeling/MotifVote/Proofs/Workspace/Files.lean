import MotifVote.Graph.StoreFile
import MotifVote.Workspace
import Std.Data.TreeMap.Lemmas

/-!
# What lies where in a workspace

A path is followed through directories only, so that what is written to it is found by it. Making
directories leaves every file as it is.

A document store is a file that can be read as tables. An empty file counts as one without rows, the
same that opening it would turn it into.
-/

namespace MotifVote

/-- Where a place can be written to, if it can. -/
def Place.target? : Place → Option Location
  | .file location _ => some location
  | .vacant location => some location
  | .directory _ => none
  | .nowhere => none

namespace Workspace

variable {workspace before between after : Workspace} {location : Location} {path : String}

/-- The document store at a location, if there is one. -/
def storeAt? (workspace : Workspace) (location : Location) : Option Tables :=
  match workspace.entries[location]? with
  | some (.file content) => Tables.ofBytes? content
  | some .directory => none
  | none => none

section Put

theorem entries_put (workspace : Workspace) (location other : Location) (content : ByteArray) :
    (workspace.put location content).entries[other]? =
      if location = other then some (.file content) else workspace.entries[other]? := by
  rw [put, Std.TreeMap.getElem?_insert]
  simp only [Std.LawfulEqCmp.compare_eq_iff_eq]

theorem storeAt?_put (workspace : Workspace) (location other : Location) (content : ByteArray) :
    (workspace.put location content).storeAt? other =
      if location = other then Tables.ofBytes? content else workspace.storeAt? other := by
  by_cases same : location = other
  · simp only [storeAt?, entries_put, if_pos same]
  · simp only [storeAt?, entries_put, if_neg same]

/-- A way can be written to if nothing lies at its end or a file does. -/
theorem entries_of_target {base : Location} {names : List String}
    (target : (workspace.follow base names).target? = some location) :
    (workspace.follow base names = .vacant location ∧ workspace.entries[location]? = none) ∨
      ∃ content, workspace.follow base names = .file location content ∧
        workspace.entries[location]? = some (.file content) := by
  fun_induction workspace.follow base names with
  | case1 => cases target
  | case2 _ _ _ _ ih => exact ih target
  | case3 => cases target
  | case4 _ _ _ _ _ _ ih => exact ih target
  | case5 _ _ _ _ _ _ _ ih => exact ih target
  | case6 base name _ _ _ _ content here _ =>
      obtain rfl : base ++ [name] = location := Option.some.inj target
      exact Or.inr ⟨content, rfl, here⟩
  | case7 => cases target
  | case8 base name _ _ _ _ absent _ =>
      obtain rfl : base ++ [name] = location := Option.some.inj target
      exact Or.inl ⟨rfl, absent⟩
  | case9 => cases target

/-- What is written to the end of a way is found at its end. -/
theorem follow_put {base : Location} {names : List String} (content : ByteArray)
    (target : (workspace.follow base names).target? = some location) :
    (workspace.put location content).follow base names = .file location content := by
  fun_induction workspace.follow base names with
  | case1 => cases target
  | case2 base name rest skipped ih => rw [follow, if_pos skipped, ih target]
  | case3 => cases target
  | case4 base name rest notSkipped up below ih =>
      rw [follow, if_neg notSkipped, if_pos up, if_neg below, ih target]
  | case5 base name rest notSkipped notUp next directory ih =>
      have elsewhere : location ≠ base ++ [name] := by
        rintro rfl
        rcases entries_of_target target with ⟨-, absent⟩ | ⟨_, -, file⟩
        · simp [next, absent] at directory
        · simp [next, file] at directory
      have here : workspace.entries[base ++ [name]]? = some .directory := directory
      simp only [follow, if_neg notSkipped, if_neg notUp, entries_put, if_neg elsewhere, here]
      exact ih target
  | case6 base name rest notSkipped notUp next _ _ last =>
      obtain rfl : base ++ [name] = location := Option.some.inj target
      simp only [follow, if_neg notSkipped, if_neg notUp, entries_put, if_true, last]
  | case7 => cases target
  | case8 base name rest notSkipped notUp next _ last =>
      obtain rfl : base ++ [name] = location := Option.some.inj target
      simp only [follow, if_neg notSkipped, if_neg notUp, entries_put, if_true, last]
  | case9 => cases target

theorem entries_of_find_eq_file {content : ByteArray}
    (found : workspace.find path = .file location content) :
    workspace.entries[location]? = some (.file content) := by
  rw [find] at found
  split at found
  next names =>
    rcases entries_of_target (by rw [found]; rfl) with ⟨vacant, -⟩ | ⟨_, file, listed⟩
    · cases found.symm.trans vacant
    · cases found.symm.trans file
      exact listed
  next => cases found

theorem entries_of_find_eq_vacant (found : workspace.find path = .vacant location) :
    workspace.entries[location]? = none := by
  rw [find] at found
  split at found
  next names =>
    rcases entries_of_target (by rw [found]; rfl) with ⟨-, absent⟩ | ⟨_, file, -⟩
    · exact absent
    · cases found.symm.trans file
  next => cases found

theorem find_put (content : ByteArray) (target : (workspace.find path).target? = some location) :
    (workspace.put location content).find path = .file location content := by
  rw [find] at target ⊢
  split at target
  next names => exact follow_put content target
  next => cases target

/-- A file is written where its path leads, if anything can be written there. -/
theorem write_of_target (content : ByteArray)
    (target : (workspace.find path).target? = some location) :
    workspace.write path content = (.ok (), workspace.put location content) := by
  rcases found : workspace.find path with directory | ⟨_, old⟩ | vacant | _
  · simp [found, Place.target?] at target
  · simp only [found, Place.target?, Option.some.injEq] at target
    simp only [write, found, target]
  · simp only [found, Place.target?, Option.some.injEq] at target
    simp only [write, found, target]
  · simp [found, Place.target?] at target

theorem write_of_target_eq_none (content : ByteArray)
    (target : (workspace.find path).target? = none) :
    ∃ reason, workspace.write path content = (.error reason, workspace) := by
  rcases found : workspace.find path with directory | ⟨_, old⟩ | vacant | _
  · exact ⟨_, by rw [write, found]⟩
  · simp [found, Place.target?] at target
  · simp [found, Place.target?] at target
  · exact ⟨_, by rw [write, found]⟩

end Put

section Directories

/-- Nothing but directories has been made. -/
def OnlyGainsDirectories (before after : Workspace) : Prop :=
  ∀ location : Location, after.entries[location]? = before.entries[location]? ∨
    before.entries[location]? = none ∧ after.entries[location]? = some Entry.directory

theorem onlyGainsDirectories_refl (workspace : Workspace) :
    OnlyGainsDirectories workspace workspace :=
  fun _ => Or.inl rfl

theorem OnlyGainsDirectories.trans (first : OnlyGainsDirectories before between)
    (second : OnlyGainsDirectories between after) : OnlyGainsDirectories before after := by
  intro location
  rcases second location with same | ⟨absent, made⟩
  · rcases first location with sameBefore | ⟨absent, made⟩
    · exact Or.inl (same.trans sameBefore)
    · exact Or.inr ⟨absent, same.trans made⟩
  · rcases first location with sameBefore | ⟨_, earlier⟩
    · exact Or.inr ⟨sameBefore.symm.trans absent, made⟩
    · simp [absent] at earlier

/-- The stores are the same as before. -/
theorem OnlyGainsDirectories.storeAt? (gains : OnlyGainsDirectories before after)
    (location : Location) : after.storeAt? location = before.storeAt? location := by
  rcases gains location with same | ⟨absent, made⟩
  · rw [Workspace.storeAt?, Workspace.storeAt?, same]
  · simp only [Workspace.storeAt?, absent, made]

theorem OnlyGainsDirectories.entries_eq_none (gains : OnlyGainsDirectories before after)
    (absent : after.entries[location]? = none) : before.entries[location]? = none := by
  rcases gains location with same | ⟨absentBefore, -⟩
  · rwa [← same]
  · exact absentBefore

theorem onlyGainsDirectories_makeAlong (workspace : Workspace) (passed names : List String) :
    OnlyGainsDirectories workspace (workspace.makeAlong passed names).2 := by
  induction names generalizing workspace passed with
  | nil => exact onlyGainsDirectories_refl workspace
  | cons name rest ih =>
      rw [makeAlong]
      split
      next => exact ih workspace _
      next location vacant =>
        refine .trans ?_ (ih _ _)
        intro other
        have absent : workspace.entries[location]? = none := by
          rcases entries_of_target (by rw [vacant]; rfl) with ⟨-, absent⟩ | ⟨_, found, -⟩
          · exact absent
          · rw [vacant] at found
            cases found
        simp only [Std.TreeMap.getElem?_insert, Std.LawfulEqCmp.compare_eq_iff_eq]
        split
        next same => exact Or.inr ⟨same ▸ absent, rfl⟩
        next => exact Or.inl rfl
      next => exact onlyGainsDirectories_refl workspace

/-- Making directories makes nothing else, also if it fails. -/
theorem onlyGainsDirectories_makeDirectories (workspace : Workspace) (path : String) :
    OnlyGainsDirectories workspace (workspace.makeDirectories path).2 := by
  rw [makeDirectories]
  split
  · exact onlyGainsDirectories_makeAlong workspace [] _
  · exact onlyGainsDirectories_refl workspace

end Directories

end Workspace

end MotifVote
