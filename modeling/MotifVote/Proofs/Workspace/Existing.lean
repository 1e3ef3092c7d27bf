import MotifVote.Disk.Records
import MotifVote.Proofs.Workspace.Opening

/-!
# Opening stores that are there

A path that leads to a file leads through directories, so there are none to be made before the file
is read. All that opening a store that is there can do is turn an empty file into an empty store.
Since an empty file is read as one, it does not matter which stores have been opened before, and
every store of a dataset opens as if it was the only one.
-/

namespace MotifVote

section Names

theorem not_mem_of_mem_splitOn {α : Type} [DecidableEq α] {separator : α} {list part : List α}
    (member : part ∈ list.splitOn separator) : separator ∉ part := by
  induction list generalizing part with
  | nil =>
      rw [List.splitOn_nil, List.mem_singleton] at member
      simp [member]
  | cons head rest ih =>
      rw [List.splitOn_cons_eq_if_modifyHead] at member
      rcases split : rest.splitOn separator with _ | ⟨first, others⟩
      · exact absurd split (List.splitOn_ne_nil separator rest)
      rw [split] at ih member
      split at member
      next =>
        rcases List.mem_cons.mp member with rfl | later
        · exact List.not_mem_nil
        · exact ih later
      next different =>
        rcases List.mem_cons.mp member with rfl | later
        · rw [List.mem_cons, not_or]
          exact ⟨fun same => different (by simp [same]), ih List.mem_cons_self⟩
        · exact ih (List.mem_cons_of_mem first later)

theorem not_mem_of_mem_pathNames {path name : String} (member : name ∈ pathNames path) :
    '/' ∉ name.toList := by
  rcases List.mem_map.mp member with ⟨part, inside, rfl⟩
  rw [String.toList_ofList]
  exact not_mem_of_mem_splitOn inside

/-- A path is made of its names. -/
theorem intercalate_pathNames (path : String) : "/".intercalate (pathNames path) = path := by
  apply String.toList_inj.mp
  rw [String.toList_intercalate, pathNames, List.map_map]
  have same : String.toList ∘ String.ofList = id := funext fun _ => String.toList_ofList
  rw [same, List.map_id]
  exact List.intercalate_splitOn '/'

theorem pathNames_intercalate {names : List String} (nonempty : names ≠ [])
    (clean : ∀ name ∈ names, '/' ∉ name.toList) : pathNames ("/".intercalate names) = names := by
  have split : (['/'].intercalate (names.map String.toList)).splitOn '/' =
      names.map String.toList := by
    apply List.splitOn_intercalate
    · intro part member
      rcases List.mem_map.mp member with ⟨name, inside, rfl⟩
      exact clean name inside
    · simpa using nonempty
  rw [pathNames, String.toList_intercalate]
  change ((['/'].intercalate (names.map String.toList)).splitOn '/').map String.ofList = names
  rw [split, List.map_map]
  have same : String.ofList ∘ String.toList = id := funext fun _ => String.ofList_toList
  rw [same, List.map_id]

/-- The directory of a path whose last name counts has the names before it. -/
theorem parentPath?_eq {path last : String} {names : List String}
    (split : pathNames path = names ++ [last]) (counts : (last == "" || last == ".") = false) :
    parentPath? path =
      if ("/".intercalate names).isEmpty then none else some ("/".intercalate names) := by
  simp only [parentPath?, split, List.reverse_append, List.reverse_singleton,
    List.singleton_append, List.dropWhile_cons, counts, Bool.false_eq_true, if_false,
    List.drop_succ_cons, List.drop_zero, List.reverse_reverse]

end Names

namespace Workspace

variable {workspace before between after : Workspace} {location base : Location}
variable {path last : String} {names rest : List String} {content : ByteArray}

section Parents

/-- The last name on the way to a file is the name of the file. -/
theorem exists_last_of_file (found : workspace.follow base names = .file location content) :
    ∃ directories last, names = directories ++ [last] ∧ (last == "" || last == ".") = false := by
  fun_induction workspace.follow base names with
  | case1 => cases found
  | case2 _ name _ _ ih | case4 _ name _ _ _ _ ih | case5 _ name _ _ _ _ _ ih =>
      rcases ih found with ⟨directories, last, rfl, counts⟩
      exact ⟨name :: directories, last, rfl, counts⟩
  | case3 => cases found
  | case6 _ name rest notSkipped _ _ _ _ none =>
      obtain rfl := List.isEmpty_iff.mp none
      exact ⟨[], name, rfl, Bool.eq_false_iff.mpr notSkipped⟩
  | case7 => cases found
  | case8 => cases found
  | case9 => cases found

/-- Before its last names, the way to a file leads to a directory. -/
theorem exists_directory_of_file (nonempty : rest ≠ [])
    (found : workspace.follow base (names ++ rest) = .file location content) :
    ∃ directory, workspace.follow base names = .directory directory := by
  induction names generalizing base with
  | nil => exact ⟨base, rfl⟩
  | cons name names ih =>
      have more : (names ++ rest).isEmpty = false := by simp [nonempty]
      rw [List.cons_append] at found
      simp only [follow, more, Bool.false_eq_true, if_false] at found ⊢
      split at found
      next skipped =>
        rw [if_pos skipped]
        exact ih found
      next notSkipped =>
        rw [if_neg notSkipped]
        split at found
        next up =>
          rw [if_pos up]
          split at found
          next => cases found
          next below =>
            rw [if_neg below]
            exact ih found
        next notUp =>
          rw [if_neg notUp]
          split at found
          next => exact ih found
          next => cases found
          next => cases found

/-- All directories on the way to a file are there. -/
theorem makeAlong_of_file {passed : List String} (nonempty : rest ≠ [])
    (found : workspace.follow [] (passed ++ names ++ rest) = .file location content) :
    workspace.makeAlong passed names = (.ok (), workspace) := by
  induction names generalizing passed with
  | nil => rfl
  | cons name names ih =>
      have further : workspace.follow [] (passed ++ [name] ++ names ++ rest) =
          .file location content := by
        simpa using found
      rcases exists_directory_of_file (by simp [nonempty])
        ((List.append_assoc (passed ++ [name]) names rest) ▸ further) with ⟨directory, leads⟩
      simp only [makeAlong, leads]
      exact ih further

theorem names?_eq_of_some (named : names? path = some names) :
    names = pathNames path ∧ path.toList.head? ≠ some '/' ∧ ∀ name ∈ names, isName name := by
  simp only [names?, Option.ite_none_left_eq_some, Option.ite_none_right_eq_some,
    Option.some.injEq, Bool.or_eq_true, beq_iff_eq, not_or, List.all_eq_true] at named
  rcases named with ⟨⟨-, relative⟩, all, rfl⟩
  exact ⟨rfl, relative, all⟩

/-- Where a path has names, so has the path of the directory. -/
theorem names?_intercalate (named : names? path = some (names ++ [last]))
    (nonempty : ("/".intercalate names).isEmpty = false) :
    names? ("/".intercalate names) = some names := by
  rcases names?_eq_of_some named with ⟨split, relative, areNames⟩
  have some : names ≠ [] := by
    rintro rfl
    simp at nonempty
  have listed : pathNames ("/".intercalate names) = names := by
    apply pathNames_intercalate some
    intro name member
    have inPath : name ∈ pathNames path := split ▸ List.mem_append_left [last] member
    exact not_mem_of_mem_pathNames inPath
  have joined : path = "/".intercalate names ++ "/" ++ last := by
    rw [← intercalate_pathNames path, ← split,
      String.intercalate_append_of_ne_nil some (List.cons_ne_nil _ _),
      String.intercalate_singleton]
  have head : ("/".intercalate names).toList.head? ≠ Option.some '/' := by
    intro absolute
    apply relative
    rw [joined, String.toList_append, String.toList_append, List.append_assoc, List.head?_append,
      absolute, Option.some_or]
  simp only [names?, nonempty, listed, Bool.false_or, beq_iff_eq, if_neg head]
  apply if_pos
  rw [List.all_eq_true]
  intro name member
  exact areNames name (List.mem_append_left _ member)

theorem perform_makeParent_of_file (found : workspace.find path = .file location content) :
    workspace.perform (Disk.makeParent path) = (.ok (), workspace) := by
  rw [find] at found
  split at found
  next names named =>
    rcases exists_last_of_file found with ⟨directories, last, rfl, counts⟩
    have split := (names?_eq_of_some named).1.symm
    rw [Disk.makeParent, parentPath?_eq split counts]
    cases blank : ("/".intercalate directories).isEmpty with
    | true => rfl
    | false =>
        have made : (Disk.makeDirectories ("/".intercalate directories) :
            StateM Workspace (Except String Unit)) workspace = (.ok (), workspace) := by
          change workspace.makeDirectories _ = _
          simp only [makeDirectories, names?_intercalate named blank]
          exact makeAlong_of_file (List.cons_ne_nil last []) found
        simp only [Bool.false_eq_true, if_false]
        rw [perform_attempt, made]
        rfl
  next => cases found

end Parents

section Filling

/-- Nothing but files have changed, and these were empty and have become empty stores. -/
def OnlyFillsFiles (before after : Workspace) : Prop :=
  ∀ location : Location, after.entries[location]? = before.entries[location]? ∨
    ∃ content, before.entries[location]? = some (.file content) ∧ content.isEmpty = true ∧
      after.entries[location]? = some (.file Tables.empty.toBytes)

theorem onlyFillsFiles_refl (workspace : Workspace) : OnlyFillsFiles workspace workspace :=
  fun _ => Or.inl rfl

theorem OnlyFillsFiles.trans (first : OnlyFillsFiles before between)
    (second : OnlyFillsFiles between after) : OnlyFillsFiles before after := by
  intro location
  rcases second location with same | ⟨content, file, blank, filled⟩
  · rw [same]
    exact first location
  · rcases first location with sameBefore | ⟨_, -, -, filledBefore⟩
    · exact Or.inr ⟨content, sameBefore ▸ file, blank, filled⟩
    · cases file.symm.trans filledBefore
      simp [Tables.isEmpty_toBytes] at blank

theorem onlyFillsFiles_put (file : workspace.entries[location]? = some (.file content))
    (blank : content.isEmpty = true) :
    OnlyFillsFiles workspace (workspace.put location Tables.empty.toBytes) := by
  intro other
  rw [entries_put]
  split
  next same =>
    subst same
    exact Or.inr ⟨content, file, blank, rfl⟩
  next => exact Or.inl rfl

/-- A way leads to the same place, or to a file that can be read as the same store. -/
theorem OnlyFillsFiles.follow (fills : OnlyFillsFiles before after) (base : Location)
    (names : List String) :
    after.follow base names = before.follow base names ∨
      ∃ location content filled, before.follow base names = .file location content ∧
        after.follow base names = .file location filled ∧
        Tables.ofBytes? filled = Tables.ofBytes? content := by
  induction names generalizing base with
  | nil => exact Or.inl rfl
  | cons name names ih =>
      simp only [Workspace.follow]
      split
      next => exact ih base
      next =>
        split
        next =>
          split
          next => exact Or.inl rfl
          next => exact ih _
        next =>
          rcases fills (base ++ [name]) with same | ⟨content, file, blank, filled⟩
          · rw [same]
            split
            next => exact ih _
            next => exact Or.inl rfl
            next => exact Or.inl rfl
          · rw [file, filled]
            by_cases last : names.isEmpty = true
            · refine Or.inr ⟨_, content, Tables.empty.toBytes, if_pos last, if_pos last, ?_⟩
              rw [ofBytes?_toBytes_empty, Tables.ofBytes?, if_pos blank]
            · exact Or.inl (by simp only [if_neg last])

end Filling

section Sessions

/-- The session of the store at a locator, if it is there and can be read. -/
def sessionAt (workspace : Workspace) (locator : String) : Except Error Session :=
  if locator == Session.memoryLocator then .ok .inMemory
  else
    match workspace.read locator with
    | .error _ => .error (.documentNotFound locator)
    | .ok content =>
      match Tables.ofBytes? content with
      | none => .error (.files "I/O error: invalid data")
      | some tables => .ok (.ofTables locator tables)

theorem OnlyFillsFiles.sessionAt (fills : OnlyFillsFiles before after) (locator : String) :
    after.sessionAt locator = before.sessionAt locator := by
  have place : after.find locator = before.find locator ∨
      ∃ location content filled, before.find locator = .file location content ∧
        after.find locator = .file location filled ∧
        Tables.ofBytes? filled = Tables.ofBytes? content := by
    simp only [find]
    split
    next names _ => exact fills.follow [] names
    next => exact Or.inl rfl
  rcases place with same | ⟨location, content, filled, leads, leadsAfter, decoded⟩
  · simp only [Workspace.sessionAt, read, same]
  · simp only [Workspace.sessionAt, read, leads, leadsAfter, decoded]

theorem perform_openAt_of_file {locator : String}
    (lasts : (locator == Session.memoryLocator) = false)
    (found : workspace.find locator = .file location content) :
    workspace.perform (Session.openAt locator) =
      match Tables.ofBytes? content with
      | none => (.error (.files "I/O error: invalid data"), workspace)
      | some tables => (.ok (.ofTables locator tables),
          if content.isEmpty then workspace.put location Tables.empty.toBytes else workspace) := by
  have reads : workspace.read locator = .ok content := by rw [read, found]
  simp only [Session.openAt, lasts, Bool.false_eq_true, if_false, perform_bind,
    perform_makeParent_of_file found, perform_lift, read_apply, reads]
  rcases decoded : Tables.ofBytes? content with _ | tables
  · rfl
  by_cases blank : content.isEmpty = true
  · have empty : tables = .empty := by
      rw [Tables.ofBytes?, if_pos blank] at decoded
      exact (Option.some.inj decoded).symm
    simp only [if_pos blank, empty]
    exact perform_write_of_target _ _ (by rw [found]; rfl)
  · simp only [if_neg blank]
    rfl

/-- A store that is there opens as what its file holds. -/
theorem perform_openExisting (workspace : Workspace) (locator : String) :
    (workspace.perform (Session.openExisting locator)).1 = workspace.sessionAt locator ∧
      OnlyFillsFiles workspace (workspace.perform (Session.openExisting locator)).2 := by
  by_cases memory : locator = Session.memoryLocator
  · subst memory
    exact ⟨rfl, onlyFillsFiles_refl workspace⟩
  have lasts : (locator == Session.memoryLocator) = false := beq_eq_false_iff_ne.mpr memory
  simp only [Session.openExisting, bne, lasts, Bool.not_false, if_true, Workspace.sessionAt,
    Bool.false_eq_true, if_false, perform_bind _ (liftM _), perform_lift, read_apply]
  rcases found : workspace.find locator with directory | ⟨location, content⟩ | location | _
  · simp only [Workspace.read, found]
    exact ⟨rfl, onlyFillsFiles_refl workspace⟩
  · simp only [Workspace.read, found, perform_openAt_of_file lasts found]
    rcases Tables.ofBytes? content with _ | tables
    · exact ⟨rfl, onlyFillsFiles_refl workspace⟩
    · refine ⟨rfl, ?_⟩
      by_cases blank : content.isEmpty = true
      · simp only [if_pos blank]
        exact onlyFillsFiles_put (entries_of_find_eq_file found) blank
      · simp only [if_neg blank]
        exact onlyFillsFiles_refl workspace
  · simp only [Workspace.read, found]
    exact ⟨rfl, onlyFillsFiles_refl workspace⟩
  · simp only [Workspace.read, found]
    exact ⟨rfl, onlyFillsFiles_refl workspace⟩

/-- Every store of a dataset opens as if it was the only one. -/
theorem openAll_apply (dataset : Dataset) (workspace : Workspace) :
    ((dataset.openAll : StateM Workspace (List OpenedDocument)) workspace).1 =
        dataset.documents.map (fun document =>
          ⟨document, workspace.sessionAt document.filename⟩) ∧
      OnlyFillsFiles workspace
        ((dataset.openAll : StateM Workspace (List OpenedDocument)) workspace).2 := by
  rcases dataset with ⟨documents⟩
  induction documents generalizing workspace with
  | nil => exact ⟨rfl, onlyFillsFiles_refl workspace⟩
  | cons document documents ih =>
      rcases perform_openExisting workspace document.filename with ⟨opened, fills⟩
      have shape : (Dataset.openAll ⟨document :: documents⟩ :
          StateM Workspace (List OpenedDocument)) workspace =
            let first := workspace.perform (Session.openExisting document.filename)
            let others := (Dataset.openAll ⟨documents⟩ :
              StateM Workspace (List OpenedDocument)) first.2
            (⟨document, first.1⟩ :: others.1, others.2) := by
        rw [Dataset.openAll, List.mapM_cons]
        rfl
      rcases ih (workspace.perform (Session.openExisting document.filename)).2 with
        ⟨others, fillsMore⟩
      rw [shape]
      refine ⟨?_, fills.trans fillsMore⟩
      simp only [others, opened, fills.sessionAt, List.map_cons]

end Sessions

end Workspace

end MotifVote
