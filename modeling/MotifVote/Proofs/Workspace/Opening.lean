import MotifVote.Proofs.Store.File
import MotifVote.Proofs.Workspace.Files
import MotifVote.Session.Opening

/-!
# Opening stores in a workspace

What an action does in a workspace is followed from one of its parts to the next. Reading leaves the
workspace as it is. Opening a store makes directories, and an empty store where its path leads to
nothing; whatever store there was keeps its content.
-/

namespace MotifVote

open Disk (Action)

variable {α β : Type}

namespace Workspace

/-- What becomes of an action in a workspace, and of the workspace. -/
def perform (workspace : Workspace) (action : Action (StateM Workspace) α) :
    Except Error α × Workspace :=
  action.run workspace

/-- An action leaves every workspace as it is. -/
def Reads (action : Action (StateM Workspace) α) : Prop :=
  ∀ workspace : Workspace, (workspace.perform action).2 = workspace

section Actions

variable {workspace after : Workspace} {action : Action (StateM Workspace) α}
variable {next : α → Action (StateM Workspace) β} {error : Error} {path : String}

theorem perform_bind (workspace : Workspace) (action : Action (StateM Workspace) α)
    (next : α → Action (StateM Workspace) β) :
    workspace.perform (action >>= next) =
      match workspace.perform action with
      | (.ok value, after) => after.perform (next value)
      | (.error error, after) => (.error error, after) := by
  have shape : workspace.perform (action >>= next) =
      ExceptT.bindCont next (workspace.perform action).1 (workspace.perform action).2 := rfl
  rw [shape]
  rcases workspace.perform action with ⟨error | value, after⟩
  · rfl
  · rfl

/-- An action of two parts fails in the first of them or in the second. -/
theorem perform_bind_eq_error
    (failed : workspace.perform (action >>= next) = (.error error, after)) :
    workspace.perform action = (.error error, after) ∨
      ∃ value between, workspace.perform action = (.ok value, between) ∧
        between.perform (next value) = (.error error, after) := by
  rw [perform_bind] at failed
  rcases first : workspace.perform action with ⟨fault | value, between⟩
  · simp only [first, Prod.mk.injEq, Except.error.injEq] at failed
    exact Or.inl (by rw [failed.1, failed.2])
  · simp only [first] at failed
    exact Or.inr ⟨value, between, rfl, failed⟩

theorem Reads.eq {result : Except Error α} (reads : Reads action)
    (performed : workspace.perform action = (result, after)) : after = workspace := by
  rw [← reads workspace, performed]

theorem reads_pure (value : α) : Reads (pure value) := fun _ => rfl

theorem reads_throw (error : Error) : Reads (α := α) (throw error) := fun _ => rfl

theorem reads_settle (result : Except Error α) : Reads (Disk.settle result) := fun _ => rfl

theorem Reads.bind (first : Reads action) (second : ∀ value, Reads (next value)) :
    Reads (action >>= next) := by
  intro workspace
  have same := first workspace
  rw [perform_bind]
  rcases performed : workspace.perform action with ⟨fault | value, between⟩
  · rw [performed] at same
    exact same
  · rw [performed] at same
    rw [← same]
    exact second value between

theorem perform_lift (workspace : Workspace) (operation : StateM Workspace α) :
    workspace.perform (liftM operation) = (.ok (operation workspace).1, (operation workspace).2) :=
  rfl

theorem perform_attempt (workspace : Workspace)
    (operation : StateM Workspace (Except String α)) :
    workspace.perform (Disk.attempt operation) =
      ((operation workspace).1.mapError .files, (operation workspace).2) := by
  rw [Disk.attempt, perform_bind, perform_lift]
  rcases operation workspace with ⟨reason | value, after⟩
  · rfl
  · rfl

theorem read_apply (workspace : Workspace) (path : String) :
    (Disk.read path : StateM Workspace (Except String ByteArray)) workspace =
      (workspace.read path, workspace) :=
  rfl

theorem perform_load_of_ok {content : ByteArray} (read : workspace.read path = .ok content) :
    workspace.perform (Disk.load path) = (.ok content, workspace) := by
  rw [Disk.load, perform_attempt, read_apply, read]
  rfl

theorem perform_load_of_error {reason : String} (unread : workspace.read path = .error reason) :
    workspace.perform (Disk.load path) = (.error (.files reason), workspace) := by
  rw [Disk.load, perform_attempt, read_apply, unread]
  rfl

theorem reads_load (path : String) : Reads (Disk.load path) := by
  intro workspace
  rcases read : workspace.read path with reason | content
  · rw [perform_load_of_error read]
  · rw [perform_load_of_ok read]

theorem reads_loadText (path : String) : Reads (Disk.loadText path) := by
  refine (reads_load path).bind fun content => ?_
  split
  · exact reads_pure _
  · exact reads_throw _

theorem reads_loadTextWithin (limit : Nat) (path : String) :
    Reads (Disk.loadTextWithin limit path) := by
  refine (reads_load path).bind fun content => ?_
  split
  · exact (reads_throw _).bind fun _ => reads_loadText path
  · exact reads_loadText path

end Actions

section Opening

variable {before between after : Workspace} {locator path : String} {location : Location}

/-- The file of an empty store is read as one. -/
theorem ofBytes?_toBytes_empty : Tables.ofBytes? Tables.empty.toBytes = some .empty :=
  Tables.empty.ofBytes?_toBytes_eq

theorem onlyGainsDirectories_makeParent (workspace : Workspace) (path : String) :
    OnlyGainsDirectories workspace (workspace.perform (Disk.makeParent path)).2 := by
  rw [Disk.makeParent]
  split
  · rw [perform_attempt]
    exact onlyGainsDirectories_makeDirectories workspace _
  · exact onlyGainsDirectories_refl workspace

theorem perform_write_of_target (content : ByteArray) (value : α)
    (target : (before.find path).target? = some location) :
    before.perform (do Disk.attempt (Disk.write path content); pure value) =
      (.ok value, before.put location content) := by
  have written : (Disk.write path content : StateM Workspace (Except String Unit)) before =
      (.ok (), before.put location content) := write_of_target content target
  rw [perform_bind, perform_attempt, written]
  rfl

theorem perform_write_of_none (content : ByteArray) (value : α)
    (target : (before.find path).target? = none) :
    ∃ error, before.perform (do Disk.attempt (Disk.write path content); pure value) =
      (.error error, before) := by
  rcases write_of_target_eq_none content target with ⟨reason, failed⟩
  have written : (Disk.write path content : StateM Workspace (Except String Unit)) before =
      (.error reason, before) := failed
  rw [perform_bind, perform_attempt, written]
  exact ⟨_, rfl⟩

/-- What opening a store can do. Stores in memory are no part of a workspace. A file that is a store
stays as it is, one that is empty is filled with an empty store, and one is made where there is
nothing. If opening fails, at most directories have been made. -/
inductive OpensAs (locator : String) (before : Workspace) : Except Error Session → Workspace → Prop
  | memory : OpensAs locator before (.ok .inMemory) before
  | failed {after : Workspace} {error : Error} (gains : OnlyGainsDirectories before after) :
      OpensAs locator before (.error error) after
  | present {after : Workspace} {location : Location} {content : ByteArray} {tables : Tables}
      (gains : OnlyGainsDirectories before after)
      (found : after.find locator = .file location content)
      (decoded : Tables.ofBytes? content = some tables) :
      OpensAs locator before (.ok (.ofTables locator tables)) after
  | filled {between : Workspace} {location : Location} {content : ByteArray}
      (gains : OnlyGainsDirectories before between)
      (found : between.find locator = .file location content) (blank : content.isEmpty = true) :
      OpensAs locator before (.ok (.ofTables locator .empty))
        (between.put location Tables.empty.toBytes)
  | made {between : Workspace} {location : Location} (gains : OnlyGainsDirectories before between)
      (vacant : between.find locator = .vacant location) :
      OpensAs locator before (.ok (.ofTables locator .empty))
        (between.put location Tables.empty.toBytes)

theorem opensAs_openAt (workspace : Workspace) (locator : String) :
    OpensAs locator workspace (workspace.perform (Session.openAt locator)).1
      (workspace.perform (Session.openAt locator)).2 := by
  rw [Session.openAt]
  split
  · exact .memory
  have gains := onlyGainsDirectories_makeParent workspace locator
  rw [perform_bind]
  rcases made : workspace.perform (Disk.makeParent locator) with ⟨error | ⟨⟩, between⟩
  · rw [made] at gains
    exact .failed gains
  rw [made] at gains
  simp only [perform_bind _ (liftM _), perform_lift, read_apply]
  rcases found : between.find locator with directory | ⟨location, content⟩ | location | _
  · rcases perform_write_of_none Tables.empty.toBytes (Session.ofTables locator .empty)
      (by rw [found]; rfl) with ⟨error, written⟩
    simp only [Workspace.read, found, written]
    exact .failed gains
  · simp only [Workspace.read, found]
    rcases decoded : Tables.ofBytes? content with _ | tables
    · exact .failed gains
    by_cases blank : content.isEmpty = true
    · have empty : tables = .empty := by
        rw [Tables.ofBytes?, if_pos blank] at decoded
        exact (Option.some.inj decoded).symm
      simp only [if_pos blank, empty, perform_write_of_target _ _ (by rw [found]; rfl)]
      exact .filled gains found blank
    · simp only [if_neg blank]
      exact .present gains found decoded
  · simp only [Workspace.read, found, perform_write_of_target _ _ (by rw [found]; rfl)]
    exact .made gains found
  · rcases perform_write_of_none Tables.empty.toBytes (Session.ofTables locator .empty)
      (by rw [found]; rfl) with ⟨error, written⟩
    simp only [Workspace.read, found, written]
    exact .failed gains

/-- No store has been lost or changed. At most an empty one has been made, where a path led to
nothing. -/
structure KeepsStores (path : String) (before after : Workspace) : Prop where
  kept : ∀ location tables, before.storeAt? location = some tables →
    after.storeAt? location = some tables
  made : ∀ location tables, after.storeAt? location = some tables →
    before.storeAt? location = some tables ∨
      tables = .empty ∧ before.entries[location]? = none ∧
        after.find path = .file location Tables.empty.toBytes

theorem OnlyGainsDirectories.keepsStores (gains : OnlyGainsDirectories before after)
    (path : String) : KeepsStores path before after := by
  refine ⟨?_, ?_⟩
  · intro location tables stored
    rwa [gains.storeAt?]
  · intro location tables stored
    exact Or.inl (gains.storeAt? location ▸ stored)

theorem OpensAs.keepsStores {session : Session}
    (opens : OpensAs locator before (.ok session) after) :
    KeepsStores locator before after := by
  cases opens with
  | memory => exact (onlyGainsDirectories_refl before).keepsStores locator
  | present gains => exact gains.keepsStores locator
  | @filled between place content gains found blank =>
      have read : between.storeAt? place = some .empty := by
        simp only [storeAt?, entries_of_find_eq_file found, Tables.ofBytes?, if_pos blank]
      have same : ∀ location, (between.put place Tables.empty.toBytes).storeAt? location =
          before.storeAt? location := by
        intro location
        rw [storeAt?_put, ← gains.storeAt? location]
        split
        next here => rw [ofBytes?_toBytes_empty, ← here, read]
        next => rfl
      exact ⟨fun location _ stored => (same location).trans stored,
        fun location _ stored => Or.inl ((same location).symm.trans stored)⟩
  | @made between place gains vacant =>
      have absent := entries_of_find_eq_vacant vacant
      have absentBefore := gains.entries_eq_none absent
      refine ⟨?_, ?_⟩
      · intro location tables stored
        have elsewhere : place ≠ location := by
          rintro rfl
          simp [storeAt?, absentBefore] at stored
        rw [storeAt?_put, if_neg elsewhere, gains.storeAt?, stored]
      · intro location tables stored
        rw [storeAt?_put] at stored
        split at stored
        next here =>
          rw [ofBytes?_toBytes_empty, Option.some_inj] at stored
          subst here
          exact Or.inr ⟨stored.symm, absentBefore, find_put _ (by rw [vacant]; rfl)⟩
        next => exact Or.inl (gains.storeAt? location ▸ stored)

/-- A store that has been opened is one in memory, or its file can be written. -/
theorem OpensAs.session_eq {session : Session}
    (opens : OpensAs locator before (.ok session) after) :
    session = .inMemory ∧ after = before ∨
      ∃ tables location, session = .ofTables locator tables ∧
        (after.find locator).target? = some location := by
  cases opens with
  | memory => exact Or.inl ⟨rfl, rfl⟩
  | @present _ location _ tables gains found decoded =>
      exact Or.inr ⟨tables, location, rfl, by rw [found]; rfl⟩
  | @filled _ location _ gains found blank =>
      exact Or.inr ⟨.empty, location, rfl, by rw [find_put _ (by rw [found]; rfl)]; rfl⟩
  | @made _ location gains vacant =>
      exact Or.inr ⟨.empty, location, rfl, by rw [find_put _ (by rw [vacant]; rfl)]; rfl⟩

end Opening

end Workspace

end MotifVote
