import MotifVote.Command.Run
import MotifVote.Proofs.Store.Ingestion
import MotifVote.Proofs.Workspace.Opening
import Mathlib.Data.List.Basic

/-!
# Ingestions that fail

Storing the graph document of a file fails if the configuration or the file cannot be read, if the
store does not open, or if the document is refused. Whatever the reason, the stores of the workspace
keep their content.

A document is only checked once the store is open, and opening makes a store where there is none. So
a document that can be read but is refused may leave an empty store behind, which later commands
take for a document without vertices.
-/

namespace MotifVote

open Disk (Action)

namespace Workspace

variable {workspace after : Workspace} {path locator : String} {error : Error}
variable {document : GraphDocument}

/-- The graph document that a file holds, if it can be read as one. -/
def documentAt? (workspace : Workspace) (path : String) : Option GraphDocument := do
  let content ← (workspace.read path).toOption
  let text ← String.fromUTF8? content
  (GraphDocument.ofText text).toOption

theorem reads_loadConfig (path : Option String) : Reads (Config.load path) := by
  have checked : ∀ config : Config Float, Reads (α := Config Float)
      (do Disk.settle (config.check.mapError .setting); return config) :=
    fun _ => (reads_settle _).bind fun _ => reads_pure _
  rcases path with _ | path
  · exact (reads_pure _).bind checked
  · exact (reads_loadTextWithin _ path).bind fun _ => (reads_settle _).bind checked

/-- A text that has been loaded is that of the file. -/
theorem perform_loadText_eq_ok {text : String}
    (loaded : workspace.perform (Disk.loadText path) = (.ok text, after)) :
    ∃ content, workspace.read path = .ok content ∧ String.fromUTF8? content = some text := by
  rw [Disk.loadText, perform_bind] at loaded
  rcases read : workspace.read path with reason | content
  · simp [perform_load_of_error read] at loaded
  · simp only [perform_load_of_ok read] at loaded
    rcases decoded : String.fromUTF8? content with _ | found
    · simp only [decoded] at loaded
      cases loaded
    · simp only [decoded] at loaded
      cases loaded
      exact ⟨content, rfl, decoded⟩

theorem perform_loadTextWithin_eq_ok {limit : Nat} {text : String}
    (loaded : workspace.perform (Disk.loadTextWithin limit path) = (.ok text, after)) :
    ∃ content, workspace.read path = .ok content ∧ String.fromUTF8? content = some text := by
  rw [Disk.loadTextWithin, perform_bind] at loaded
  rcases read : workspace.read path with reason | content
  · simp [perform_load_of_error read] at loaded
  · simp only [perform_load_of_ok read] at loaded
    split at loaded
    · cases loaded
    · exact read ▸ perform_loadText_eq_ok loaded

end Workspace

namespace Session

open Workspace (perform_bind_eq_error)

variable {workspace after : Workspace} {locator : String} {error : Error} {tables : Tables}
variable {document : GraphDocument}

theorem ingest_inMemory (document : GraphDocument) :
    Session.inMemory.ingest document = (GraphStore.ingest MemoryGraph.empty document).map
      fun (mapping, graph) => (mapping, Session.ofGraph graph) := by
  have shape : Session.inMemory.ingest document = do
      let (mapping, graph) ← GraphStore.ingest MemoryGraph.empty document
      return (mapping, Session.ofGraph graph) := rfl
  rw [shape]
  rcases GraphStore.ingest MemoryGraph.empty document with error | ⟨mapping, graph⟩
  · rfl
  · rfl

theorem ingest_ofTables (locator : String) (tables : Tables) (document : GraphDocument) :
    (Session.ofTables locator tables).ingest document =
      ((TableGraph.ofTables tables).ingest document).map
        fun (mapping, graph) => (mapping, Session.mk locator (.tables graph)) := by
  have shape : (Session.ofTables locator tables).ingest document = do
      let (mapping, graph) ← (TableGraph.ofTables tables).ingest document
      return (mapping, Session.mk locator (.tables graph)) := rfl
  rw [shape]
  rcases (TableGraph.ofTables tables).ingest document with error | ⟨mapping, graph⟩
  · rfl
  · rfl

/-- Stores in memory have nothing to do with the workspace. -/
theorem reads_ingestAndKeep_inMemory (document : GraphDocument) :
    Workspace.Reads (Session.inMemory.ingestAndKeep document) := by
  rw [ingestAndKeep, ingest_inMemory]
  rcases GraphStore.ingest MemoryGraph.empty document with error | ⟨mapping, graph⟩
  · exact fun _ => rfl
  · exact fun _ => rfl

/-- A store on a file keeps every document that is fit to be stored. -/
theorem perform_ingestAndKeep_eq_error {location : Location}
    (target : (workspace.find locator).target? = some location)
    (failed : workspace.perform ((Session.ofTables locator tables).ingestAndKeep document) =
      (.error error, after)) :
    after = workspace ∧ ∃ fault, document.check = .error fault ∧ error = .graph fault := by
  rw [ingestAndKeep, ingest_ofTables] at failed
  rcases ingested : (TableGraph.ofTables tables).ingest document with refusal | ⟨mapping, graph⟩
  · rw [ingested] at failed
    cases failed
    exact ⟨rfl, TableGraph.ingest_eq_error ingested⟩
  · have kept := Workspace.perform_write_of_target graph.tables.toBytes
      (mapping, Session.mk locator (.tables graph)) target
    rw [ingested] at failed
    cases kept.symm.trans failed

end Session

namespace Invocation

open Workspace (KeepsStores perform_bind_eq_error)

variable {workspace after : Workspace} {config : Option String} {json : Bool}
variable {file database : String} {error : Error}

/-- A new store has been made only for a document that was read, and then refused. -/
structure IsHarmless (file database : String) (error : Error) (before after : Workspace) :
    Prop where
  stores : KeepsStores database before after
  refused : ∀ location, before.storeAt? location = none → after.storeAt? location ≠ none →
    ∃ document fault, before.documentAt? file = some document ∧ document.check = .error fault ∧
      error = .graph fault

theorem isHarmless_of_gains (gains : Workspace.OnlyGainsDirectories workspace after) :
    IsHarmless file database error workspace after := by
  refine ⟨gains.keepsStores database, ?_⟩
  intro location absent present
  rw [gains.storeAt?] at present
  exact absurd absent present

theorem isHarmless_of_reads {α : Type} {action : Disk.Action (StateM Workspace) α}
    (reads : Workspace.Reads action)
    (failed : workspace.perform action = (.error error, after)) :
    IsHarmless file database error workspace after := by
  rw [reads.eq failed]
  exact isHarmless_of_gains (Workspace.onlyGainsDirectories_refl workspace)

/-- The ingestion itself, once the configuration has been read. -/
theorem isHarmless_of_runIngest_eq_error
    (failed : workspace.perform (Command.runIngest file database) = (.error error, after)) :
    IsHarmless file database error workspace after := by
  rcases perform_bind_eq_error failed with unread | ⟨text, loaded, loads, parsing⟩
  · exact isHarmless_of_reads (Workspace.reads_loadTextWithin _ _) unread
  rcases Workspace.perform_loadTextWithin_eq_ok loads with ⟨content, read, decoded⟩
  rw [(Workspace.reads_loadTextWithin _ _).eq loads] at parsing
  rcases perform_bind_eq_error parsing with unparsed | ⟨document, parsed, parses, opening⟩
  · exact isHarmless_of_reads (Workspace.reads_settle _) unparsed
  have described : GraphDocument.ofText text = .ok document := congrArg Prod.fst parses
  rw [(Workspace.reads_settle _).eq parses] at opening
  have opens := Workspace.opensAs_openAt workspace database
  rcases perform_bind_eq_error opening with unopened | ⟨session, opened, openedAs, storing⟩
  · rw [unopened] at opens
    cases opens with
    | failed gains => exact isHarmless_of_gains gains
  rw [openedAs] at opens
  rcases perform_bind_eq_error storing with unstored | ⟨_, _, -, reported⟩
  · rcases opens.session_eq with ⟨rfl, rfl⟩ | ⟨tables, location, rfl, target⟩
    · exact isHarmless_of_reads (Session.reads_ingestAndKeep_inMemory document) unstored
    · rcases Session.perform_ingestAndKeep_eq_error target unstored with ⟨rfl, fault, refused, rfl⟩
      refine ⟨opens.keepsStores, ?_⟩
      intro _ _ _
      refine ⟨document, fault, ?_, refused, rfl⟩
      simp [Workspace.documentAt?, read, decoded, described, Except.toOption]
  · cases reported

/-- An ingestion that fails keeps the content of all stores. It makes at most one store, which is
empty and lies where the path of the database led to nothing, and only for a document that was read
and is not fit to be stored. -/
theorem isHarmless_of_ingest_eq_error
    (failed : workspace.perform (Invocation.run ⟨config, json, .ingest file database⟩) =
      (.error error, after)) :
    IsHarmless file database error workspace after := by
  rcases perform_bind_eq_error failed with unconfigured | ⟨settings, configured, loads, running⟩
  · exact isHarmless_of_reads (Workspace.reads_loadConfig config) unconfigured
  rw [(Workspace.reads_loadConfig config).eq loads] at running
  rcases perform_bind_eq_error running with unstored | ⟨_, _, -, reported⟩
  · exact isHarmless_of_runIngest_eq_error unstored
  · cases reported

section Example

/-- A document with an edge to a vertex that it does not have. -/
def danglingDocument : GraphDocument := ⟨[⟨1, []⟩], [⟨1, 9, "x"⟩]⟩

/-- A workspace with this document in a file. -/
def withDanglingDocument (workspace : Workspace) : Workspace :=
  workspace.put ["g.json"] danglingDocument.toJson.text.toUTF8

/-- The document is to be added to a store with a vertex. -/
theorem isHarmless_dangling_document :
    let stored := (TableGraph.ofTables .empty).createVertex [⟨"pos", "NOUN"⟩]
    let workspace := withDanglingDocument (Workspace.empty.put ["doc.redb"] stored.2.tables.toBytes)
    ∃ after, workspace.perform (Invocation.run ⟨none, false, .ingest "g.json" "doc.redb"⟩) =
        (.error (.graph (.undeclaredVertex 9)), after) ∧
      (workspace.storeAt? ["doc.redb"]).map (fun tables => tables.vertices.toList) =
        some [(0, [⟨"pos", "NOUN"⟩])] ∧
      IsHarmless "g.json" "doc.redb" (.graph (.undeclaredVertex 9)) workspace after := by
  intro stored workspace
  have result : (workspace.perform
      (Invocation.run ⟨none, false, .ingest "g.json" "doc.redb"⟩)).1 =
        .error (.graph (.undeclaredVertex 9)) := by
    decide +kernel
  rcases failed : workspace.perform (Invocation.run ⟨none, false, .ingest "g.json" "doc.redb"⟩)
    with ⟨outcome, after⟩
  rw [failed] at result
  subst result
  exact ⟨after, rfl, by decide +kernel, isHarmless_of_ingest_eq_error failed⟩

/-- The document is to be stored where there is no store. This fails, and there is an empty store
afterwards, of which the state can be asked. -/
theorem refused_document_leaves_store :
    let workspace := withDanglingDocument .empty
    let ingest : Invocation := ⟨none, false, .ingest "g.json" "doc.redb"⟩
    let status : Invocation := ⟨none, false, .status "doc.redb"⟩
    let outcome := workspace.perform ingest.run
    outcome.1 = .error (.graph (.undeclaredVertex 9)) ∧
      (workspace.storeAt? ["doc.redb"]).isSome = false ∧
      (outcome.2.storeAt? ["doc.redb"]).isSome = true ∧
      (workspace.perform status.run).1 = .error (.documentNotFound "doc.redb") ∧
      (outcome.2.perform status.run).1 =
        .ok ((Report.status "doc.redb" true 0 0 0).text false) := by
  decide +kernel

end Example

end Invocation

end MotifVote
