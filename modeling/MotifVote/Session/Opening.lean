import MotifVote.Disk
import MotifVote.Graph.StoreFile
import MotifVote.Session

/-!
# Sessions on files

Opening the store at a locator and keeping what a session has written. The locator of stores in
memory opens a new one each time. Any other is the path of a file: opening makes the file and its
directories where they are missing, and turns an empty file into a store.
-/

namespace MotifVote.Session

variable {m : Type → Type} [Monad m] [Disk m]

open Disk (Action)

/-- Opens the store at a locator. -/
def openAt (locator : String) : Action m Session := do
  if locator == memoryLocator then return inMemory
  Disk.makeParent (m := m) locator
  match ← Disk.read (m := m) locator with
  | .error _ =>
    Disk.attempt (Disk.write locator Tables.empty.toBytes)
    return ofTables locator .empty
  | .ok bytes =>
    match Tables.ofBytes? bytes with
    | none => throw (.files "I/O error: invalid data")
    | some tables =>
      if bytes.isEmpty then Disk.attempt (Disk.write locator tables.toBytes)
      return ofTables locator tables

/-- Opens the store at a locator if it is there. -/
def openExisting (locator : String) : Action m Session := do
  if locator != memoryLocator then
    if let .error _ ← Disk.read (m := m) locator then throw (.documentNotFound locator)
  openAt locator

/-- Keeps what has been written in a session, if its store lasts. -/
def keepWritten (session : Session) : Action m Unit := do
  match session.backend with
  | .memory _ => return
  | .tables graph => Disk.attempt (Disk.write session.locator graph.tables.toBytes)

/-- Stores a whole document and keeps it. -/
def ingestAndKeep (session : Session) (document : GraphDocument) :
    Action m (Mapping × Session) := do
  let (mapping, session) ← Disk.settle (session.ingest document)
  session.keepWritten
  return (mapping, session)

end MotifVote.Session
