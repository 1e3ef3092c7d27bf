import MotifVote.Error
import MotifVote.Text.Symbols

/-!
# Files

What the library needs of a place that keeps files under paths: reading a file, writing one as a
whole, and making directories. The names of a path stand between slashes.
-/

namespace MotifVote

/-- A place that keeps files; a failure comes with its reason. -/
class Disk (m : Type → Type) where
  /-- What the file at a path holds. -/
  read : String → m (Except String ByteArray)
  /-- Makes a file hold some bytes and nothing else; the file need not be there, but its directory
  must. -/
  write : String → ByteArray → m (Except String Unit)
  /-- Makes all directories of a path that are not there. -/
  makeDirectories : String → m (Except String Unit)

/-- The names of a path. -/
def pathNames (path : String) : List String := (path.toList.splitOn '/').map String.ofList

/-- The path of the directory that a path names something in; there is none for a single name. -/
def parentPath? (path : String) : Option String :=
  let names := (pathNames path).reverse.dropWhile fun name => name == "" || name == "."
  let parent := "/".intercalate (names.drop 1).reverse
  if parent.isEmpty then none else some parent

namespace Disk

variable {m : Type → Type} [Monad m] [Disk m]

/-- What happens at a place that keeps files and may fail. -/
abbrev Action (m : Type → Type) : Type → Type := ExceptT Error m

/-- An operation of the place as an action. -/
def attempt {α : Type} (operation : m (Except String α)) : Action m α := do
  match ← operation with
  | .ok value => return value
  | .error reason => throw (.files reason)

/-- The value of a result, or its failure. -/
def settle {α : Type} (result : Except Error α) : Action m α := ExceptT.mk (pure result)

/-- The bytes of a file. -/
def load (path : String) : Action m ByteArray := attempt (read path)

/-- The symbols of a file. -/
def loadSource (path : String) : Action m (List Text.Symbol) := do
  return Text.symbolsOfBytes (← load path)

/-- The text of a file, all of which must be text. -/
def loadText (path : String) : Action m String := do
  match String.fromUTF8? (← load path) with
  | some text => return text
  | none => throw (.files "stream did not contain valid UTF-8")

/-- The text of a file of at most so many bytes. -/
def loadTextWithin (limit : Nat) (path : String) : Action m String := do
  let content ← load (m := m) path
  if content.size > limit then
    throw (.files s!"File size {content.size} bytes exceeds maximum allowed {limit} bytes")
  loadText path

/-- Makes the directory that a path names something in. -/
def makeParent (path : String) : Action m Unit := do
  match parentPath? path with
  | some parent => attempt (makeDirectories parent)
  | none => return

/-- Writes a file with all the directories it lies in. -/
def save (path : String) (content : ByteArray) : Action m Unit := do
  makeParent (m := m) path
  attempt (write path content)

/-- Writes a text with all the directories it lies in. -/
def saveText (path text : String) : Action m Unit := save path text.toUTF8

end Disk

end MotifVote
