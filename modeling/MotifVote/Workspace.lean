import MotifVote.Disk
import Std.Data.TreeMap

/-!
# Workspaces

A tree of directories and files, as a value. Paths start at its root; a single dot stands for the
directory it is in and two dots for the one above, and nothing above the root can be reached.
-/

namespace MotifVote

/-- Where something lies in a workspace: the names on the way from the root. -/
abbrev Location := List String

/-- What lies at a location. -/
inductive Entry where
  | file (content : ByteArray)
  | directory

/-- A tree of directories and files. The root is there without an entry. -/
structure Workspace where
  entries : Std.TreeMap Location Entry

/-- What a path leads to. -/
inductive Place where
  | directory (location : Location)
  | file (location : Location) (content : ByteArray)
  /-- Nothing, in a directory that could hold it. -/
  | vacant (location : Location)
  | nowhere

namespace Workspace

/-- The workspace with an empty root. -/
def empty : Workspace := ⟨∅⟩

/-- Names have at most this many bytes. -/
def nameLimit : Nat := 255

/-- Whether something can have a name. -/
def isName (name : String) : Bool :=
  name.utf8ByteSize ≤ nameLimit && !name.toList.contains '\x00'

/-- The names of a path, if it is one from the root of the workspace. -/
def names? (path : String) : Option (List String) :=
  if path.isEmpty || path.toList.head? == some '/' then none
  else
    let names := pathNames path
    if names.all isName then some names else none

/-- Follows names from a directory on. -/
def follow (workspace : Workspace) (location : Location) : List String → Place
  | [] => .directory location
  | name :: rest =>
    if name == "" || name == "." then workspace.follow location rest
    else if name == ".." then
      if location.isEmpty then .nowhere else workspace.follow location.dropLast rest
    else
      let next := location ++ [name]
      match workspace.entries[next]? with
      | some .directory => workspace.follow next rest
      | some (.file content) => if rest.isEmpty then .file next content else .nowhere
      | none => if rest.isEmpty then .vacant next else .nowhere

/-- What a path leads to. -/
def find (workspace : Workspace) (path : String) : Place :=
  match names? path with
  | some names => workspace.follow [] names
  | none => .nowhere

/-- What the file at a path holds. -/
def read (workspace : Workspace) (path : String) : Except String ByteArray :=
  match workspace.find path with
  | .file _ content => .ok content
  | .directory _ => .error "is a directory"
  | _ => .error "no such file or directory"

/-- Whether a path leads to a file or a directory. -/
def contains (workspace : Workspace) (path : String) : Bool :=
  match workspace.find path with
  | .file _ _ => true
  | .directory _ => true
  | _ => false

/-- Puts a file to a location. -/
def put (workspace : Workspace) (location : Location) (content : ByteArray) : Workspace :=
  ⟨workspace.entries.insert location (.file content)⟩

/-- The workspace with a file written. -/
def write (workspace : Workspace) (path : String) (content : ByteArray) :
    Except String Unit × Workspace :=
  match workspace.find path with
  | .file location _ => (.ok (), workspace.put location content)
  | .vacant location => (.ok (), workspace.put location content)
  | .directory _ => (.error "is a directory", workspace)
  | .nowhere => (.error "no such file or directory", workspace)

/-- Makes the directories on the way along some names, the first of them behind the ones `passed`.
What has been made stays if the way ends at a file. -/
def makeAlong (workspace : Workspace) (passed : List String) :
    List String → Except String Unit × Workspace
  | [] => (.ok (), workspace)
  | name :: rest =>
    let way := passed ++ [name]
    match workspace.follow [] way with
    | .directory _ => makeAlong workspace way rest
    | .vacant location =>
      makeAlong ⟨workspace.entries.insert location .directory⟩ way rest
    | _ => (.error "not a directory", workspace)

/-- The workspace with all directories of a path. -/
def makeDirectories (workspace : Workspace) (path : String) : Except String Unit × Workspace :=
  match names? path with
  | some names => workspace.makeAlong [] names
  | none => (.error "no such file or directory", workspace)

instance : Disk (StateM Workspace) where
  read path := fun workspace => (workspace.read path, workspace)
  write path content := fun workspace => workspace.write path content
  makeDirectories path := fun workspace => workspace.makeDirectories path

end Workspace

end MotifVote
