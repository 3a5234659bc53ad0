import Strided.Fault
import Strided.Text.Words

/-!
# File trees

A `FileTree` is a tree of directories and files, seen from a working directory.  `find` follows a
path: name by name, from the root if the path begins with a slash, where `.` is the directory
itself, `..` the one above it and a name left out the same as `.`.  Only a directory can be gone
through.
-/

namespace Strided

/-- A file, or a directory with its entries by name. -/
inductive FileNode (α : Type) where
  | file (content : α)
  | directory (entries : List (String × FileNode α))

/-- A place in a tree: a node, and the directories above it, the nearest first. -/
structure FileTree (α : Type) where
  here : FileNode α
  above : List (FileNode α)

namespace FileTree

variable {α : Type}

/-- The greatest number of bytes of a name. -/
def maxName : Nat := 255

/-- The number of bytes that no path has. -/
def pathLimit : Nat := 4096

def ofDirectory (entries : List (String × FileNode α)) : FileTree α := ⟨.directory entries, []⟩

def root (t : FileTree α) : FileTree α :=
  match t.above.getLast? with
  | some top => ⟨top, []⟩
  | none => t

/-- Goes to the entry of a name; `path` is what reports mention. -/
def enter (path name : String) (t : FileTree α) : Except Fault (FileTree α) :=
  match t.here with
  | .file _ => .error (.notDirectory path)
  | .directory entries =>
    if name = "" ∨ name = "." then .ok t
    else if name = ".." then
      match t.above with
      | [] => .ok t
      | parent :: rest => .ok ⟨parent, rest⟩
    else if maxName < name.utf8ByteSize then .error (.nameTooLong path)
    else
      match entries.lookup name with
      | some node => .ok ⟨node, t.here :: t.above⟩
      | none => .error (.noSuchFile path)

def names (path : String) : List String := (Text.splitAt '/' path.toList).map String.ofList

def follow (t : FileTree α) (path : String) : Except Fault (FileTree α) :=
  if path.toList.contains (Char.ofNat 0) then .error .zeroInName
  else if path = "" then .error (.noSuchFile path)
  else if pathLimit ≤ path.utf8ByteSize then .error (.nameTooLong path)
  else (names path).foldlM (fun t name => t.enter path name) (if path.startsWith "/" then t.root else t)

def find (t : FileTree α) (path : String) : Except Fault α :=
  match t.follow path with
  | .error e => .error e
  | .ok ⟨.file content, _⟩ => .ok content
  | .ok ⟨.directory _, _⟩ => .error (.isDirectory path)

end FileTree

end Strided
