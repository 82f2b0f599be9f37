import TableStore.FileSystem.Error
import TableStore.FileSystem.Path
import TableStore.KeyMap
import TableStore.Uuid

/-!
# The file system

A file system is a finite map from places to files and directories.  A place is a path of names
only, from the working directory, or from the root if an empty part stands in front of them.  The
working directory and the root always exist and have no entries of their own.  An action either
succeeds or names the cause of its failure; both are values, and so is the file system afterwards.

The state also says what is outside the program's control: `faults` lists the actions that fail
although the entries would allow them, and how far the writing of a file gets before it fails, and
`scratch` is the number in the name of the next temporary file.
-/

namespace TableStore

/-- What a place can hold. -/
inductive Entry
  | file (content : ByteArray)
  | directory

/-- The actions that can be made to fail. -/
inductive FileAction
  /-- Reading a file. -/
  | read
  /-- Opening a file to write at its end. -/
  | append
  /-- Opening a new or emptied file. -/
  | create
  /-- Writing the content of a file just opened. -/
  | fill
  /-- Giving a file the name of another. -/
  | rename
  deriving DecidableEq, Repr

/-- An action on a place that fails with a given cause. -/
structure Fault where
  action : FileAction
  place : Path
  cause : IoError
  /-- How many bytes are written before the writing of a file fails.  There can be fewer of them in
  the content; then all of it is written, and it is only not known to be there for good. -/
  written : Nat
  deriving DecidableEq, Repr

/-- The files, and what their surroundings decide. -/
structure FileSystem where
  /-- What each place holds. -/
  entries : KeyMap Path Entry
  /-- The actions that fail whatever the entries are. -/
  faults : List Fault
  /-- The number that the next temporary file is named by. -/
  scratch : Uuid

namespace FileSystem

/-- The file system without entries, in which nothing is made to fail. -/
def empty : FileSystem := ⟨∅, [], ⟨0⟩⟩

instance : Inhabited FileSystem := ⟨empty⟩

/-- The outcome of an action, and the file system after it. -/
abbrev Outcome (ε α : Type) := Except ε α × FileSystem

/-- The greatest number of bytes in the name of a file or directory. -/
def maxNameBytes : Nat := 255

/-- The number of bytes in a path that is just too long. -/
def pathBytesLimit : Nat := 4096

/-- The fault that an action on a place meets with. -/
def fault? (fs : FileSystem) (action : FileAction) (place : Path) : Option Fault :=
  fs.faults.find? fun fault => fault.action = action ∧ fault.place = place

/-- The file system in which a place holds `entry`. -/
def set (fs : FileSystem) (place : Path) (entry : Entry) : FileSystem :=
  { fs with entries := fs.entries.insert place entry }

/-- The file system in which a place holds nothing. -/
def unset (fs : FileSystem) (place : Path) : FileSystem :=
  { fs with entries := fs.entries.erase place }

/-- The names in a directory, with what their places hold. -/
def list (fs : FileSystem) (dir : Path) : List (String × Entry) :=
  fs.entries.entries.filterMap fun entry =>
    match entry.1.getLast? with
    | some name => if entry.1.dropLast = dir then some (name, entry.2) else none
    | none => none

end FileSystem

end TableStore
