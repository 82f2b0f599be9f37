import TableStore.FileSystem.Location

/-!
# Actions on directories

A directory is made in a directory that exists.  `createDirectories` makes those that are missing
first, from the innermost one that exists on; `removeAll` removes a directory with all its
entries.
-/

namespace TableStore.FileSystem

/-- Whether a path means a directory. -/
def isDirectory (fs : FileSystem) (path : Path) : Bool :=
  match fs.find path with
  | .ok (some .directory) => true
  | _ => false

/-- Creates a directory.  Fails if the path means anything already. -/
def createDirectory (fs : FileSystem) (path : Path) : Outcome IoError Unit :=
  match fs.locate path with
  | .error cause => (.error cause, fs)
  | .ok location =>
    match location.name with
    | none => (.error .alreadyExists, fs)
    | some name =>
      if maxNameBytes < name.utf8ByteSize then (.error .nameTooLong, fs)
      else if fs.entries.contains location.place then (.error .alreadyExists, fs)
      else (.ok (), fs.set location.place .directory)

/-- Creates a directory unless it exists. -/
def ensureDirectory (fs : FileSystem) (path : Path) : Outcome IoError Unit :=
  match fs.createDirectory path with
  | (.error cause, fs) => if fs.isDirectory path then (.ok (), fs) else (.error cause, fs)
  | (.ok (), fs) => (.ok (), fs)

/-- Creates the first of several directories, each of which lies in the next one, and before it
those of the others that are missing. -/
def ensureDirectories (fs : FileSystem) : List Path → Outcome IoError Unit
  | [] => (.ok (), fs)
  | path :: outer =>
    match fs.ensureDirectory path with
    | (.error .notFound, fs) =>
      match fs.ensureDirectories outer with
      | (.error cause, fs) => (.error cause, fs)
      | (.ok (), fs) => fs.ensureDirectory path
    | outcome => outcome

/-- Creates the directory `path`, and those that it lies in, unless they exist. -/
def createDirectories (fs : FileSystem) (path : Path) : Outcome IoError Unit :=
  fs.ensureDirectories path.ancestors

/-- The file system without anything in the directory at a place. -/
def clear (fs : FileSystem) (place : Path) : FileSystem :=
  { fs with entries := fs.entries.filter fun other => !(place.isPrefixOf other && other ≠ place) }

/-- Removes what `path` means, together with all that lies in it.  A directory is cleared first,
and then removed under the same path.  If the path led through what was cleared, it leads nowhere
then, and the directory stays.  One that is meant by a dot cannot be removed. -/
def removeAll (fs : FileSystem) (path : Path) : Outcome IoError Unit :=
  match fs.locate path with
  | .error cause => (.error cause, fs)
  | .ok location =>
    match fs.lookUp location with
    | .error cause => (.error cause, fs)
    | .ok none => (.error .notFound, fs)
    | .ok (some (.file _)) => (.ok (), fs.unset location.place)
    | .ok (some .directory) =>
      let fs := fs.clear location.place
      match fs.locate path with
      | .error .notFound => (.ok (), fs)
      | .error cause => (.error cause, fs)
      | .ok ⟨_, none, _⟩ => (.error .invalidArgument, fs)
      | .ok location => (.ok (), fs.unset location.place)

end TableStore.FileSystem
