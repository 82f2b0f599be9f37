import TableStore.FileSystem.Location

/-!
# Actions on files

Reading, writing, renaming and removing of files.  Writing creates a file that does not exist, but
not the directory that it lies in.  Writing can fail after the file was opened, and what has been
written until then stays (`fill`).
-/

namespace TableStore.FileSystem

/-! ## Reading -/

/-- The content of a file. -/
def readBytes (fs : FileSystem) (path : Path) : Except IoError ByteArray :=
  match fs.locate path with
  | .error cause => .error cause
  | .ok location =>
    match fs.fault? .read location.place with
    | some fault => .error fault.cause
    | none =>
      match fs.lookUp location with
      | .error cause => .error cause
      | .ok none => .error .notFound
      | .ok (some .directory) => .error .isADirectory
      | .ok (some (.file content)) => .ok content

/-- The content of a file as a text. -/
def readText (fs : FileSystem) (path : Path) : Except IoError String :=
  match fs.readBytes path with
  | .error cause => .error cause
  | .ok content =>
    match String.fromUTF8? content with
    | none => .error .notText
    | some text => .ok text

/-! ## Writing -/

/-- The place of a file opened for writing, and the content that the file holds at first: nothing
if there is no file.  A path that ends in a slash or in dots can only mean a directory. -/
def openForWriting (fs : FileSystem) (action : FileAction) (path : Path) :
    Except IoError (Path × ByteArray) :=
  match fs.locate path with
  | .error cause => .error cause
  | .ok location =>
    match fs.fault? action location.place with
    | some fault => .error fault.cause
    | none =>
      if location.slash ∨ location.name = none then .error .isADirectory
      else
        match fs.lookUp location with
        | .error cause => .error cause
        | .ok none => .ok (location.place, ByteArray.empty)
        | .ok (some .directory) => .error .isADirectory
        | .ok (some (.file content)) => .ok (location.place, content)

/-- Writes `content` behind what a file holds that has been opened.  If the writing fails, a
beginning of the content has been written: nothing, a part of it or all of it. -/
def fill (fs : FileSystem) (place : Path) (held content : ByteArray) : Outcome IoError Unit :=
  match fs.fault? .fill place with
  | some fault =>
    (.error fault.cause, fs.set place (.file (held ++ content.extract 0 fault.written)))
  | none => (.ok (), fs.set place (.file (held ++ content)))

/-- Makes `content` the whole content of a file, which is created if it does not exist. -/
def writeBytes (fs : FileSystem) (path : Path) (content : ByteArray) : Outcome IoError Unit :=
  match fs.openForWriting .create path with
  | .error cause => (.error cause, fs)
  | .ok (place, _) => fs.fill place ByteArray.empty content

/-- Writes a text at the end of a file, which is created if it does not exist. -/
def appendText (fs : FileSystem) (path : Path) (text : String) : Outcome IoError Unit :=
  match fs.openForWriting .append path with
  | .error cause => (.error cause, fs)
  | .ok (place, held) => fs.fill place held text.toUTF8

/-! ## Names -/

/-- Gives the file at `source` the name `target`, in place of the file that has it. -/
def rename (fs : FileSystem) (source target : Path) : Outcome IoError Unit :=
  match fs.locate source, fs.locate target with
  | .error cause, _ => (.error cause, fs)
  | _, .error cause => (.error cause, fs)
  | .ok source, .ok target =>
    match fs.fault? .rename target.place with
    | some fault => (.error fault.cause, fs)
    | none =>
      match fs.lookUp source, fs.lookUp target with
      | .error cause, _ => (.error cause, fs)
      | _, .error cause => (.error cause, fs)
      | .ok none, _ => (.error .notFound, fs)
      | .ok (some .directory), _ => (.error .isADirectory, fs)
      | _, .ok (some .directory) => (.error .isADirectory, fs)
      | .ok (some (.file content)), .ok _ =>
        (.ok (), (fs.unset source.place).set target.place (.file content))

/-- Removes the file at `path`, if there is one. -/
def removeFile (fs : FileSystem) (path : Path) : FileSystem :=
  match fs.locate path with
  | .error _ => fs
  | .ok location =>
    match fs.lookUp location with
    | .ok (some (.file _)) => fs.unset location.place
    | _ => fs

end TableStore.FileSystem
