import TableStore.FileSystem.Directories
import TableStore.FileSystem.Files
import TableStore.RecordStore.Rows
import TableStore.Text.Lines

/-!
# Record stores

A record store is one file of rows.  If the store has columns, the first line of the file is their
header, and every further line is a row; otherwise every line is a row of pairs.  Empty lines are
no rows.

* An insertion writes one line at the end of the file and looks at nothing else.  If the writing
  fails, what has been written of the line stays.
* An update or removal reads the whole file and works out the new rows.  It writes them to a
  temporary file in the same directory, which then takes the place of the store's file.  If one of
  these steps fails, the temporary file is removed and the store's file is what it was.  If no
  row is concerned, nothing is written.

A store whose file is missing has no rows.  A store with columns whose file holds no line at all
is corrupt.
-/

namespace TableStore

open FileSystem (Outcome)

/-- One file of rows. -/
structure RecordStore where
  path : Path
  /-- The columns of the rows; without columns, rows consist of pairs. -/
  columns : Option (List String)
  deriving DecidableEq, Repr

/-- Why an action on a store failed. -/
inductive StoreError
  | io (cause : IoError)
  | corrupt (path reason : String)
  deriving DecidableEq, Repr

/-- The text of a store's error. -/
def StoreError.message : StoreError → String
  | io cause => "IO error: " ++ cause.message
  | corrupt path reason => "Corrupt store " ++ path ++ ": " ++ reason

/-- What a store's file says. -/
structure Contents where
  header : Option String
  rows : List String
  deriving DecidableEq, Repr

/-- The text of a file with the given contents. -/
def Contents.text (contents : Contents) : String :=
  Text.unlines (contents.header.toList ++ contents.rows)

namespace RecordStore

/-! ## Reading -/

/-- The contents of a file with the given text, or `none` if the header is missing. -/
def parse? (store : RecordStore) (text : String) : Option Contents :=
  let isRow := fun line : String => line ≠ ""
  match store.columns, Text.lines text with
  | none, lines => some ⟨none, lines.filter isRow⟩
  | some _, header :: lines => some ⟨some header, lines.filter isRow⟩
  | some _, [] => none

/-- The error that says that the header is missing. -/
def headerMissing (store : RecordStore) : StoreError :=
  .corrupt store.path.text "missing header row"

/-- The contents of the store's file. -/
def contents (store : RecordStore) (fs : FileSystem) : Except StoreError Contents :=
  match fs.readText store.path with
  | .error .notFound => .ok ⟨none, []⟩
  | .error cause => .error (.io cause)
  | .ok text =>
    match store.parse? text with
    | none => .error store.headerMissing
    | some contents => .ok contents

/-- The rows of the store in the order of their insertion. -/
def select (store : RecordStore) (fs : FileSystem) : Except StoreError (List String) :=
  (store.contents fs).map Contents.rows

/-- The text of the store's file, header included. -/
def readRaw (store : RecordStore) (fs : FileSystem) : Except StoreError String :=
  match fs.readText store.path with
  | .error .notFound => .ok ""
  | .error cause => .error (.io cause)
  | .ok text => .ok text

/-! ## Writing -/

/-- The text of a new store's file: the header, if there are columns. -/
def initialText (columns : Option (List String)) : String :=
  Contents.text ⟨columns.map Row.renderHeader, []⟩

/-- Creates a store whose file holds no rows, and the directories that the file lies in. -/
def create (path : Path) (columns : Option (List String)) (fs : FileSystem) :
    Outcome StoreError RecordStore :=
  match fs.createDirectories path.parent with
  | (.error cause, fs) => (.error (.io cause), fs)
  | (.ok (), fs) =>
    match fs.writeBytes path (initialText columns).toUTF8 with
    | (.error cause, fs) => (.error (.io cause), fs)
    | (.ok (), fs) => (.ok ⟨path, columns⟩, fs)

/-- The path of the temporary file for the store's next contents. -/
def scratchPath (store : RecordStore) (scratch : Uuid) : Path :=
  store.path.sibling ("temp-" ++ scratch.text ++ "-" ++ store.path.lastPart?.getD "")

/-- Puts new contents in the place of the store's file and then answers `value`. -/
def replace {α : Type} (store : RecordStore) (contents : Contents) (value : α)
    (fs : FileSystem) : Outcome StoreError α :=
  let scratch := store.scratchPath fs.scratch
  match fs.writeBytes scratch contents.text.toUTF8 with
  | (.error cause, fs) => (.error (.io cause), fs.removeFile scratch)
  | (.ok (), fs) =>
    match fs.rename scratch store.path with
    | (.error cause, fs) => (.error (.io cause), fs.removeFile scratch)
    | (.ok (), fs) => (.ok value, fs)

/-- Adds one row at the end of the store. -/
def insert (store : RecordStore) (columns values : List String) (fs : FileSystem) :
    Outcome StoreError Unit :=
  match fs.appendText store.path (Row.compose store.columns columns values ++ "\n") with
  | (.error cause, fs) => (.error (.io cause), fs)
  | (.ok (), fs) => (.ok (), fs)

/-- Assigns values in the rows that satisfy a condition and answers their positions. -/
def update (store : RecordStore) (columns values : List String) (condition : Predicate)
    (fs : FileSystem) : Outcome StoreError (List Nat) :=
  match store.contents fs with
  | .error e => (.error e, fs)
  | .ok contents =>
    let positions := Row.matching store.columns condition contents.rows
    if positions = [] then (.ok [], fs)
    else
      let rows := Row.assignAt store.columns (columns.zip values) positions contents.rows
      store.replace { contents with rows } positions fs

/-- Assigns values in the rows at the given positions and answers how many of the positions there
are in the store. -/
def updateAt (store : RecordStore) (positions : List Nat) (columns values : List String)
    (fs : FileSystem) : Outcome StoreError Nat :=
  match store.contents fs with
  | .error e => (.error e, fs)
  | .ok contents =>
    let targets := positions.filter (· < contents.rows.length)
    if targets = [] then (.ok 0, fs)
    else
      let rows := Row.assignAt store.columns (columns.zip values) targets contents.rows
      store.replace { contents with rows } targets.length fs

/-- Removes the rows that satisfy a condition and answers the positions that they had. -/
def delete (store : RecordStore) (condition : Predicate) (fs : FileSystem) :
    Outcome StoreError (List Nat) :=
  match store.contents fs with
  | .error e => (.error e, fs)
  | .ok contents =>
    let positions := Row.matching store.columns condition contents.rows
    if positions = [] then (.ok [], fs)
    else
      store.replace { contents with rows := Row.removeAt positions contents.rows } positions fs

/-- Removes the rows at the given positions and answers how many were removed. -/
def deleteAt (store : RecordStore) (positions : List Nat) (fs : FileSystem) :
    Outcome StoreError Nat :=
  match store.contents fs with
  | .error e => (.error e, fs)
  | .ok contents =>
    let rows := Row.removeAt positions contents.rows
    let removed := contents.rows.length - rows.length
    if removed = 0 then (.ok 0, fs)
    else store.replace { contents with rows } removed fs

end RecordStore

end TableStore
