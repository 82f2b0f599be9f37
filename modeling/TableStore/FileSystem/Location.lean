import TableStore.FileSystem.Basic

/-!
# Where paths lead

A path is walked from directory to directory, and every part but the last must lead to a directory
that exists.  The last part is only looked up by the action that the path is used for, because
some actions make a new entry under that name.  A path that ends in a dot or two means the
directory that it has been walked to.

* `walk` goes along parts from a directory; `walk_append` says that a walk can be cut anywhere.
* `locate` finds the place that a path leads to, and `lookUp` what is there.
* `walk_set` serves proofs about actions: a new entry does not change a walk through directories.
-/

namespace TableStore

/-- Where a path leads when it has been walked up to its last name. -/
structure Location where
  /-- The place of the directory that was reached. -/
  directory : Path
  /-- The name in that directory that is meant.  Without one the directory itself is meant. -/
  name : Option String
  /-- Whether a slash follows, so that only a directory can be meant. -/
  slash : Bool
  deriving DecidableEq, Repr

/-- The place that is meant. -/
def Location.place (location : Location) : Path := location.directory ++ location.name.toList

namespace FileSystem

/-! ## Walking -/

/-- The directory above a directory.  There is none above the root, and none that matters above
the working directory. -/
def above (dir : Path) : Path := if dir = [""] then dir else dir.dropLast

/-- The directory that one part of a path leads to from a directory. -/
def enter (fs : FileSystem) (dir : Path) (part : String) : Except IoError Path :=
  if Path.isIdle part then .ok dir
  else if part = ".." then .ok (above dir)
  else if maxNameBytes < part.utf8ByteSize then .error .nameTooLong
  else
    match fs.entries.get? (dir ++ [part]) with
    | none => .error .notFound
    | some (.file _) => .error .notADirectory
    | some .directory => .ok (dir ++ [part])

/-- The directory that parts of a path lead to from a directory. -/
def walk (fs : FileSystem) (dir : Path) : Path → Except IoError Path
  | [] => .ok dir
  | part :: rest =>
    match fs.enter dir part with
    | .error cause => .error cause
    | .ok dir => fs.walk dir rest

/-- The directory that a path begins at. -/
def start (path : Path) : Path := if path.isAbsolute then [""] else []

/-! ## Places -/

/-- Where a path leads, or why it cannot be walked. -/
def locate (fs : FileSystem) (path : Path) : Except IoError Location :=
  if path.any fun part => part.toList.contains '\x00' then .error .zeroInName
  else if pathBytesLimit ≤ path.text.utf8ByteSize then .error .nameTooLong
  else if path = [] ∨ path = [""] then .error .notFound
  else
    let slash := path.getLast? = some ""
    let front := path.dropEndWhile (· = "")
    match front.getLast? with
    | none => .ok ⟨start path, none, slash⟩
    | some name =>
      if name = "." ∨ name = ".." then
        (fs.walk (start path) front).map fun dir => ⟨dir, none, slash⟩
      else (fs.walk (start path) front.dropLast).map fun dir => ⟨dir, some name, slash⟩

/-- What is at a location, or why that cannot be found out. -/
def lookUp (fs : FileSystem) (location : Location) : Except IoError (Option Entry) :=
  match location.name with
  | none => .ok (some .directory)
  | some name =>
    if maxNameBytes < name.utf8ByteSize then .error .nameTooLong
    else
      match fs.entries.get? location.place with
      | some (.file content) =>
        if location.slash then .error .notADirectory else .ok (some (.file content))
      | entry => .ok entry

/-- What a path means, or why that cannot be found out. -/
def find (fs : FileSystem) (path : Path) : Except IoError (Option Entry) :=
  match fs.locate path with
  | .error cause => .error cause
  | .ok location => fs.lookUp location

/-! ## Laws -/

/-- Whether a place holds a directory. -/
def HasDirectory (fs : FileSystem) (place : Path) : Prop :=
  fs.entries.get? place = some .directory

theorem enter_of_name {fs : FileSystem} {dir : Path} {part : String} (name : Path.IsName part)
    (short : part.utf8ByteSize ≤ maxNameBytes) (held : fs.HasDirectory (dir ++ [part])) :
    fs.enter dir part = .ok (dir ++ [part]) := by
  obtain ⟨nonempty, notDot, notDots⟩ := name
  simp only [HasDirectory] at held
  simp [enter, Path.isIdle, nonempty, notDot, notDots, Nat.not_lt.2 short, held]

/-- A walk along two lists of parts is the second walk after the first. -/
theorem walk_append (fs : FileSystem) (dir front rest : Path) :
    fs.walk dir (front ++ rest) =
      match fs.walk dir front with
      | .error cause => .error cause
      | .ok dir => fs.walk dir rest := by
  induction front generalizing dir with
  | nil => rfl
  | cons part front ih =>
    simp only [List.cons_append, walk]
    cases fs.enter dir part with
    | error cause => rfl
    | ok dir => exact ih dir

/-- A step that succeeds still does where no directory has gone. -/
theorem enter_mono {fs fs' : FileSystem}
    (kept : ∀ place, fs.HasDirectory place → fs'.HasDirectory place) {dir dir' : Path}
    {part : String} (h : fs.enter dir part = .ok dir') : fs'.enter dir part = .ok dir' := by
  unfold enter at h ⊢
  split
  · next idle => simpa [idle] using h
  · next notIdle =>
    split
    · next dots =>
      rw [if_neg notIdle, if_pos dots] at h
      exact h
    · next notDots =>
      split
      · next long => simp [notIdle, notDots, long] at h
      · next short =>
        simp only [notIdle, notDots, short, if_false, Bool.false_eq_true] at h
        split at h
        · simp at h
        · simp at h
        · next found =>
          have found := kept _ found
          simp only [HasDirectory] at found
          simpa [found] using h

/-- A walk that succeeds still does where no directory has gone. -/
theorem walk_mono {fs fs' : FileSystem}
    (kept : ∀ place, fs.HasDirectory place → fs'.HasDirectory place) {dir dir' path : Path}
    (h : fs.walk dir path = .ok dir') : fs'.walk dir path = .ok dir' := by
  induction path generalizing dir with
  | nil => exact h
  | cons part rest ih =>
    simp only [walk] at h ⊢
    split at h
    · simp at h
    · next entered =>
      rw [enter_mono kept entered]
      exact ih h

/-- A new entry changes no walk that succeeds, unless it takes the place of a directory. -/
theorem walk_set {fs : FileSystem} {place dir dir' path : Path} {entry : Entry}
    (free : ¬ fs.HasDirectory place) (h : fs.walk dir path = .ok dir') :
    (fs.set place entry).walk dir path = .ok dir' := by
  refine walk_mono (fun other held => ?_) h
  simp only [HasDirectory, set, KeyMap.get?_insert] at held free ⊢
  split
  · next same => exact absurd (same ▸ held) free
  · exact held

end FileSystem

end TableStore
