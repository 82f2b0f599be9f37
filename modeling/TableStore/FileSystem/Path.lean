/-!
# Paths

A path is the list of its parts, as they are written between slashes.  A part that is empty or a
single dot is idle: it stays where it is.  Two dots lead to the directory above.

Only the written form of a path is looked at here.  What it means depends on the directories that
it leads through, so no part of it may be cancelled by another: two dots behind the name of a file
lead nowhere at all.
-/

namespace TableStore

/-- The parts of a path, outermost directory first. -/
abbrev Path := List String

namespace Path

/-! ## Texts -/

/-- The path that a text with slashes writes. -/
def ofText (text : String) : Path := (text.toList.splitOn '/').map String.ofList

/-- The text of a path. -/
def text (path : Path) : String := "/".intercalate path

/-! ## Parts -/

/-- Whether a part stays in the directory that it stands in. -/
def isIdle (part : String) : Bool := part = "" || part = "."

/-- Whether a part is the name of an entry. -/
def IsName (part : String) : Prop := part ≠ "" ∧ part ≠ "." ∧ part ≠ ".."

instance (part : String) : Decidable (IsName part) := inferInstanceAs (Decidable (_ ∧ _ ∧ _))

/-- Whether a path begins at the root and not at the working directory. -/
def isAbsolute : Path → Bool
  | "" :: _ :: _ => true
  | _ => false

/-- The path without the last parts that satisfy `p`. -/
def dropEndWhile (p : String → Bool) (path : Path) : Path := (path.reverse.dropWhile p).reverse

/-- The path without idle parts at its end. -/
def trimEnd (path : Path) : Path := path.dropEndWhile isIdle

/-- The last part that is not idle. -/
def lastPart? (path : Path) : Option String := path.trimEnd.getLast?

/-! ## Paths made of others -/

/-- The path that `path` means inside the directory `dir`. -/
def join (dir path : Path) : Path :=
  if path.isAbsolute then path
  else if dir.getLast? = some "" then dir.dropLast ++ path
  else dir ++ path

/-- The path of the directory that a path is written in.  It has no parts if that is the working
directory. -/
def parent (path : Path) : Path :=
  let front := trimEnd path.trimEnd.dropLast
  if front = [] ∧ path.isAbsolute then ["", ""] else front

/-- The path with another name in place of its last part. -/
def sibling (path : Path) (name : String) : Path := path.parent.join [name]

/-- The path, its parent, and so on, as long as there are parts that are not idle, but not more
than `fuel` of them. -/
def ancestorsUpTo : Nat → Path → List Path
  | 0, _ => []
  | fuel + 1, path => if path.trimEnd = [] then [] else path :: ancestorsUpTo fuel path.parent

/-- The path, its parent, and so on, as long as there are parts that are not idle.  Each parent
has fewer of them. -/
def ancestors (path : Path) : List Path := ancestorsUpTo path.length path

end Path

end TableStore
