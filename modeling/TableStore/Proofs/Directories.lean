import Mathlib.Data.List.Induction
import TableStore.Proofs.Files

/-!
# Directories that are there

What it means that a directory need not be made, and that the paths of files in it all lead to it.

* Walks.  Idle parts lead nowhere else, so a path can be walked up to the last part that is not
  idle.  The path of a file in a directory, and the path that is written for the directory of that
  file, lead where the path of the directory does (`walk_join`, `walk_parent`).
* `Made path` says that the directory of a path is there.  A path that consists of idle parts needs
  none.  Making a directory is what makes it so (`made_of_createDirectories`); after that, making it
  changes nothing (`Made.createDirectories`), and it stays there (`Made.mono`).
* `Steady path` says that a second attempt to make the directory comes to the same as the first one.
  It does on every path that never goes up (`Rooted.steady`).
* `SameFiles` says that two file systems have the same files everywhere.  Making directories keeps
  it, even if it fails on its way.
-/

namespace TableStore

/-! ## Parts at the end of a path -/

namespace Path

/-- What is dropped from the end of a path, and what is not. -/
theorem dropEndWhile_append (p : String → Bool) (path : Path) :
    ∃ rest, path = path.dropEndWhile p ++ rest ∧ (∀ part ∈ rest, p part = true) ∧
      ∀ part, (path.dropEndWhile p).getLast? = some part → p part = false := by
  refine ⟨(path.reverse.takeWhile p).reverse, ?_, fun part hpart => ?_, fun part hpart => ?_⟩
  · rw [dropEndWhile, ← List.reverse_append, List.takeWhile_append_dropWhile, List.reverse_reverse]
  · exact List.all_eq_true.1 List.all_takeWhile part (List.mem_reverse.1 hpart)
  · rw [dropEndWhile, List.getLast?_reverse] at hpart
    simpa [hpart] using List.head?_dropWhile_not p path.reverse

@[simp] theorem isAbsolute_nil : isAbsolute [] = false := by simp [isAbsolute]

@[simp] theorem isAbsolute_singleton (x : String) : isAbsolute [x] = false := by simp [isAbsolute]

@[simp] theorem isAbsolute_cons_cons (x y : String) (rest : Path) :
    isAbsolute (x :: y :: rest) = decide (x = "") := by
  by_cases hx : x = "" <;> simp [isAbsolute, hx]

/-- The path of a name in a directory.  A slash at the end of the directory's path is written
once. -/
theorem join_name (dir : Path) (name : String) :
    (dir.join [name] = dir ++ [name] ∧ dir.getLast? ≠ some "") ∨
      ∃ front, dir = front ++ [""] ∧ dir.join [name] = front ++ [name] := by
  unfold join
  rw [isAbsolute_singleton, if_neg Bool.false_ne_true]
  split
  · next hlast =>
    obtain ⟨front, rfl⟩ := List.getLast?_eq_some_iff.1 hlast
    exact Or.inr ⟨front, rfl, by simp⟩
  · next hlast => exact Or.inl ⟨rfl, hlast⟩

/-- The path of a longer list of parts is no shorter. -/
theorem utf8ByteSize_text_le (front rest : Path) :
    (text front).utf8ByteSize ≤ (text (front ++ rest)).utf8ByteSize := by
  induction front with
  | nil => simp [text]
  | cons part front ih =>
    cases front with
    | nil =>
      cases rest with
      | nil => simp
      | cons next rest =>
        simp only [text, List.singleton_append, String.intercalate_singleton,
          String.intercalate_cons_cons, String.utf8ByteSize_append]
        omega
    | cons next front =>
      simp only [text, List.cons_append, String.intercalate_cons_cons,
        String.utf8ByteSize_append] at ih ⊢
      omega

end Path

namespace FileSystem

open TableStore.Path (IsName)

variable {fs fs' : FileSystem} {dir path : Path} {name : String}

/-! ## Walks along idle parts -/

theorem walk_idle (fs : FileSystem) (place : Path) {parts : Path}
    (h : ∀ part ∈ parts, Path.isIdle part = true) : fs.walk place parts = .ok place := by
  induction parts with
  | nil => rfl
  | cons part rest ih =>
    obtain ⟨hpart, hrest⟩ := List.forall_mem_cons.1 h
    simp only [walk, enter, hpart, if_true]
    exact ih hrest

theorem walk_append_idle (fs : FileSystem) (place front : Path) {rest : Path}
    (h : ∀ part ∈ rest, Path.isIdle part = true) :
    fs.walk place (front ++ rest) = fs.walk place front := by
  rw [walk_append]
  cases fs.walk place front with
  | error cause => rfl
  | ok reached => exact walk_idle fs reached h

/-- A path of a file begins where the path of its directory begins. -/
theorem start_join (dir : Path) (name : String) : start (dir.join [name]) = start dir := by
  unfold start
  rcases Path.join_name dir name with ⟨hjoin, hlast⟩ | ⟨front, rfl, hjoin⟩
  · rw [hjoin]
    match dir with
    | [] => simp
    | [x] =>
      have hx : x ≠ "" := by simpa using hlast
      simp [hx]
    | x :: y :: rest => simp
  · rw [hjoin]
    match front with
    | [] => simp
    | [x] => simp
    | x :: y :: rest => simp

/-- The path of a file leads to the directory that the file is in. -/
theorem walk_join (fs : FileSystem) (dir : Path) (name : String) :
    fs.walk (start (dir.join [name])) (dir.join [name]).dropLast = fs.walk (start dir) dir := by
  rw [start_join]
  rcases Path.join_name dir name with ⟨hjoin, -⟩ | ⟨front, rfl, hjoin⟩
  · rw [hjoin, List.dropLast_concat]
  · rw [hjoin, List.dropLast_concat, walk_append_idle fs _ front (by simp [Path.isIdle])]

/-- The directory of a file is written without idle parts at its end, unless it is the root. -/
theorem parent_join (dir : Path) (hname : IsName name) :
    (dir.join [name]).parent =
      if dir.trimEnd = [] ∧ (dir.join [name]).isAbsolute then ["", ""] else dir.trimEnd := by
  have hidle : Path.isIdle name = false := by simp [Path.isIdle, hname.1, hname.2.1]
  have htrim : ∀ front : Path, (front ++ [name]).trimEnd = front ++ [name] := by
    intro front
    simp [Path.trimEnd, Path.dropEndWhile, hidle]
  rcases Path.join_name dir name with ⟨hjoin, -⟩ | ⟨front, rfl, hjoin⟩
  · rw [hjoin, Path.parent, htrim, List.dropLast_concat]
  · have hdrop : Path.trimEnd (front ++ [""]) = front.trimEnd := by
      simp [Path.trimEnd, Path.dropEndWhile, Path.isIdle]
    rw [hjoin, Path.parent, htrim, List.dropLast_concat, hdrop]

/-- A path begins where it begins up to a part that is not idle. -/
theorem start_append {front : Path} (hne : front ≠ [])
    (hlast : ∀ part, front.getLast? = some part → Path.isIdle part = false) (rest : Path) :
    start (front ++ rest) = start front := by
  unfold start
  match front with
  | [] => exact absurd rfl hne
  | [x] =>
    have hx : x ≠ "" := by
      intro heq
      simpa [Path.isIdle, heq] using hlast x rfl
    cases rest <;> simp [hx]
  | x :: y :: front => simp

theorem start_trimEnd (h : dir.trimEnd ≠ []) : start dir.trimEnd = start dir := by
  obtain ⟨rest, hdir, -, hlast⟩ := Path.dropEndWhile_append Path.isIdle dir
  rw [← Path.trimEnd] at hdir hlast
  conv => rhs; rw [hdir]
  exact (start_append h hlast rest).symm

/-- The path that is written for the directory of a file leads there. -/
theorem walk_parent (fs : FileSystem) (dir : Path) (hname : IsName name) :
    fs.walk (start (dir.join [name]).parent) (dir.join [name]).parent =
      fs.walk (start dir) dir := by
  obtain ⟨rest, hdir, hrest, -⟩ := Path.dropEndWhile_append Path.isIdle dir
  rw [← Path.trimEnd] at hdir
  have hwalk : fs.walk (start dir) dir = fs.walk (start dir) dir.trimEnd := by
    rw [← walk_append_idle fs (start dir) dir.trimEnd hrest, ← hdir]
  rw [hwalk, parent_join dir hname]
  by_cases hfront : dir.trimEnd = []
  · rw [hfront]
    have hstart : start dir = if (dir.join [name]).isAbsolute then [""] else [] := by
      rw [← start_join dir name, start]
    by_cases habsolute : (dir.join [name]).isAbsolute = true
    · rw [hstart, if_pos ⟨rfl, habsolute⟩, if_pos habsolute]
      exact walk_idle fs [""] (by simp [Path.isIdle])
    · rw [hstart, if_neg fun h => habsolute h.2, if_neg habsolute]
      simp [start]
  · rw [if_neg fun h => hfront h.1, start_trimEnd hfront]

/-! ## Paths of directories -/

/-- Whether a path can be walked as far as its text goes. -/
def Walkable (path : Path) : Prop :=
  path.any (fun part => part.toList.contains '\x00') = false ∧
    path.text.utf8ByteSize < pathBytesLimit ∧ ¬ (path = [] ∨ path = [""])

theorem walkable_of_locate {location : Location} (h : fs.locate path = .ok location) :
    Walkable path := by
  unfold locate at h
  split at h
  · simp at h
  · next hzero =>
    split at h
    · simp at h
    · next hshort =>
      split at h
      · simp at h
      · next hempty => exact ⟨by simpa using hzero, Nat.lt_of_not_le hshort, hempty⟩

theorem Walkable.front {front rest : Path} (h : Walkable (front ++ rest)) (hne : front ≠ [])
    (hroot : front ≠ [""]) : Walkable front := by
  obtain ⟨hzero, hshort, -⟩ := h
  rw [List.any_append, Bool.or_eq_false_iff] at hzero
  exact ⟨hzero.1, Nat.lt_of_le_of_lt (Path.utf8ByteSize_text_le front rest) hshort,
    not_or.2 ⟨hne, hroot⟩⟩

/-- Where a path leads that can be walked as far as its text goes. -/
theorem locate_of_walkable (fs : FileSystem) (h : Walkable path) : fs.locate path =
    match (path.dropEndWhile (· = "")).getLast? with
    | none => .ok ⟨start path, none, path.getLast? = some ""⟩
    | some name =>
      if name = "." ∨ name = ".." then
        (fs.walk (start path) (path.dropEndWhile (· = ""))).map fun dir =>
          ⟨dir, none, path.getLast? = some ""⟩
      else
        (fs.walk (start path) (path.dropEndWhile (· = "")).dropLast).map fun dir =>
          ⟨dir, some name, path.getLast? = some ""⟩ := by
  obtain ⟨hzero, hshort, hempty⟩ := h
  unfold locate
  refine (if_neg ?_).trans ((if_neg (Nat.not_le.2 hshort)).trans (if_neg hempty))
  rw [hzero]
  exact Bool.false_ne_true

theorem enter_eq_ok_iff {place reached : Path} (hname : IsName name) :
    fs.enter place name = .ok reached ↔
      name.utf8ByteSize ≤ maxNameBytes ∧ fs.HasDirectory (place ++ [name]) ∧
        reached = place ++ [name] := by
  obtain ⟨hne, hdot, hdots⟩ := hname
  constructor
  · intro h
    simp only [enter, Path.isIdle, hne, hdot, hdots, decide_false, Bool.or_self,
      Bool.false_eq_true, if_false] at h
    split at h
    · simp at h
    · next hshort =>
      split at h
      · simp at h
      · simp at h
      · next hentry => exact ⟨Nat.not_lt.1 hshort, hentry, by simpa using h.symm⟩
  · rintro ⟨hshort, hheld, rfl⟩
    exact enter_of_name ⟨hne, hdot, hdots⟩ hshort hheld

/-- A path means a directory if it can be walked to its end. -/
theorem isDirectory_iff : fs.isDirectory path = true ↔
    Walkable path ∧ ∃ place, fs.walk (start path) path = .ok place := by
  by_cases hwalkable : Walkable path
  swap
  · cases hlocate : fs.locate path with
    | error cause => simp [isDirectory, find, hlocate, hwalkable]
    | ok location => exact absurd (walkable_of_locate hlocate) hwalkable
  rw [isDirectory, find, locate_of_walkable fs hwalkable]
  simp only [hwalkable, true_and]
  -- slashes at the end lead nowhere
  obtain ⟨rest, hpath, hrest, hlast⟩ := Path.dropEndWhile_append (· = "") path
  have hidle : ∀ part ∈ rest, Path.isIdle part = true := by
    intro part hpart
    simp [Path.isIdle, show part = "" by simpa using hrest part hpart]
  have hwalk : fs.walk (start path) path =
      fs.walk (start path) (path.dropEndWhile (· = "")) := by
    rw [← walk_append_idle fs (start path) (path.dropEndWhile (· = "")) hidle, ← hpath]
  rw [hwalk]
  clear hwalk hpath
  generalize path.dropEndWhile (· = "") = front at hlast
  cases hfront : front.getLast? with
  | none =>
    obtain rfl := List.getLast?_eq_none_iff.1 hfront
    simp [walk, lookUp]
  | some name =>
    have hne : name ≠ "" := by simpa using hlast name hfront
    obtain ⟨init, rfl⟩ := List.getLast?_eq_some_iff.1 hfront
    by_cases hdots : name = "." ∨ name = ".."
    · simp only [hdots, if_true]
      cases fs.walk (start path) (init ++ [name]) <;> simp [Except.map, lookUp]
    · obtain ⟨hdot, hdotdot⟩ := not_or.1 hdots
      simp only [hdots, if_false, List.dropLast_concat, walk_append]
      cases fs.walk (start path) init with
      | error cause => simp [Except.map]
      | ok reached =>
        -- the last step looks up what the last name means
        simp only [Except.map, walk, enter, lookUp, Location.place, Option.toList_some,
          Path.isIdle, hne, hdot, hdotdot, decide_false, Bool.or_self, Bool.false_eq_true,
          if_false]
        by_cases hlong : maxNameBytes < name.utf8ByteSize
        · simp [hlong]
        · cases hentry : fs.entries.get? (reached ++ [name]) with
          | none => simp [hlong]
          | some entry =>
            cases entry with
            | directory => simp [hlong]
            | file content => cases hslash : decide (path.getLast? = some "") <;> simp [hlong]

/-! ## Directories that need not be made -/

/-- The directory of a path is there, or the path does not name any. -/
def Made (path : Path) (fs : FileSystem) : Prop :=
  path.trimEnd = [] ∨ fs.isDirectory path = true

theorem ancestors_cases (path : Path) :
    path.trimEnd = [] ∧ path.ancestors = [] ∨
      path.trimEnd ≠ [] ∧ ∃ outer, path.ancestors = path :: outer := by
  unfold Path.ancestors
  cases path with
  | nil => exact Or.inl ⟨rfl, rfl⟩
  | cons part rest =>
    rw [List.length_cons, Path.ancestorsUpTo]
    by_cases htrim : Path.trimEnd (part :: rest) = []
    · exact Or.inl ⟨htrim, if_pos htrim⟩
    · exact Or.inr ⟨htrim, _, if_neg htrim⟩

/-- A directory that is there is not created again. -/
theorem createDirectory_of_isDirectory (h : fs.isDirectory path = true) :
    ∃ cause, fs.createDirectory path = (.error cause, fs) := by
  unfold isDirectory find at h
  cases hlocate : fs.locate path with
  | error cause => simp [hlocate] at h
  | ok location =>
    simp only [hlocate, lookUp] at h
    simp only [createDirectory, hlocate]
    cases hname : location.name with
    | none => exact ⟨_, rfl⟩
    | some name =>
      simp only [hname] at h ⊢
      by_cases hlong : maxNameBytes < name.utf8ByteSize
      · exact ⟨_, if_pos hlong⟩
      · simp only [if_neg hlong] at h ⊢
        have hheld : fs.entries.contains location.place = true := by
          cases hentry : fs.entries.get? location.place with
          | none => simp [hentry] at h
          | some entry => simp [KeyMap.contains, hentry]
        exact ⟨_, if_pos hheld⟩

theorem ensureDirectory_of_isDirectory (h : fs.isDirectory path = true) :
    fs.ensureDirectory path = (.ok (), fs) := by
  obtain ⟨cause, hcreate⟩ := createDirectory_of_isDirectory h
  simp [ensureDirectory, hcreate, h]

/-- Making a directory that is there changes nothing. -/
theorem Made.createDirectories (h : fs.Made path) :
    fs.createDirectories path = (.ok (), fs) := by
  unfold FileSystem.createDirectories
  rcases ancestors_cases path with ⟨-, hnone⟩ | ⟨htrim, outer, hsome⟩
  · rw [hnone, ensureDirectories]
  · rw [hsome, ensureDirectories,
      ensureDirectory_of_isDirectory (h.resolve_left htrim)]

theorem Made.eq_of_createDirectories (h : fs.Made path) {reply : Except IoError Unit}
    (hmake : fs.createDirectories path = (reply, fs')) : fs' = fs := by
  rw [h.createDirectories] at hmake
  exact (congrArg Prod.snd hmake).symm

/-- A directory stays where no directory goes. -/
theorem Made.mono (h : fs.Made path)
    (hkept : ∀ place, fs.HasDirectory place → fs'.HasDirectory place) : fs'.Made path := by
  refine h.imp_right fun hdirectory => ?_
  obtain ⟨hwalkable, place, hwalk⟩ := isDirectory_iff.1 hdirectory
  exact isDirectory_iff.2 ⟨hwalkable, place, walk_mono hkept hwalk⟩

/-- The path of a directory that is there can be walked. -/
theorem Made.walk (h : fs.Made path) : ∃ place, fs.walk (start path) path = .ok place := by
  rcases h with htrim | hdirectory
  · obtain ⟨rest, hpath, hidle, -⟩ := Path.dropEndWhile_append Path.isIdle path
    rw [← Path.trimEnd, htrim, List.nil_append] at hpath
    exact ⟨start path, walk_idle fs _ (hpath ▸ hidle)⟩
  · exact (isDirectory_iff.1 hdirectory).2

/-- A directory that was created is there. -/
theorem isDirectory_of_createDirectory (h : fs.createDirectory path = (.ok (), fs')) :
    fs'.isDirectory path = true := by
  have hframe := frame_createDirectory fs path
  rw [h] at hframe
  unfold createDirectory at h
  cases hlocate : fs.locate path with
  | error cause => simp [hlocate] at h
  | ok location =>
    simp only [hlocate] at h
    split at h
    · simp at h
    · next name hname =>
      split at h
      · simp at h
      · next hshort =>
        split at h
        · simp at h
        · obtain rfl : fs.set location.place .directory = fs' := by simpa using h
          have hlocate' : (fs.set location.place .directory).locate path = .ok location :=
            locate_mono hframe.directories hlocate
          have hentry : (fs.set location.place .directory).entries.get? location.place =
              some .directory := by simp [set]
          simp [isDirectory, find, hlocate', lookUp, hname, hshort, hentry]

theorem isDirectory_of_ensureDirectory (h : fs.ensureDirectory path = (.ok (), fs')) :
    fs'.isDirectory path = true := by
  unfold ensureDirectory at h
  split at h
  · split at h
    · next hdirectory =>
      obtain rfl : _ = fs' := by simpa using h
      exact hdirectory
    · simp at h
  · next hcreate =>
    obtain rfl : _ = fs' := by simpa using h
    exact isDirectory_of_createDirectory hcreate

theorem isDirectory_of_ensureDirectories {outer : List Path}
    (h : fs.ensureDirectories (path :: outer) = (.ok (), fs')) : fs'.isDirectory path = true := by
  rw [ensureDirectories] at h
  split at h
  · split at h
    · simp at h
    · exact isDirectory_of_ensureDirectory h
  · exact isDirectory_of_ensureDirectory h

/-- A directory that was made is there. -/
theorem made_of_createDirectories (h : fs.createDirectories path = (.ok (), fs')) :
    fs'.Made path := by
  unfold createDirectories at h
  rcases ancestors_cases path with ⟨htrim, -⟩ | ⟨-, outer, hsome⟩
  · exact Or.inl htrim
  · rw [hsome] at h
    exact Or.inr (isDirectory_of_ensureDirectories h)

/-- Making the directory twice comes to the same as making it once.  It does unless the path goes up
through directories that the first attempt has made (`Rooted.steady`). -/
def Steady (path : Path) (fs : FileSystem) : Prop :=
  (fs.createDirectories path).2.createDirectories path = fs.createDirectories path

theorem Made.steady (h : fs.Made path) : fs.Steady path := by
  rw [Steady, h.createDirectories]
  exact h.createDirectories

theorem Steady.repeated (h : fs.Steady path) {reply : Except IoError Unit}
    (hmake : fs.createDirectories path = (reply, fs')) :
    fs'.createDirectories path = fs.createDirectories path := by
  rw [Steady, hmake] at h
  rw [h, hmake]

/-- The directory of a file is there if the path that the file's path was made of says so. -/
theorem Made.parent (h : fs.Made dir) (hname : IsName name) :
    fs.Made (dir.join [name]).parent := by
  have hparent := parent_join dir hname
  by_cases htrim : dir.trimEnd = []
  · refine Or.inl ?_
    rw [hparent]
    split
    · rfl
    · rw [htrim]
      rfl
  · rw [if_neg fun h => htrim h.1] at hparent
    obtain ⟨hwalkable, place, hwalk⟩ := isDirectory_iff.1 (h.resolve_left htrim)
    obtain ⟨rest, hdir, -, hlast⟩ := Path.dropEndWhile_append Path.isIdle dir
    rw [← Path.trimEnd] at hdir hlast
    refine Or.inr (isDirectory_iff.2 ⟨?_, place, ?_⟩)
    · rw [hdir] at hwalkable
      rw [hparent]
      refine hwalkable.front htrim fun hroot => ?_
      rw [hroot] at hlast
      simpa [Path.isIdle] using hlast "" rfl
    · rw [walk_parent fs dir hname, hwalk]

/-! ## Files while directories are made -/

/-- Two file systems have the same files under the given names, wherever these are. -/
def SameFiles (names : String → Prop) (fs fs' : FileSystem) : Prop :=
  ∀ place name, place.getLast? = some name → names name → ∀ content,
    fs'.entries.get? place = some (.file content) ↔ fs.entries.get? place = some (.file content)

namespace SameFiles

variable {names : String → Prop} {fs'' : FileSystem}

theorem refl (names : String → Prop) (fs : FileSystem) : SameFiles names fs fs :=
  fun _ _ _ _ _ => Iff.rfl

theorem symm (h : SameFiles names fs fs') : SameFiles names fs' fs :=
  fun place name hlast hname content => (h place name hlast hname content).symm

theorem trans (h : SameFiles names fs fs') (h' : SameFiles names fs' fs'') :
    SameFiles names fs fs'' :=
  fun place name hlast hname content =>
    (h' place name hlast hname content).trans (h place name hlast hname content)

end SameFiles

theorem sameFiles_createDirectory (names : String → Prop) (fs : FileSystem) (path : Path) :
    SameFiles names fs (fs.createDirectory path).2 := by
  unfold createDirectory
  split
  · exact .refl _ _
  · next location _ =>
    split
    · exact .refl _ _
    · split
      · exact .refl _ _
      · split
        · exact .refl _ _
        · next hfree =>
          have hnone : fs.entries.get? location.place = none := by
            simpa [KeyMap.contains] using hfree
          intro place _ _ _ content
          simp only [set, KeyMap.get?_insert]
          split
          · next heq => simp [heq, hnone]
          · rfl

theorem sameFiles_ensureDirectory (names : String → Prop) (fs : FileSystem) (path : Path) :
    SameFiles names fs (fs.ensureDirectory path).2 := by
  have hcreate := sameFiles_createDirectory names fs path
  unfold ensureDirectory
  split <;> rename_i heq <;> rw [heq] at hcreate
  · split <;> exact hcreate
  · exact hcreate

theorem sameFiles_ensureDirectories (names : String → Prop) (paths : List Path)
    (fs : FileSystem) : SameFiles names fs (fs.ensureDirectories paths).2 := by
  induction paths generalizing fs with
  | nil => exact .refl _ _
  | cons path outer ih =>
    have hensure := sameFiles_ensureDirectory names fs path
    unfold ensureDirectories
    split
    · next fs' heq =>
      rw [heq] at hensure
      have houter := ih fs'
      split <;> rename_i heq' <;> rw [heq'] at houter
      · exact hensure.trans houter
      · exact (hensure.trans houter).trans (sameFiles_ensureDirectory names _ path)
    · exact hensure

/-- Making directories makes no files. -/
theorem sameFiles_createDirectories (names : String → Prop) (fs : FileSystem) (path : Path) :
    SameFiles names fs (fs.createDirectories path).2 := sameFiles_ensureDirectories names _ fs

/-! ## Attempts that fail -/

/-- Every entry lies in a directory. -/
def Rooted (fs : FileSystem) : Prop :=
  ∀ place name, fs.entries.get? (place ++ [name]) ≠ none →
    place = [] ∨ place = [""] ∨ fs.HasDirectory place

/-- A walk to the directory of an entry needs no directories that have been made since. -/
theorem Rooted.walk (h : fs.Rooted) {begin reached : Path} {name : String}
    (hentry : fs.entries.get? (reached ++ [name]) ≠ none) {parts : Path} (hup : ".." ∉ parts)
    (hwalk : fs'.walk begin parts = .ok reached) : fs.walk begin parts = .ok reached := by
  induction parts using List.reverseRecOn generalizing reached name with
  | nil => exact hwalk
  | append_singleton front part ih =>
    have hfront : ".." ∉ front := fun hmem => hup (List.mem_append_left _ hmem)
    rw [walk_append] at hwalk ⊢
    cases hreach : fs'.walk begin front with
    | error cause => simp [hreach] at hwalk
    | ok place =>
      simp only [hreach, FileSystem.walk] at hwalk
      by_cases hidle : Path.isIdle part = true
      · obtain rfl : place = reached := by simpa [enter, hidle] using hwalk
        rw [ih hentry hfront hreach]
        simp [FileSystem.walk, enter, hidle]
      · have hname : IsName part := by
          refine ⟨fun heq => hidle ?_, fun heq => hidle ?_, fun heq => hup ?_⟩ <;>
            simp [heq, Path.isIdle]
        have henter : fs'.enter place part = .ok reached := by
          cases hstep : fs'.enter place part with
          | error cause => simp [hstep] at hwalk
          | ok next => simpa [hstep] using hwalk
        obtain ⟨hshort, -, rfl⟩ := (enter_eq_ok_iff hname).1 henter
        have hheld : fs.HasDirectory (place ++ [part]) := by
          rcases h _ _ hentry with hnil | hroot | hheld
          · simp at hnil
          · obtain ⟨-, hpart⟩ := List.append_eq_singleton_iff.1 hroot |>.resolve_right (by simp)
            exact absurd (by simpa using hpart) hname.1
          · exact hheld
        have hpart : fs.entries.get? (place ++ [part]) ≠ none := by
          rw [hheld]
          simp
        rw [ih hpart hfront hreach]
        simp only [FileSystem.walk, enter_of_name hname hshort hheld]

/-- The parent of a path is written by its first parts, up to one that is not idle. -/
theorem parent_append (h : path.parent.trimEnd ≠ []) :
    ∃ front name rest, path.parent = front ++ [name] ∧ Path.isIdle name = false ∧
      path = front ++ [name] ++ rest ∧ ∃ part ∈ rest, part ≠ "" := by
  have hparent : path.parent = Path.trimEnd path.trimEnd.dropLast := by
    simp only [Path.parent] at h ⊢
    split
    · next hroot =>
      rw [if_pos hroot] at h
      exact absurd rfl h
    · rfl
  obtain ⟨idle, hpath, -, hlast⟩ := Path.dropEndWhile_append Path.isIdle path
  rw [← Path.trimEnd] at hpath hlast
  obtain htrim | ⟨inner, part, htrim⟩ := List.eq_nil_or_concat path.trimEnd
  · rw [hparent, htrim] at h
    exact absurd rfl h
  · rw [List.concat_eq_append] at htrim
    rw [htrim] at hpath hlast
    rw [hparent, htrim, List.dropLast_concat] at h ⊢
    obtain ⟨idle', hinner, -, hlast'⟩ := Path.dropEndWhile_append Path.isIdle inner
    rw [← Path.trimEnd] at hinner hlast'
    obtain htrim' | ⟨front, name, htrim'⟩ := List.eq_nil_or_concat (Path.trimEnd inner)
    · rw [htrim'] at h
      exact absurd rfl h
    · rw [List.concat_eq_append] at htrim'
      rw [htrim'] at hinner hlast' ⊢
      have hne : part ≠ "" := fun heq => by
        simpa [Path.isIdle, heq] using hlast part List.getLast?_concat
      refine ⟨front, name, idle' ++ part :: idle, rfl, hlast' name List.getLast?_concat, ?_, part,
        by simp, hne⟩
      rw [hpath]
      conv => lhs; rw [hinner]
      simp

theorem notMem_parent (hup : ".." ∉ path) : ".." ∉ path.parent := by
  have htrim : ∀ other : Path, ∀ part ∈ other.trimEnd, part ∈ other := by
    intro other part hpart
    obtain ⟨rest, hother, -⟩ := Path.dropEndWhile_append Path.isIdle other
    rw [hother]
    exact List.mem_append_left rest hpart
  simp only [Path.parent]
  split
  · decide
  · exact fun hmem => hup (htrim _ _ (List.dropLast_subset _ (htrim _ _ hmem)))

theorem createDirectory_error {cause : IoError}
    (h : fs.createDirectory path = (.error cause, fs')) : fs' = fs := by
  unfold createDirectory at h
  split at h
  · exact (congrArg Prod.snd h).symm
  · split at h
    · exact (congrArg Prod.snd h).symm
    · split at h
      · exact (congrArg Prod.snd h).symm
      · split at h
        · exact (congrArg Prod.snd h).symm
        · simp at h

theorem ensureDirectory_error {cause : IoError}
    (h : fs.ensureDirectory path = (.error cause, fs')) :
    fs' = fs ∧ fs.isDirectory path = false ∧ fs.createDirectory path = (.error cause, fs) := by
  unfold ensureDirectory at h
  split at h
  · next cause' after hcreate =>
    obtain rfl := createDirectory_error hcreate
    split at h
    · simp at h
    · next hmissing =>
      obtain ⟨rfl, rfl⟩ : cause' = cause ∧ after = fs' := by simpa using h
      exact ⟨rfl, by simpa using hmissing, hcreate⟩
  · simp at h

theorem ensureDirectory_of_locate_error {cause : IoError} (h : fs.locate path = .error cause) :
    fs.ensureDirectory path = (.error cause, fs) := by
  simp [ensureDirectory, createDirectory, isDirectory, find, h]

/-- A path that goes too far is not missing. -/
theorem walkable_of_missing (hlong : 2 ≤ path.length)
    (h : fs.ensureDirectory path = (.error .notFound, fs)) : Walkable path := by
  cases hlocate : fs.locate path with
  | ok location => exact walkable_of_locate hlocate
  | error cause =>
    rw [ensureDirectory_of_locate_error hlocate] at h
    obtain rfl : cause = .notFound := by simpa using h
    unfold locate at hlocate
    split at hlocate
    · simp at hlocate
    · next hzero =>
      split at hlocate
      · simp at hlocate
      · next hshort =>
        refine ⟨by simpa using hzero, Nat.lt_of_not_le hshort, ?_⟩
        rintro (rfl | rfl) <;> simp at hlong

/-- A path cannot be located if it cannot be walked up to a part behind which others follow. -/
theorem locate_of_walk_error {front rest : Path} (hwalkable : Walkable (front ++ rest))
    (hrest : ∃ part ∈ rest, part ≠ "") {cause : IoError}
    (hwalk : fs.walk (start (front ++ rest)) front = .error cause) :
    fs.locate (front ++ rest) = .error cause := by
  obtain ⟨part, hpart, hne⟩ := hrest
  obtain ⟨slashes, hsplit, hslashes, hlast⟩ := Path.dropEndWhile_append (· = "") (front ++ rest)
  rw [locate_of_walkable fs hwalkable]
  generalize Path.dropEndWhile (· = "") (front ++ rest) = kept at hsplit hlast ⊢
  obtain ⟨inner, rfl, hinner⟩ | ⟨inner, hfront, hall⟩ := List.append_eq_append_iff.1 hsplit
  · obtain rfl | ⟨init, name, rfl⟩ := List.eq_nil_or_concat inner
    · rw [hinner, List.nil_append] at hpart
      exact absurd (by simpa using hslashes part hpart) hne
    · simp only [List.concat_eq_append, ← List.append_assoc, List.getLast?_concat,
        List.dropLast_concat, walk_append, hwalk, Except.map]
      split <;> rfl
  · have hmem : part ∈ slashes := hall ▸ List.mem_append_right inner hpart
    exact absurd (by simpa using hslashes part hmem) hne

/-- Why a directory cannot be made: either its path cannot be walked, or a file has its name. -/
theorem ensureDirectory_error_cases {front : Path} (hname : IsName name)
    (hwalkable : Walkable (front ++ [name])) {cause : IoError}
    (h : fs.ensureDirectory (front ++ [name]) = (.error cause, fs')) :
    fs.walk (start (front ++ [name])) (front ++ [name]) = .error cause ∨
      ∃ place content, fs.walk (start (front ++ [name])) front = .ok place ∧
        name.utf8ByteSize ≤ maxNameBytes ∧
        fs.entries.get? (place ++ [name]) = some (.file content) := by
  obtain ⟨-, hmissing, hcreate⟩ := ensureDirectory_error h
  obtain ⟨hne, hdot, hdots⟩ := hname
  have hkept : Path.dropEndWhile (· = "") (front ++ [name]) = front ++ [name] := by
    simp [Path.dropEndWhile, hne]
  have hlocate := locate_of_walkable fs hwalkable
  simp only [hkept, List.getLast?_concat, List.dropLast_concat, hdot, hdots, or_self, if_false]
    at hlocate
  rw [walk_append]
  cases hwalk : fs.walk (start (front ++ [name])) front with
  | error cause' =>
    simp only [hwalk, Except.map] at hlocate
    simp only [createDirectory, hlocate, Prod.mk.injEq, Except.error.injEq, and_true] at hcreate
    exact Or.inl (by rw [hcreate])
  | ok place =>
    simp only [hwalk, Except.map] at hlocate
    have hidle : Path.isIdle name = false := by simp [Path.isIdle, hne, hdot]
    simp only [createDirectory, hlocate, Location.place, Option.toList_some] at hcreate
    by_cases hlong : maxNameBytes < name.utf8ByteSize
    · obtain rfl : .nameTooLong = cause := by simpa [hlong] using hcreate
      refine Or.inl ?_
      simp [walk, enter, hidle, hdots, hlong]
    · refine Or.inr ?_
      cases hentry : fs.entries.get? (place ++ [name]) with
      | none => simp [hlong, KeyMap.contains, hentry] at hcreate
      | some entry =>
        cases entry with
        | file content => exact ⟨place, content, rfl, Nat.not_lt.1 hlong, hentry⟩
        | directory =>
          have hdirectory : fs.isDirectory (front ++ [name]) = true := by
            simp [isDirectory, find, hlocate, lookUp, hlong, Location.place, hentry]
          simp [hdirectory] at hmissing

/-- Where the parent of a missing directory could not be made, the directory cannot be made for the
same cause. -/
theorem Rooted.ensureDirectory_of_parent (h : fs.Rooted) (hup : ".." ∉ path)
    (hparent : path.parent.trimEnd ≠ [])
    (hmissing : fs.ensureDirectory path = (.error .notFound, fs))
    (hfiles : SameFiles (fun _ => True) fs fs') {cause : IoError}
    (hfail : fs'.ensureDirectory path.parent = (.error cause, fs')) :
    fs'.ensureDirectory path = (.error cause, fs') := by
  obtain ⟨front, name, rest, heq, hidle, hpath, hrest⟩ := parent_append hparent
  have hname : IsName name := by
    refine ⟨fun hempty => ?_, fun hdot => ?_, fun hdots => hup ?_⟩
    · simp [Path.isIdle, hempty] at hidle
    · simp [Path.isIdle, hdot] at hidle
    · simp [hpath, hdots]
  have hstart : start (front ++ [name] ++ rest) = start (front ++ [name]) :=
    start_append (by simp) (by simpa using hidle) rest
  rw [heq] at hfail
  rw [hpath] at hmissing ⊢
  have hwalkable : Walkable (front ++ [name] ++ rest) := by
    obtain ⟨part, hpart, -⟩ := hrest
    have hpos := List.length_pos_of_mem hpart
    refine walkable_of_missing ?_ hmissing
    simp only [List.length_append, List.length_singleton]
    omega
  have hwalkable' : Walkable (front ++ [name]) := by
    refine hwalkable.front (by simp) fun hroot => hname.1 ?_
    simpa using congrArg List.getLast? hroot
  rcases ensureDirectory_error_cases hname hwalkable' hfail with
    hwalk | ⟨place, content, hwalk, hshort, hentry⟩
  · rw [← hstart] at hwalk
    exact ensureDirectory_of_locate_error (locate_of_walk_error hwalkable hrest hwalk)
  · -- the file was there before, in the directory that it is in now
    have hbefore := (hfiles (place ++ [name]) name List.getLast?_concat trivial content).1 hentry
    have hfront : ".." ∉ front := fun hmem => hup (by simp [hpath, hmem])
    have hentry' : fs.entries.get? (place ++ [name]) ≠ none := by simp [hbefore]
    have hreach := h.walk hentry' hfront hwalk
    have hstop : fs.walk (start (front ++ [name] ++ rest)) (front ++ [name]) =
        .error .notADirectory := by
      obtain ⟨-, -, hdots⟩ := hname
      rw [hstart, walk_append, hreach]
      simp [FileSystem.walk, enter, hidle, hdots, Nat.not_lt.2 hshort, hbefore]
    have hlocate := locate_of_walk_error hwalkable hrest hstop
    rw [ensureDirectory_of_locate_error hlocate] at hmissing
    simp at hmissing

theorem ensureDirectories_of_error {outer : List Path} {cause : IoError}
    (hpath : fs.ensureDirectory path = (.error cause, fs))
    (houter : cause = .notFound → fs.ensureDirectories outer = (.ok (), fs) ∨
      fs.ensureDirectories outer = (.error cause, fs)) :
    fs.ensureDirectories (path :: outer) = (.error cause, fs) := by
  rw [ensureDirectories, hpath]
  by_cases hcause : cause = .notFound
  · subst hcause
    rcases houter rfl with houter | houter <;> simp [houter, hpath]
  · split
    · next heq => exact absurd (by simpa using congrArg Prod.fst heq) hcause
    · rfl

theorem ensureDirectories_of_ok {paths : List Path}
    (h : fs.ensureDirectories paths = (.ok (), fs')) :
    fs'.ensureDirectories paths = (.ok (), fs') := by
  cases paths with
  | nil => rfl
  | cons path outer =>
    rw [ensureDirectories, ensureDirectory_of_isDirectory (isDirectory_of_ensureDirectories h)]

/-- Directories that could not be made cannot be made for the same cause afterwards. -/
theorem Rooted.ensureDirectories_again (h : fs.Rooted) {count : Nat} (hup : ".." ∉ path)
    {cause : IoError}
    (hfail : fs.ensureDirectories (Path.ancestorsUpTo count path) = (.error cause, fs')) :
    path.trimEnd ≠ [] ∧ fs'.ensureDirectory path = (.error cause, fs') ∧
      fs'.ensureDirectories (Path.ancestorsUpTo count path) = (.error cause, fs') := by
  induction count generalizing path fs' cause with
  | zero => simp [Path.ancestorsUpTo, ensureDirectories] at hfail
  | succ count ih =>
    by_cases htrim : path.trimEnd = []
    · simp [Path.ancestorsUpTo, htrim, ensureDirectories] at hfail
    rw [Path.ancestorsUpTo, if_neg htrim] at hfail ⊢
    refine ⟨htrim, ?_⟩
    rw [ensureDirectories] at hfail
    split at hfail
    · next after hmissing =>
      obtain ⟨rfl, -⟩ := ensureDirectory_error hmissing
      have hfiles := sameFiles_ensureDirectories (fun _ => True)
        (Path.ancestorsUpTo count path.parent) after
      split at hfail
      · next cause' last houter =>
        -- the directory that it lies in could not be made
        obtain ⟨rfl, rfl⟩ : cause' = cause ∧ last = fs' := by simpa using hfail
        rw [houter] at hfiles
        obtain ⟨hparent, hstop, hagain⟩ := ih (notMem_parent hup) houter
        have hpath := h.ensureDirectory_of_parent hup hparent hmissing hfiles hstop
        exact ⟨hpath, ensureDirectories_of_error hpath fun _ => Or.inr hagain⟩
      · next last houter =>
        -- only the directory itself could not be made
        obtain ⟨rfl, -⟩ := ensureDirectory_error hfail
        exact ⟨hfail, ensureDirectories_of_error hfail fun _ =>
          Or.inl (ensureDirectories_of_ok houter)⟩
    · next hother =>
      obtain ⟨rfl, -⟩ := ensureDirectory_error hfail
      refine ⟨hfail, ensureDirectories_of_error hfail fun hcause => ?_⟩
      subst hcause
      exact absurd hfail (hother _)

/-- A path that never goes up is steady. -/
theorem Rooted.steady (h : fs.Rooted) (hup : ".." ∉ path) : fs.Steady path := by
  unfold Steady
  cases hmake : fs.createDirectories path with
  | mk reply after =>
    cases reply with
    | ok _ => exact (made_of_createDirectories hmake).createDirectories
    | error cause => exact (h.ensureDirectories_again hup hmake).2.2

/-- A path that goes up need not be steady: the first attempt makes the directory `a`, and only then
the file `f` is in the way. -/
example : ¬ (empty.set ["f"] (.file .empty)).Steady ["a", "..", "f", "b"] :=
  fun h => absurd (congrArg Prod.fst h) (by decide)

end FileSystem

end TableStore
