import Mathlib.Tactic.Common
import TableStore.FileSystem.Directories
import TableStore.FileSystem.Files

/-!
# What actions on files leave alone

An action on a file changes what the places under its name hold, and nothing else that matters to
other files.  `Frame names` says so of two file systems: places under other names keep their
entries, directories stay, and faults and scratch names are the same.  Every action of the file
system has a frame, and frames compose.  Actions on files make no entries under other names either
(`Confined`); only the creation of directories does.

`Contains` says that a path leads to a file with a given content, and `Holds` that the content is a
given text.  This is kept by every frame that leaves out the file's name (`Contains.frame`).  The
lemmas below it say what each action makes of it.  A writing that fails may have written a part of a
text (`Tears`); otherwise a file holds a text before and after (`holds_appendText`).
-/

namespace TableStore.FileSystem

open TableStore.Path (IsName)

/-! ## Where a name is located -/

theorem locate_mono {fs fs' : FileSystem}
    (hkept : ∀ place, fs.HasDirectory place → fs'.HasDirectory place) {path : Path}
    {location : Location} (h : fs.locate path = .ok location) :
    fs'.locate path = .ok location := by
  unfold locate at h ⊢
  split
  · next hzero =>
    rw [if_pos hzero] at h
    exact absurd h (by simp)
  · next hzero =>
    rw [if_neg hzero] at h
    split
    · next hlong =>
      rw [if_pos hlong] at h
      exact absurd h (by simp)
    · next hlong =>
      rw [if_neg hlong] at h
      split
      · next hempty =>
        rw [if_pos hempty] at h
        exact absurd h (by simp)
      · next hempty =>
        rw [if_neg hempty] at h
        -- only the walk looks at the entries
        simp only at h ⊢
        split
        · next hfront => simpa [hfront] using h
        · next name hfront =>
          simp only [hfront] at h
          split <;> rename_i hdots
          · rw [if_pos hdots] at h
            cases hwalk : fs.walk (start path) (path.dropEndWhile (· = "")) with
            | error cause => simp [hwalk, Except.map] at h
            | ok dir =>
              rw [hwalk] at h
              rw [walk_mono hkept hwalk]
              exact h
          · rw [if_neg hdots] at h
            cases hwalk : fs.walk (start path) (path.dropEndWhile (· = "")).dropLast with
            | error cause => simp [hwalk, Except.map] at h
            | ok dir =>
              rw [hwalk] at h
              rw [walk_mono hkept hwalk]
              exact h

/-- A path that ends in a name means that name in the directory before it. -/
theorem locate_name {fs : FileSystem} {path : Path} {name : String} {location : Location}
    (hlast : path.getLast? = some name) (hname : IsName name)
    (h : fs.locate path = .ok location) :
    ∃ dir, location = ⟨dir, some name, false⟩ := by
  obtain ⟨hne, hdot, hdots⟩ := hname
  obtain ⟨front, rfl⟩ := List.getLast?_eq_some_iff.1 hlast
  have hfront : Path.dropEndWhile (· = "") (front ++ [name]) = front ++ [name] := by
    simp [Path.dropEndWhile, hne]
  unfold locate at h
  split at h
  · simp at h
  · split at h
    · simp at h
    · split at h
      · simp at h
      · simp only [hfront, List.getLast?_concat, hdot, hdots, or_self, if_false,
          List.dropLast_concat, Option.some.injEq, hne] at h
        cases hwalk : fs.walk (start (front ++ [name])) front with
        | error cause => simp [hwalk, Except.map] at h
        | ok dir => exact ⟨dir, by simpa [hwalk, Except.map] using h.symm⟩

/-! ## Frames -/

/-- `fs'` differs from `fs` only at places under the given names, and in new entries.  No
directory has gone. -/
structure Frame (names : List String) (fs fs' : FileSystem) : Prop where
  faults : fs'.faults = fs.faults
  scratch : fs'.scratch = fs.scratch
  kept : ∀ place entry, (∀ name ∈ names, place.getLast? ≠ some name) →
    fs.entries.get? place = some entry → fs'.entries.get? place = some entry
  directories : ∀ place, fs.HasDirectory place → fs'.HasDirectory place

namespace Frame

theorem refl (names : List String) (fs : FileSystem) : Frame names fs fs :=
  ⟨rfl, rfl, fun _ _ _ h => h, fun _ h => h⟩

theorem trans {names : List String} {fs fs' fs'' : FileSystem} (h : Frame names fs fs')
    (h' : Frame names fs' fs'') : Frame names fs fs'' where
  faults := h'.faults.trans h.faults
  scratch := h'.scratch.trans h.scratch
  kept place entry hout held := h'.kept place entry hout (h.kept place entry hout held)
  directories place held := h'.directories place (h.directories place held)

theorem mono {names names' : List String} {fs fs' : FileSystem} (h : Frame names fs fs')
    (hsub : ∀ name ∈ names, name ∈ names') : Frame names' fs fs' where
  faults := h.faults
  scratch := h.scratch
  kept place entry hout := h.kept place entry fun name hname => hout name (hsub name hname)
  directories := h.directories

end Frame

/-- `fs'` and `fs` differ only at places under the given names.  No directory has come or gone. -/
structure Confined (names : List String) (fs fs' : FileSystem) : Prop where
  forth : Frame names fs fs'
  back : Frame names fs' fs

namespace Confined

variable {names : List String} {fs fs' fs'' : FileSystem}

theorem refl (names : List String) (fs : FileSystem) : Confined names fs fs :=
  ⟨.refl names fs, .refl names fs⟩

theorem trans (h : Confined names fs fs') (h' : Confined names fs' fs'') :
    Confined names fs fs'' :=
  ⟨h.forth.trans h'.forth, h'.back.trans h.back⟩

theorem mono {names' : List String} (h : Confined names fs fs')
    (hsub : ∀ name ∈ names, name ∈ names') : Confined names' fs fs' :=
  ⟨h.forth.mono hsub, h.back.mono hsub⟩

/-- Places under other names hold what they held. -/
theorem entry (h : Confined names fs fs') {place : Path}
    (hout : ∀ name ∈ names, place.getLast? ≠ some name) :
    fs'.entries.get? place = fs.entries.get? place := by
  cases hafter : fs'.entries.get? place with
  | some entry => exact (h.back.kept place entry hout hafter).symm
  | none =>
    cases hbefore : fs.entries.get? place with
    | none => rfl
    | some entry =>
      have hkept := h.forth.kept place entry hout hbefore
      rw [hafter] at hkept
      simp at hkept

end Confined

/-- File systems that differ at one place, where neither has a directory. -/
theorem confined_of_place {fs fs' : FileSystem} {dir : Path} {name : String}
    (hfaults : fs'.faults = fs.faults) (hscratch : fs'.scratch = fs.scratch)
    (hfree : ¬ fs.HasDirectory (dir ++ [name])) (hfree' : ¬ fs'.HasDirectory (dir ++ [name]))
    (hsame : ∀ place, place ≠ dir ++ [name] →
      fs'.entries.get? place = fs.entries.get? place) : Confined [name] fs fs' := by
  have hne : ∀ place : Path, (∀ other ∈ [name], place.getLast? ≠ some other) →
      place ≠ dir ++ [name] := by
    rintro place hout rfl
    exact hout name (by simp) (by simp)
  constructor
  · refine ⟨hfaults, hscratch, fun place entry hout held => ?_, fun place held => ?_⟩
    · rwa [hsame place (hne place hout)]
    · have hother : place ≠ dir ++ [name] := fun heq => hfree (heq ▸ held)
      rwa [HasDirectory, hsame place hother]
  · refine ⟨hfaults.symm, hscratch.symm, fun place entry hout held => ?_, fun place held => ?_⟩
    · rwa [← hsame place (hne place hout)]
    · have hother : place ≠ dir ++ [name] := fun heq => hfree' (heq ▸ held)
      rwa [HasDirectory, ← hsame place hother]

/-- Writing a file where there is no directory changes nothing under other names. -/
theorem confined_set {fs : FileSystem} {dir : Path} {name : String} (content : ByteArray)
    (hfree : ¬ fs.HasDirectory (dir ++ [name])) :
    Confined [name] fs (fs.set (dir ++ [name]) (.file content)) := by
  refine confined_of_place rfl rfl hfree ?_ fun place hne => ?_
  · simp [set, HasDirectory]
  · simp [set, hne]

/-- Removing what is no directory changes nothing under other names. -/
theorem confined_unset {fs : FileSystem} {dir : Path} {name : String}
    (hfree : ¬ fs.HasDirectory (dir ++ [name])) :
    Confined [name] fs (fs.unset (dir ++ [name])) := by
  refine confined_of_place rfl rfl hfree ?_ fun place hne => ?_
  · simp [unset, HasDirectory]
  · simp [unset, hne]

/-- No directory comes where something is removed. -/
theorem not_hasDirectory_unset {fs : FileSystem} {place : Path} (h : ¬ fs.HasDirectory place)
    (removed : Path) : ¬ (fs.unset removed).HasDirectory place := by
  simp only [HasDirectory, unset, KeyMap.get?_erase] at h ⊢
  split
  · simp
  · exact h

/-! ## Files with a text -/

/-- No reading of a file is made to fail. -/
def Readable (fs : FileSystem) : Prop := ∀ fault ∈ fs.faults, fault.action ≠ .read

instance (fs : FileSystem) : Decidable fs.Readable := inferInstanceAs (Decidable (∀ _ ∈ _, _))

theorem Readable.of_faults {fs fs' : FileSystem} (h : fs.Readable)
    (hfaults : fs'.faults = fs.faults) : fs'.Readable := by
  unfold Readable
  rw [hfaults]
  exact h

theorem Readable.fault? {fs : FileSystem} (h : fs.Readable) (place : Path) :
    fs.fault? .read place = none := by
  simp only [FileSystem.fault?, List.find?_eq_none]
  intro fault hfault
  simp [h fault hfault]

/-- No file that is there is reported as missing. -/
def Intact (fs : FileSystem) : Prop :=
  ∀ fault ∈ fs.faults, fault.action = .read → fault.cause ≠ .notFound

instance (fs : FileSystem) : Decidable fs.Intact :=
  inferInstanceAs (Decidable (∀ _ ∈ _, _ → _))

theorem Readable.intact {fs : FileSystem} (h : fs.Readable) : fs.Intact :=
  fun fault hfault hread => absurd hread (h fault hfault)

theorem Intact.of_faults {fs fs' : FileSystem} (h : fs.Intact)
    (hfaults : fs'.faults = fs.faults) : fs'.Intact := by
  unfold Intact
  rw [hfaults]
  exact h

theorem Intact.fault?_ne {fs : FileSystem} (h : fs.Intact) {place : Path} {fault : Fault}
    (hfault : fs.fault? .read place = some fault) : fault.cause ≠ .notFound := by
  have hread := List.find?_some hfault
  simp only [decide_eq_true_eq] at hread
  exact h fault (List.mem_of_find?_eq_some hfault) hread.1

/-- A path leads to a file with the given content. -/
def Contains (fs : FileSystem) (path : Path) (content : ByteArray) : Prop :=
  ∃ dir name, fs.locate path = .ok ⟨dir, some name, false⟩ ∧ name.utf8ByteSize ≤ maxNameBytes ∧
    fs.entries.get? (dir ++ [name]) = some (.file content)

/-- A frame that leaves out the name of a file keeps its content. -/
theorem Contains.frame {names : List String} {fs fs' : FileSystem} {path : Path} {name : String}
    {content : ByteArray} (h : fs.Contains path content) (hframe : Frame names fs fs')
    (hlast : path.getLast? = some name) (hname : IsName name) (hout : name ∉ names) :
    fs'.Contains path content := by
  obtain ⟨dir, name', hlocate, hshort, hentry⟩ := h
  obtain ⟨_, hlocation⟩ := locate_name hlast hname hlocate
  obtain ⟨rfl, rfl⟩ : dir = _ ∧ name' = name := by simpa using hlocation
  refine ⟨dir, name', locate_mono hframe.directories hlocate, hshort, hframe.kept _ _ ?_ hentry⟩
  intro other hother heq
  obtain rfl : name' = other := by simpa using heq
  exact hout hother

/-- The same files when something else fails and temporary files get another name. -/
def under (fs : FileSystem) (faults : List Fault) (scratch : Uuid) : FileSystem :=
  { fs with faults, scratch }

theorem Contains.under {fs : FileSystem} {path : Path} {content : ByteArray}
    (h : fs.Contains path content) (faults : List Fault) (scratch : Uuid) :
    (fs.under faults scratch).Contains path content := by
  obtain ⟨dir, name, hlocate, hshort, hentry⟩ := h
  have hdirectories : ∀ place, fs.HasDirectory place →
      (fs.under faults scratch).HasDirectory place := fun _ hdir => hdir
  exact ⟨dir, name, locate_mono hdirectories hlocate, hshort, hentry⟩

theorem Contains.find {fs : FileSystem} {path : Path} {content : ByteArray}
    (h : fs.Contains path content) : fs.find path = .ok (some (.file content)) := by
  obtain ⟨dir, name, hlocate, hshort, hentry⟩ := h
  simp [FileSystem.find, hlocate, lookUp, Location.place, hentry, Nat.not_lt.2 hshort]

/-- A path leads to a file with the given text. -/
def Holds (fs : FileSystem) (path : Path) (text : String) : Prop := fs.Contains path text.toUTF8

namespace Holds

/-- A file that holds a text is read as that text, or its reading is made to fail. -/
theorem readText_cases {fs : FileSystem} {path : Path} {text : String} (h : fs.Holds path text) :
    fs.readText path = .ok text ∨
      ∃ location fault, fs.locate path = .ok location ∧
        fs.fault? .read location.place = some fault ∧
          fs.readText path = .error fault.cause := by
  obtain ⟨dir, name, hlocate, hshort, hentry⟩ := h
  have htext : String.fromUTF8? text.toUTF8 = some text := dif_pos text.isValidUTF8
  cases hfault : fs.fault? .read (dir ++ [name]) with
  | none =>
    have hbytes : fs.readBytes path = .ok text.toUTF8 := by
      simp [readBytes, hlocate, hfault, lookUp, Location.place, hentry, Nat.not_lt.2 hshort]
    exact Or.inl (by simp only [FileSystem.readText, hbytes, htext])
  | some fault =>
    have hbytes : fs.readBytes path = .error fault.cause := by
      simp [readBytes, hlocate, hfault, Location.place]
    exact Or.inr ⟨_, fault, hlocate, hfault, by simp only [FileSystem.readText, hbytes]⟩

/-- A file that holds a text is read as that text. -/
theorem readText {fs : FileSystem} {path : Path} {text : String} (h : fs.Holds path text)
    (hreads : fs.Readable) : fs.readText path = .ok text := by
  rcases h.readText_cases with hread | ⟨location, fault, -, hfault, -⟩
  · exact hread
  · simp [hreads.fault?] at hfault

end Holds

/-! ## Files that are found -/

section

variable {fs : FileSystem} {path : Path} {text : String} {content : ByteArray}

/-- Only a name without a slash behind it leads to a file. -/
theorem lookUp_eq_file {location : Location}
    (h : fs.lookUp location = .ok (some (.file content))) :
    ∃ dir name, location = ⟨dir, some name, false⟩ ∧ name.utf8ByteSize ≤ maxNameBytes ∧
      fs.entries.get? (dir ++ [name]) = some (.file content) := by
  obtain ⟨dir, name, slash⟩ := location
  unfold lookUp at h
  cases name with
  | none => simp at h
  | some name =>
    simp only [Location.place, Option.toList_some] at h
    split at h
    · simp at h
    · next hshort =>
      split at h
      · next hentry =>
        cases slash with
        | true => simp at h
        | false =>
          refine ⟨dir, name, rfl, Nat.not_lt.1 hshort, ?_⟩
          rw [hentry]
          simpa using h
      · next hother => exact absurd (Except.ok.inj h) (hother content)

/-- A path that means a file leads to its content. -/
theorem contains_of_find (h : fs.find path = .ok (some (.file content))) :
    fs.Contains path content := by
  unfold find at h
  cases hlocate : fs.locate path with
  | error cause => simp [hlocate] at h
  | ok location =>
    simp only [hlocate] at h
    obtain ⟨dir, name, rfl, hshort, hentry⟩ := lookUp_eq_file h
    exact ⟨dir, name, hlocate, hshort, hentry⟩

/-- What is read as a text is what the path holds. -/
theorem holds_of_readText (h : fs.readText path = .ok text) : fs.Holds path text := by
  unfold readText readBytes at h
  cases hlocate : fs.locate path with
  | error cause => simp [hlocate] at h
  | ok location =>
    simp only [hlocate] at h
    cases hfault : fs.fault? .read location.place with
    | some fault => simp [hfault] at h
    | none =>
      cases hlook : fs.lookUp location with
      | error cause => simp [hfault, hlook] at h
      | ok entry =>
        rcases entry with _ | content | _
        · simp [hfault, hlook] at h
        · simp only [hfault, hlook] at h
          split at h
          · simp at h
          · next decoded hdecoded =>
            obtain rfl := Except.ok.inj h
            unfold String.fromUTF8? at hdecoded
            split at hdecoded
            · obtain rfl := Option.some.inj hdecoded
              exact contains_of_find (by simp only [find, hlocate, hlook]; rfl)
            · simp at hdecoded
        · simp [hfault, hlook] at h

/-- A file that could be read can be read when it holds another text. -/
theorem readText_of_readText {names : List String} {fs' : FileSystem} {text' : String}
    (hread : fs.readText path = .ok text) (hframe : Frame names fs fs')
    (hheld : fs'.Holds path text') : fs'.readText path = .ok text' := by
  rcases hheld.readText_cases with hread' | ⟨location, fault, hlocate, hfault, -⟩
  · exact hread'
  · -- then the file could not have been read before
    obtain ⟨dir, name, hbefore, -⟩ := holds_of_readText hread
    obtain rfl := Except.ok.inj ((locate_mono hframe.directories hbefore).symm.trans hlocate)
    have hfault' : fs.fault? .read (Location.place ⟨dir, some name, false⟩) = some fault := by
      simpa only [fault?, hframe.faults] using hfault
    simp [readText, readBytes, hbefore, hfault'] at hread

end

/-! ## Writing -/

/-- A path is only opened for writing if it leads to a file, or to a name that is free. -/
theorem openForWriting_ok {fs : FileSystem} {action : FileAction} {path place : Path}
    {content : ByteArray} (h : fs.openForWriting action path = .ok (place, content)) :
    ∃ dir name, fs.locate path = .ok ⟨dir, some name, false⟩ ∧ place = dir ++ [name] ∧
      name.utf8ByteSize ≤ maxNameBytes ∧ ¬ fs.HasDirectory place ∧
      (∀ held, fs.entries.get? place = some (.file held) → content = held) ∧
      (fs.entries.get? place = none → content = ByteArray.empty) := by
  unfold openForWriting at h
  cases hlocate : fs.locate path with
  | error cause => simp [hlocate] at h
  | ok location =>
    simp only [hlocate] at h
    split at h
    · simp at h
    · split at h
      · simp at h
      · next hmeant =>
        obtain ⟨dir, name, slash⟩ := location
        obtain ⟨rfl, hsome⟩ : slash = false ∧ name ≠ none := by simpa using hmeant
        obtain ⟨name, rfl⟩ := Option.ne_none_iff_exists'.1 hsome
        simp only [lookUp, Location.place, Option.toList_some] at h
        split at h
        · simp at h
        · next hlook =>
          split at hlook
          · simp at hlook
          · next hshort =>
            split at hlook
            · simp at hlook
            · simp only [Except.ok.injEq] at hlook
              simp only [Except.ok.injEq, Prod.mk.injEq] at h
              obtain ⟨rfl, rfl⟩ := h
              exact ⟨dir, name, rfl, rfl, Nat.not_lt.1 hshort, by simp [HasDirectory, hlook],
                by simp [hlook], fun _ => rfl⟩
        · simp at h
        · next held hlook =>
          split at hlook
          · simp at hlook
          · next hshort =>
            split at hlook
            · next hentry =>
              simp only [Bool.false_eq_true, if_false, Except.ok.injEq, Option.some.injEq,
                Entry.file.injEq] at hlook
              simp only [Except.ok.injEq, Prod.mk.injEq] at h
              obtain ⟨rfl, rfl⟩ := h
              refine ⟨dir, name, rfl, rfl, Nat.not_lt.1 hshort, by simp [HasDirectory, hentry], ?_,
                by simp [hentry]⟩
              intro other hother
              rw [hentry] at hother
              simpa [hlook] using hother
            · next hother =>
              simp only [Except.ok.injEq] at hlook
              exact absurd hlook (hother held)

/-- A file that was opened has whatever content is put into it. -/
theorem contains_set_of_openForWriting {fs : FileSystem} {action : FileAction} {path place : Path}
    {held : ByteArray} (hopen : fs.openForWriting action path = .ok (place, held))
    (content : ByteArray) : (fs.set place (.file content)).Contains path content := by
  obtain ⟨dir, name, hlocate, rfl, hshort, hfree, -⟩ := openForWriting_ok hopen
  exact ⟨dir, name, locate_mono (confined_set content hfree).forth.directories hlocate, hshort,
    by simp [set]⟩

/-- What is opened under a path that ends in a name is a free place under that name, or a file
there. -/
theorem exists_place_of_openForWriting {fs : FileSystem} {action : FileAction} {path place : Path}
    {name : String} {held : ByteArray} (hlast : path.getLast? = some name) (hname : IsName name)
    (hopen : fs.openForWriting action path = .ok (place, held)) :
    ∃ dir, place = dir ++ [name] ∧ ¬ fs.HasDirectory (dir ++ [name]) := by
  obtain ⟨dir, name', hlocate, rfl, -, hfree, -⟩ := openForWriting_ok hopen
  obtain ⟨_, hlocation⟩ := locate_name hlast hname hlocate
  obtain ⟨-, rfl⟩ : dir = _ ∧ name' = name := by simpa using hlocation
  exact ⟨dir, rfl, hfree⟩

theorem confined_fill {fs : FileSystem} {dir : Path} {name : String} (held content : ByteArray)
    (hfree : ¬ fs.HasDirectory (dir ++ [name])) :
    Confined [name] fs (fs.fill (dir ++ [name]) held content).2 := by
  unfold fill
  split <;> exact confined_set _ hfree

theorem fill_ok {fs fs' : FileSystem} {place : Path} {held content : ByteArray}
    (h : fs.fill place held content = (.ok (), fs')) :
    fs' = fs.set place (.file (held ++ content)) := by
  unfold fill at h
  split at h
  · simp at h
  · exact (congrArg Prod.snd h).symm

/-- Writing to a path that ends in a name changes places under that name only. -/
theorem confined_writeBytes (fs : FileSystem) {path : Path} {name : String} (content : ByteArray)
    (hlast : path.getLast? = some name) (hname : IsName name) :
    Confined [name] fs (fs.writeBytes path content).2 := by
  unfold writeBytes
  split
  · exact .refl _ _
  · next hopen =>
    obtain ⟨dir, rfl, hfree⟩ := exists_place_of_openForWriting hlast hname hopen
    exact confined_fill _ _ hfree

/-- A file that was written holds its new text. -/
theorem holds_of_writeBytes {fs fs' : FileSystem} {path : Path} {text : String}
    (h : fs.writeBytes path text.toUTF8 = (.ok (), fs')) : fs'.Holds path text := by
  unfold writeBytes at h
  split at h
  · simp at h
  · next hopen =>
    rw [fill_ok h, ByteArray.empty_append]
    exact contains_set_of_openForWriting hopen _

theorem confined_appendText (fs : FileSystem) {path : Path} {name : String} (text : String)
    (hlast : path.getLast? = some name) (hname : IsName name) :
    Confined [name] fs (fs.appendText path text).2 := by
  unfold appendText
  split
  · exact .refl _ _
  · next hopen =>
    obtain ⟨dir, rfl, hfree⟩ := exists_place_of_openForWriting hlast hname hopen
    exact confined_fill _ _ hfree

/-- A file is there after a text was written at its end, whatever comes of it. -/
theorem contains_appendText {fs : FileSystem} {path : Path} {content : ByteArray} (text : String)
    (h : fs.Contains path content) :
    ∃ content', (fs.appendText path text).2.Contains path content' := by
  unfold appendText
  split
  · exact ⟨content, h⟩
  · next hopen =>
    unfold fill
    split <;> exact ⟨_, contains_set_of_openForWriting hopen _⟩

/-! ### Texts that are torn -/

/-- The file at `path` is opened, and the writing of a text at its end fails within the text: a part
of the text has been written then, but not all of it. -/
def Tears (fs : FileSystem) (path : Path) (text : String) : Prop :=
  ∃ place held fault, fs.openForWriting .append path = .ok (place, held) ∧
    fs.fault? .fill place = some fault ∧ 0 < fault.written ∧ fault.written < text.utf8ByteSize

/-- Of a text whose writing fails, nothing has been written. -/
def WritesWhole (fs : FileSystem) : Prop :=
  ∀ fault ∈ fs.faults, fault.action = .fill → fault.written = 0

instance (fs : FileSystem) : Decidable fs.WritesWhole :=
  inferInstanceAs (Decidable (∀ _ ∈ _, _ → _))

theorem WritesWhole.not_tears {fs : FileSystem} (h : fs.WritesWhole) (path : Path)
    (text : String) : ¬ fs.Tears path text := by
  rintro ⟨place, held, fault, -, hfault, hpos, -⟩
  have hfill := List.find?_some hfault
  simp only [decide_eq_true_eq] at hfill
  have hzero := h fault (List.mem_of_find?_eq_some hfault) hfill.1
  omega

theorem WritesWhole.of_faults {fs fs' : FileSystem} (h : fs.WritesWhole)
    (hfaults : fs'.faults = fs.faults) : fs'.WritesWhole := by
  unfold WritesWhole
  rw [hfaults]
  exact h

/-- A file that can be opened after a change under other names, or under its own, could have been
opened before. -/
theorem Holds.openForWriting_of_frame {names : List String} {fs fs' : FileSystem} {path : Path}
    {text : String} (h : fs.Holds path text) (hframe : Frame names fs fs') {action : FileAction}
    {place : Path} {held : ByteArray} (hopen : fs'.openForWriting action path = .ok (place, held)) :
    fs.openForWriting action path = .ok (place, text.toUTF8) := by
  obtain ⟨dir, name, hbefore, hshort, hentry⟩ := h
  have hafter := locate_mono hframe.directories hbefore
  obtain ⟨dir', name', hafter', rfl, -⟩ := openForWriting_ok hopen
  obtain ⟨rfl, rfl⟩ : dir = dir' ∧ name = name' := by simpa [hafter] using hafter'
  simp only [openForWriting, hafter, fault?, hframe.faults, Location.place,
    Option.toList_some] at hopen
  simp only [openForWriting, hbefore, fault?, Location.place, Option.toList_some]
  split at hopen
  · simp at hopen
  · simp [lookUp, Location.place, hentry, Nat.not_lt.2 hshort]

/-- What is torn after such a change would have been torn before. -/
theorem Holds.tears_of_frame {names : List String} {fs fs' : FileSystem} {path : Path}
    {text added : String} (h : fs.Holds path text) (hframe : Frame names fs fs')
    (htears : fs'.Tears path added) : fs.Tears path added := by
  obtain ⟨place, held, fault, hopen, hfault, hpart⟩ := htears
  refine ⟨place, _, fault, h.openForWriting_of_frame hframe hopen, ?_, hpart⟩
  simpa only [fault?, hframe.faults] using hfault

/-- Bytes of which at least so many are written are all written. -/
theorem extract_of_size_le {content : ByteArray} {written : Nat} (h : content.size ≤ written) :
    content.extract 0 written = content := by
  apply ByteArray.ext
  rw [ByteArray.data_extract]
  exact Array.extract_eq_self_of_le h

/-- A text that is not torn is written as a whole or not at all, and all of it is there if the
writing does not fail. -/
theorem appendText_cases {fs : FileSystem} {path : Path} {text : String}
    (hwhole : ¬ fs.Tears path text) :
    (∃ cause, fs.appendText path text = (.error cause, fs)) ∨
      ∃ place held part reply, fs.openForWriting .append path = .ok (place, held) ∧
        fs.appendText path text = (reply, fs.set place (.file (held ++ part.toUTF8))) ∧
        (part = text ∨ part = "" ∧ reply ≠ .ok ()) := by
  cases hopen : fs.openForWriting .append path with
  | error cause => exact Or.inl ⟨cause, by simp only [appendText, hopen]⟩
  | ok opened =>
    obtain ⟨place, held⟩ := opened
    refine Or.inr ⟨place, held, ?_⟩
    have happend : fs.appendText path text = fs.fill place held text.toUTF8 := by
      simp only [appendText, hopen]
    rw [happend, fill]
    cases hfault : fs.fault? .fill place with
    | none => exact ⟨text, _, rfl, rfl, Or.inl rfl⟩
    | some fault =>
      by_cases hzero : fault.written = 0
      · exact ⟨"", .error fault.cause, rfl, by simp [hzero], Or.inr ⟨rfl, by simp⟩⟩
      · have hall : text.toUTF8.size ≤ fault.written := by
          by_contra hpart
          refine hwhole ⟨place, held, fault, hopen, hfault, Nat.pos_of_ne_zero hzero, ?_⟩
          rw [← String.size_toByteArray]
          exact Nat.not_le.1 hpart
        exact ⟨text, .error fault.cause, rfl, by simp only [extract_of_size_le hall], Or.inl rfl⟩

/-- The text of a file that is opened is found in it. -/
theorem eq_toUTF8_of_openForWriting {fs : FileSystem} {action : FileAction} {path place : Path}
    {held : ByteArray} {text : String} (h : fs.Holds path text)
    (hopen : fs.openForWriting action path = .ok (place, held)) : held = text.toUTF8 := by
  obtain ⟨dir, name, hlocate, rfl, -, -, hheld, -⟩ := openForWriting_ok hopen
  obtain ⟨dir', name', hlocate', -, hentry⟩ := h
  obtain ⟨rfl, rfl⟩ : dir = dir' ∧ name = name' := by simpa [hlocate] using hlocate'
  exact hheld _ hentry

/-- What a file holds after a text was written behind its own one. -/
theorem holds_set_append {fs : FileSystem} {action : FileAction} {path place : Path}
    {held : ByteArray} {text : String} (h : fs.Holds path text)
    (hopen : fs.openForWriting action path = .ok (place, held)) (added : String) :
    (fs.set place (.file (held ++ added.toUTF8))).Holds path (text ++ added) := by
  have hfile := contains_set_of_openForWriting hopen (held ++ added.toUTF8)
  rw [eq_toUTF8_of_openForWriting h hopen] at hfile ⊢
  simpa [Holds, String.toByteArray_append] using hfile

/-- Whatever comes of the writing of a text at the end of a file, the file holds its old text, or
the new one behind it, unless the new one is torn. -/
theorem holds_appendText {fs : FileSystem} {path : Path} {text added : String}
    (h : fs.Holds path text) (hwhole : ¬ fs.Tears path added) :
    (fs.appendText path added).2.Holds path text ∨
      (fs.appendText path added).2.Holds path (text ++ added) := by
  rcases appendText_cases hwhole with
    ⟨cause, happend⟩ | ⟨place, held, part, reply, hopen, happend, hpart⟩ <;> rw [happend]
  · exact Or.inl h
  · have hheld := holds_set_append h hopen part
    rcases hpart with rfl | ⟨rfl, -⟩
    · exact Or.inr hheld
    · exact Or.inl (by simpa using hheld)

/-- A text that was written at the end of a file is there. -/
theorem holds_of_appendText {fs fs' : FileSystem} {path : Path} {text added : String}
    (h : fs.Holds path text) (happend : fs.appendText path added = (.ok (), fs')) :
    fs'.Holds path (text ++ added) := by
  unfold appendText at happend
  split at happend
  · simp at happend
  · next hopen =>
    rw [fill_ok happend]
    exact holds_set_append h hopen added

/-! ## Names -/

/-- What a location leads to, if it leads to a file under a name. -/
theorem lookUp_file {fs : FileSystem} {dir : Path} {name : String} {content : ByteArray}
    (h : fs.lookUp ⟨dir, some name, false⟩ = .ok (some (.file content))) :
    fs.entries.get? (dir ++ [name]) = some (.file content) := by
  obtain ⟨dir', name', heq, -, hentry⟩ := lookUp_eq_file h
  obtain ⟨rfl, rfl⟩ : dir = dir' ∧ name = name' := by simpa using heq
  exact hentry

/-- What a location does not lead to, if it leads to no directory. -/
theorem lookUp_not_directory {fs : FileSystem} {dir : Path} {name : String}
    {entry : Option Entry} (h : fs.lookUp ⟨dir, some name, false⟩ = .ok entry)
    (hne : entry ≠ some .directory) :
    name.utf8ByteSize ≤ maxNameBytes ∧ ¬ fs.HasDirectory (dir ++ [name]) := by
  simp only [lookUp, Location.place, Option.toList_some] at h
  split at h
  · simp at h
  · next hshort =>
    refine ⟨Nat.not_lt.1 hshort, fun hdir => ?_⟩
    simp only [HasDirectory] at hdir
    rw [hdir] at h
    exact hne (by simpa using h.symm)

/-- A file gets another name or not, and nothing changes if it does not. -/
theorem rename_outcome (fs : FileSystem) (source target : Path) :
    (∃ cause, fs.rename source target = (.error cause, fs)) ∨
      ∃ old new content entry, fs.locate source = .ok old ∧ fs.locate target = .ok new ∧
        fs.lookUp old = .ok (some (.file content)) ∧ fs.lookUp new = .ok entry ∧
        entry ≠ some .directory ∧
        fs.rename source target = (.ok (), (fs.unset old.place).set new.place (.file content)) := by
  unfold rename
  split
  · exact Or.inl ⟨_, rfl⟩
  · exact Or.inl ⟨_, rfl⟩
  · next old new hold hnew =>
    split
    · exact Or.inl ⟨_, rfl⟩
    · split
      · exact Or.inl ⟨_, rfl⟩
      · exact Or.inl ⟨_, rfl⟩
      · exact Or.inl ⟨_, rfl⟩
      · exact Or.inl ⟨_, rfl⟩
      · exact Or.inl ⟨_, rfl⟩
      · next content entry hne hcontent hentry =>
        exact Or.inr ⟨old, new, content, entry, hold, hnew, hcontent, hentry, hne, rfl⟩

/-- A file that is given another name fails to get it and stays, or is found under the new
name. -/
theorem rename_cases (fs : FileSystem) {source target : Path} {a b : String}
    (ha : source.getLast? = some a) (hna : IsName a) (hb : target.getLast? = some b)
    (hnb : IsName b) :
    (∃ cause, fs.rename source target = (.error cause, fs)) ∨
      ∃ fs', fs.rename source target = (.ok (), fs') ∧ Confined [a, b] fs fs' ∧
        ∀ text, fs.Holds source text → fs'.Holds target text := by
  rcases rename_outcome fs source target with
    hfails | ⟨old, new, content, entry, hfrom, hto, hcontent, hentry, hne, hrename⟩
  · exact Or.inl hfails
  · obtain ⟨dir, rfl⟩ := locate_name ha hna hfrom
    obtain ⟨dir', rfl⟩ := locate_name hb hnb hto
    have hheld := lookUp_file hcontent
    obtain ⟨hshort, hfree⟩ := lookUp_not_directory hentry hne
    have hunset : Confined [a] fs (fs.unset (dir ++ [a])) :=
      confined_unset (by simp [HasDirectory, hheld])
    have hfree' := not_hasDirectory_unset hfree (dir ++ [a])
    have hconfined : Confined [a, b] fs _ :=
      (hunset.mono (by simp)).trans ((confined_set content hfree').mono (by simp))
    refine Or.inr ⟨_, hrename, hconfined, ?_⟩
    rintro text ⟨dir₀, name₀, hlocate, -, hentry₀⟩
    obtain ⟨rfl, rfl⟩ : dir = dir₀ ∧ a = name₀ := by simpa [hfrom] using hlocate
    refine ⟨dir', b, locate_mono hconfined.forth.directories hto, hshort, ?_⟩
    rw [hheld] at hentry₀
    simpa [set, Location.place] using hentry₀

theorem confined_removeFile {fs : FileSystem} {path : Path} {name : String}
    (hlast : path.getLast? = some name) (hname : IsName name) :
    Confined [name] fs (fs.removeFile path) := by
  unfold removeFile
  split
  · exact .refl _ _
  · next location hlocate =>
    obtain ⟨dir, rfl⟩ := locate_name hlast hname hlocate
    split
    · next content hcontent =>
      exact confined_unset (by simp [HasDirectory, lookUp_file hcontent])
    · exact .refl _ _

/-! ## One path in two file systems -/

/-- A path leads to the same place in both file systems, and the place holds the same. -/
structure Alike (path : Path) (fs fs' : FileSystem) : Prop where
  faults : fs'.faults = fs.faults
  locate : fs'.locate path = fs.locate path
  entry : ∀ location, fs.locate path = .ok location →
    fs'.entries.get? location.place = fs.entries.get? location.place

namespace Alike

variable {path : Path} {fs fs' : FileSystem} (h : Alike path fs fs')
include h

theorem fault? (action : FileAction) (place : Path) :
    fs'.fault? action place = fs.fault? action place := by
  simp only [FileSystem.fault?, h.faults]

theorem lookUp {location : Location} (hlocate : fs.locate path = .ok location) :
    fs'.lookUp location = fs.lookUp location := by
  simp only [FileSystem.lookUp, h.entry location hlocate]

theorem find : fs'.find path = fs.find path := by
  simp only [FileSystem.find, h.locate]
  cases hlocate : fs.locate path with
  | error cause => rfl
  | ok location => exact h.lookUp hlocate

theorem readText : fs'.readText path = fs.readText path := by
  have hbytes : fs'.readBytes path = fs.readBytes path := by
    simp only [readBytes, h.locate]
    cases hlocate : fs.locate path with
    | error cause => rfl
    | ok location => simp only [h.fault?, h.lookUp hlocate]
  simp only [FileSystem.readText, hbytes]

theorem openForWriting (action : FileAction) :
    fs'.openForWriting action path = fs.openForWriting action path := by
  simp only [FileSystem.openForWriting, h.locate]
  cases hlocate : fs.locate path with
  | error cause => rfl
  | ok location => simp only [h.fault?, h.lookUp hlocate]

end Alike

/-- What is done under other names does not matter to a path that leads to a name. -/
theorem Confined.alike {names : List String} {fs fs' : FileSystem} (h : Confined names fs fs')
    {path : Path} {name : String} (hlast : path.getLast? = some name) (hname : IsName name)
    (hout : name ∉ names) {location : Location} (hlocate : fs'.locate path = .ok location) :
    Alike path fs fs' := by
  have hbefore := locate_mono h.back.directories hlocate
  refine ⟨h.forth.faults, hlocate.trans hbefore.symm, fun other hother => ?_⟩
  obtain ⟨dir, rfl⟩ := locate_name hlast hname hother
  refine h.entry fun taken htaken heq => hout ?_
  obtain rfl : name = taken := by simpa [Location.place] using heq
  exact htaken

/-! ## Directories -/

theorem frame_createDirectory (fs : FileSystem) (path : Path) :
    Frame [] fs (fs.createDirectory path).2 := by
  unfold createDirectory
  split
  · exact Frame.refl _ _
  · next location _ =>
    split
    · exact Frame.refl _ _
    · split
      · exact Frame.refl _ _
      · split
        · exact Frame.refl _ _
        · next hfree =>
          have hnone : fs.entries.get? location.place = none := by
            simpa [KeyMap.contains] using hfree
          have hne : ∀ place entry, fs.entries.get? place = some entry →
              place ≠ location.place := by
            rintro place entry held rfl
            simp [hnone] at held
          refine ⟨rfl, rfl, fun place entry _ held => ?_, fun place held => ?_⟩
          · simpa [set, hne place entry held] using held
          · simpa [set, HasDirectory, hne place _ held] using held

theorem frame_ensureDirectory (fs : FileSystem) (path : Path) :
    Frame [] fs (fs.ensureDirectory path).2 := by
  have hcreate := frame_createDirectory fs path
  unfold ensureDirectory
  split <;> rename_i heq <;> rw [heq] at hcreate
  · split <;> exact hcreate
  · exact hcreate

theorem frame_ensureDirectories (paths : List Path) (fs : FileSystem) :
    Frame [] fs (fs.ensureDirectories paths).2 := by
  induction paths generalizing fs with
  | nil => exact Frame.refl _ _
  | cons path outer ih =>
    have hensure := frame_ensureDirectory fs path
    unfold ensureDirectories
    split
    · next fs' heq =>
      rw [heq] at hensure
      have houter := ih fs'
      split <;> rename_i heq' <;> rw [heq'] at houter
      · exact hensure.trans houter
      · exact (hensure.trans houter).trans (frame_ensureDirectory _ path)
    · exact hensure

/-- Creating directories only adds entries. -/
theorem frame_createDirectories (fs : FileSystem) (path : Path) :
    Frame [] fs (fs.createDirectories path).2 := frame_ensureDirectories _ fs

end TableStore.FileSystem
