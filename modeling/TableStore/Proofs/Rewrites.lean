import TableStore.Proofs.WorkingStores

/-!
# Rewrites are all or nothing

An update or a removal that concerns rows reads the store's file, writes the new contents to a
temporary file, and gives that file the name of the store's file.  Any of these steps can fail.
This module shows that what is left then is what was there before, whatever the store's path is and
whatever lies there: a file of rows, one without a header, one that is no text, a directory, or
nothing.

* Temporary files.  A file is written under a path that led to no file.  `writeBytes_cases` says
  that removing it again gives back the file system as it was.
* Replacements.  `replace_cases` says what replacing a store's file can come to: the old file
  system, or the one in which a single place has a new content.
* Calls.  `rewrites_are_atomic` says this of all calls that read the rows, and that a call that
  finds no row to change does not try to write.

The name of a temporary file is unique, so it is assumed that there is no file of this name before
the call.
-/

namespace TableStore

namespace FileSystem

variable {fs fs' : FileSystem} {path source target place : Path} {content : ByteArray}

/-! ## Temporary files -/

/-- Whether a path means a file. -/
def isFile (fs : FileSystem) (path : Path) : Bool :=
  match fs.find path with
  | .ok (some (.file _)) => true
  | _ => false

theorem isFile_iff :
    fs.isFile path = true ↔ ∃ content, fs.find path = .ok (some (.file content)) := by
  unfold isFile
  split
  · next content hfind => exact ⟨fun _ => ⟨content, hfind⟩, fun _ => rfl⟩
  · next hother =>
    exact ⟨fun h => by simp at h, fun ⟨content, hfind⟩ => absurd hfind (hother content)⟩

theorem Holds.isFile {text : String} (h : fs.Holds path text) : fs.isFile path = true :=
  isFile_iff.2 ⟨_, h.find⟩

/-- Only files are removed. -/
theorem removeFile_of_not_isFile (h : fs.isFile path = false) : fs.removeFile path = fs := by
  unfold removeFile
  split
  · rfl
  · next location hlocate =>
    split
    · next content hlook =>
      have hfile : fs.isFile path = true :=
        isFile_iff.2 ⟨content, by simp only [find, hlocate, hlook]⟩
      simp [h] at hfile
    · rfl

/-- What is written to a place that was free is gone when the place is free again. -/
theorem unset_set (h : fs.entries.get? place = none) (entry : Entry) :
    (fs.set place entry).unset place = fs := by
  simp only [set, unset, KeyMap.erase_insert_of_get?_eq_none entry h]

/-- A path that is opened for writing and means no file leads to a free place. -/
theorem get?_of_openForWriting (hnew : fs.isFile path = false) {action : FileAction}
    (h : fs.openForWriting action path = .ok (place, content)) :
    fs.entries.get? place = none := by
  obtain ⟨dir, name, hlocate, rfl, hshort, hfree, -⟩ := openForWriting_ok h
  cases hentry : fs.entries.get? (dir ++ [name]) with
  | none => rfl
  | some entry =>
    cases entry with
    | directory => exact absurd hentry hfree
    | file held =>
      have hfile : fs.isFile path = true := isFile_iff.2 ⟨held, by
        simp [find, hlocate, lookUp, Location.place, hentry, Nat.not_lt.2 hshort]⟩
      simp [hnew] at hfile

/-- A new file is there, and removing it gives back what was there before. -/
theorem removeFile_set (hnew : fs.isFile path = false) {action : FileAction} {held : ByteArray}
    (h : fs.openForWriting action path = .ok (place, held)) (content : ByteArray) :
    (fs.set place (.file content)).removeFile path = fs := by
  have hempty := get?_of_openForWriting hnew h
  obtain ⟨dir, name, hlocate, rfl, hshort, hfree, -⟩ := openForWriting_ok h
  have hlocate' := locate_mono (confined_set content hfree).forth.directories hlocate
  have hlook : (fs.set (dir ++ [name]) (.file content)).lookUp ⟨dir, some name, false⟩ =
      .ok (some (.file content)) := by
    simp [lookUp, Location.place, set, Nat.not_lt.2 hshort]
  simp only [removeFile, hlocate', hlook, Location.place, Option.toList_some]
  exact unset_set hempty _

/-- A new file is written or not.  What is left of it if not, a removal takes away. -/
theorem writeBytes_cases (hnew : fs.isFile path = false) (content : ByteArray) :
    (∃ cause fs', fs.writeBytes path content = (.error cause, fs') ∧ fs'.removeFile path = fs) ∨
      ∃ place held, fs.openForWriting .create path = .ok (place, held) ∧
        fs.writeBytes path content = (.ok (), fs.set place (.file content)) := by
  unfold writeBytes
  split
  · next cause _ => exact Or.inl ⟨cause, fs, rfl, removeFile_of_not_isFile hnew⟩
  · next place held hopen =>
    unfold fill
    split
    · next fault _ => exact Or.inl ⟨fault.cause, _, rfl, removeFile_set hnew hopen _⟩
    · exact Or.inr ⟨place, held, hopen, by rw [ByteArray.empty_append]⟩

/-! ## More failures -/

/-- The file system in which more actions are made to fail. -/
def hinder (fs : FileSystem) (more : List Fault) : FileSystem :=
  { fs with faults := more ++ fs.faults }

theorem fault?_hinder {more : List Fault} {action : FileAction}
    (h : ∀ fault ∈ more, fault.action ≠ action) (place : Path) :
    (fs.hinder more).fault? action place = fs.fault? action place := by
  have hnone : (more.find? fun fault => fault.action = action ∧ fault.place = place) = none :=
    List.find?_eq_none.2 fun fault hfault => by simp [h fault hfault]
  simp only [fault?, hinder, List.find?_append, hnone, Option.none_or]

theorem walk_congr (h : fs'.entries = fs.entries) (dir : Path) :
    fs'.walk dir path = fs.walk dir path := by
  induction path generalizing dir with
  | nil => rfl
  | cons part rest ih =>
    have henter : fs'.enter dir part = fs.enter dir part := by simp only [enter, h]
    simp only [walk, henter, ih]

/-- Where a path leads depends only on what the places hold. -/
theorem locate_congr (h : fs'.entries = fs.entries) : fs'.locate path = fs.locate path := by
  simp only [locate, walk_congr h]

/-- What is read depends only on what the places hold and on which of them cannot be read. -/
theorem readText_congr (hentries : fs'.entries = fs.entries)
    (hfaults : ∀ place, fs'.fault? .read place = fs.fault? .read place) :
    fs'.readText path = fs.readText path := by
  have hlook (location : Location) : fs'.lookUp location = fs.lookUp location := by
    simp only [lookUp, hentries]
  simp only [readText, readBytes, locate_congr hentries, hfaults, hlook]

/-- What is read does not depend on whether anything can be written. -/
theorem readText_hinder {more : List Fault} (h : ∀ fault ∈ more, fault.action ≠ .read) :
    (fs.hinder more).readText path = fs.readText path :=
  readText_congr rfl (fault?_hinder h)

end FileSystem

namespace RecordStore

variable {store : RecordStore} {fs fs' : FileSystem}

/-! ## Replacements -/

/-- **A store's file is replaced wholly or not at all.** -/
theorem replace_cases {α : Type} (hnew : fs.isFile (store.scratchPath fs.scratch) = false)
    (contents : Contents) (value : α) :
    (∃ e, store.replace contents value fs = (.error e, fs)) ∨
      ∃ location, fs.locate store.path = .ok location ∧
        store.replace contents value fs =
          (.ok value, fs.set location.place (.file contents.text.toUTF8)) := by
  rcases FileSystem.writeBytes_cases hnew contents.text.toUTF8 with
    ⟨cause, written, hwrite, hremove⟩ | ⟨place, held, hopen, hwrite⟩
  · exact Or.inl ⟨_, by simp only [replace, hwrite, hremove]; rfl⟩
  · have hremove := FileSystem.removeFile_set hnew hopen contents.text.toUTF8
    have hempty := FileSystem.get?_of_openForWriting hnew hopen
    obtain ⟨dir, name, hlocate, rfl, -, hfree, -⟩ := FileSystem.openForWriting_ok hopen
    have hconfined := FileSystem.confined_set contents.text.toUTF8 hfree
    rcases FileSystem.rename_outcome
        (fs.set (dir ++ [name]) (.file contents.text.toUTF8)) (store.scratchPath fs.scratch)
        store.path with
      ⟨cause, hrename⟩ | ⟨old, new, content, -, hold, hnew', hlook, -, -, hrename⟩
    · exact Or.inl ⟨_, by simp only [replace, hwrite, hrename, hremove]; rfl⟩
    · -- the file that gets the name is the one that was written
      have hsame := FileSystem.locate_mono hconfined.forth.directories hlocate
      obtain rfl := Except.ok.inj (hsame.symm.trans hold)
      have hcontent := FileSystem.lookUp_file hlook
      obtain rfl : contents.text.toUTF8 = content := by simpa [FileSystem.set] using hcontent
      refine Or.inr ⟨new, FileSystem.locate_mono hconfined.back.directories hnew', ?_⟩
      simp only [replace, hwrite, hrename, Location.place, Option.toList_some,
        FileSystem.unset_set hempty]

/-- The new contents of a store's file bring no temporary file with them. -/
theorem isFile_scratchPath_set (hnew : fs.isFile (store.scratchPath fs.scratch) = false)
    (hfile : fs.isFile store.path = true) {location : Location}
    (hlocate : fs.locate store.path = .ok location) (content : ByteArray) :
    (fs.set location.place (.file content)).isFile (store.scratchPath fs.scratch) = false := by
  obtain ⟨held, hfind⟩ := FileSystem.isFile_iff.1 hfile
  simp only [FileSystem.find, hlocate] at hfind
  obtain ⟨dir, name, rfl, hshort, hentry⟩ := FileSystem.lookUp_eq_file hfind
  have hfree : ¬ fs.HasDirectory (dir ++ [name]) := by simp [FileSystem.HasDirectory, hentry]
  obtain ⟨last, hlast, hname⟩ := FileSystem.LeadsToFile.getLast? ⟨dir, name, hlocate, hshort, hfree⟩
  obtain ⟨_, heq⟩ := FileSystem.locate_name hlast hname hlocate
  obtain rfl : name = last := by simpa using congrArg Location.name heq
  have hout : scratchName fs.scratch name ∉ [name] := by
    intro hmem
    have hlength := length_scratchName fs.scratch name
    rw [List.mem_singleton.1 hmem] at hlength
    omega
  cases hscratch :
      (fs.set (dir ++ [name]) (.file content)).locate (store.scratchPath fs.scratch) with
  | error cause =>
    simp only [FileSystem.isFile, FileSystem.find, Location.place, Option.toList_some, hscratch]
  | ok found =>
    have halike := (FileSystem.confined_set content hfree).alike
      (getLast?_scratchPath fs.scratch hlast hname) (isName_scratchName _ _) hout hscratch
    simp only [FileSystem.isFile, Location.place, Option.toList_some, halike.find]
    exact hnew

/-! ## Calls -/

theorem contents_hinder {more : List Fault} (h : ∀ fault ∈ more, fault.action ≠ .read) :
    store.contents (fs.hinder more) = store.contents fs := by
  simp only [contents, FileSystem.readText_hinder h]

/-- **Calls that read the rows are all or nothing.**  If one fails, all files are what they were.
If one finds no row to change, they are as well, and it would have answered the same if nothing
could be written.  Otherwise the store's file has a new content, and nothing else has changed.  A
temporary file does not stay behind in any case. -/
theorem rewrites_are_atomic (id : ReplicaId)
    (hnew : fs.isFile (store.scratchPath fs.scratch) = false) {kind : ReplyKind}
    {call : NodeCall kind} (hcall : call.reads = true) :
    (StorageNode.run ⟨id, store⟩ call fs).2.isFile (store.scratchPath fs.scratch) = false ∧
      (∀ e fs', StorageNode.run ⟨id, store⟩ call fs = (.error e, fs') → fs' = fs) ∧
      ∀ value fs', StorageNode.run ⟨id, store⟩ call fs = (.ok value, fs') →
        if call.isIdle value then
          fs' = fs ∧ ∀ more : List Fault, (∀ fault ∈ more, fault.action ≠ .read) →
            StorageNode.run ⟨id, store⟩ call (fs.hinder more) = (.ok value, fs.hinder more)
        else
          ∃ location content, fs.locate store.path = .ok location ∧
            fs' = fs.set location.place (.file content) := by
  simp only [StorageNode.run_of_reads hcall]
  cases hread : store.contents fs with
  | error e =>
    refine ⟨hnew, fun _ _ h => (congrArg Prod.snd h).symm, fun _ _ h => by simp at h⟩
  | ok contents =>
    simp only
    by_cases hidle : call.isIdle (call.onRows store.columns contents.rows).1 = true
    · simp only [if_pos hidle]
      refine ⟨hnew, fun _ _ h => by simp at h, fun value fs' h => ?_⟩
      obtain ⟨rfl, rfl⟩ : _ = value ∧ fs = fs' := by simpa using h
      rw [if_pos hidle]
      refine ⟨rfl, fun more hmore => ?_⟩
      simp only [contents_hinder hmore, hread, if_pos hidle]
    · simp only [if_neg hidle]
      obtain ⟨text, htext⟩ := exists_readText hcall hread hidle
      have hfile := (FileSystem.holds_of_readText htext).isFile
      rcases replace_cases hnew
          { contents with rows := (call.onRows store.columns contents.rows).2 }
          (call.onRows store.columns contents.rows).1 with
        ⟨e, hreplace⟩ | ⟨location, hlocate, hreplace⟩
      · rw [hreplace]
        exact ⟨hnew, fun _ _ h => (congrArg Prod.snd h).symm, fun _ _ h => by simp at h⟩
      · rw [hreplace]
        refine ⟨isFile_scratchPath_set hnew hfile hlocate _, fun _ _ h => by simp at h,
          fun value fs' h => ?_⟩
        obtain ⟨rfl, rfl⟩ : _ = value ∧ _ = fs' := by simpa using h
        rw [if_neg hidle]
        exact ⟨location, _, hlocate, rfl⟩

/-- A store of pupils. -/
def pupils : RecordStore := ⟨["data", "pupils.csv"], some ["id", "name"]⟩

/-- The files of the pupils, on a disk that is almost full: the temporary file can be opened, but
only a few bytes can be written to it. -/
def fullDisk : FileSystem where
  entries := ((∅ : KeyMap Path Entry).insert ["data"] .directory).insert ["data", "pupils.csv"]
    (.file "id,name\n1,Ida,\n2,Ola,\n".toUTF8)
  faults := [⟨.fill, ["data", "temp-00000000-0000-0000-0000-000000000000-pupils.csv"],
    .other "No space left on device (os error 28)", 9⟩]
  scratch := ⟨0⟩

/-- On a full disk a pupil cannot be renamed, and nothing is left of the temporary file. -/
theorem rewrites_are_atomic_fullDisk : ∃ e,
    StorageNode.run ⟨⟨"pupils", .sql, 0, 0⟩, pupils⟩ (.update ["name"] ["Eva"] ⟨"id", "1"⟩)
      fullDisk = (.error e, fullDisk) := by
  have hfails : (StorageNode.run ⟨⟨"pupils", .sql, 0, 0⟩, pupils⟩
      (.update ["name"] ["Eva"] ⟨"id", "1"⟩) fullDisk).1.isOk = false := by decide
  have hatomic : ∀ e fs', StorageNode.run ⟨⟨"pupils", .sql, 0, 0⟩, pupils⟩
      (.update ["name"] ["Eva"] ⟨"id", "1"⟩) fullDisk = (.error e, fs') → fs' = fullDisk :=
    (rewrites_are_atomic ⟨"pupils", .sql, 0, 0⟩ (by decide) rfl).2.1
  cases hrun : StorageNode.run ⟨⟨"pupils", .sql, 0, 0⟩, pupils⟩
      (.update ["name"] ["Eva"] ⟨"id", "1"⟩) fullDisk with
  | mk reply files =>
    cases reply with
    | ok positions => simp [hrun, Except.isOk, Except.toBool] at hfails
    | error e =>
      rw [hatomic e files hrun]
      exact ⟨e, rfl⟩

end RecordStore

end TableStore
