import TableStore.Proofs.PairRows
import TableStore.Proofs.Rewrites

/-!
# What an insertion adds

An insertion writes one line at the end of a store's file and reads nothing.  A selection afterwards
finds the rows that there were and the new one, if there was a file, or if the store has no columns.

* `RecordStore.WrittenBy` lists the states in which nobody but the store has written to its file,
  and no row was torn in it.  Then all lines of the file are ended (`WrittenBy.endsLines`), whatever
  else was made to fail.  A row that is torn has no end, and the next one would go on where it broke
  off.
* `select_of_insert` is the result.  It also says what happens in a store with columns whose file
  has disappeared: the row becomes the first line of a new file and is read as its header, so that
  it is not found.  `insertions_can_be_lost` shows this in a store that was created for it.
-/

namespace TableStore

open FileSystem (Confined)

namespace FileSystem

variable {fs fs' : FileSystem} {path : Path}

/-- A file that is not there is opened with nothing in it. -/
theorem eq_empty_of_openForWriting (hnew : fs.isFile path = false) {action : FileAction}
    {place : Path} {held : ByteArray} (hopen : fs.openForWriting action path = .ok (place, held)) :
    held = ByteArray.empty := by
  obtain ⟨dir, name, -, -, -, -, -, hempty⟩ := openForWriting_ok hopen
  exact hempty (get?_of_openForWriting hnew hopen)

/-- What was put into a file that was not there is all that it holds. -/
theorem holds_of_not_isFile (hnew : fs.isFile path = false) {action : FileAction} {place : Path}
    {held : ByteArray} (hopen : fs.openForWriting action path = .ok (place, held)) (text : String) :
    (fs.set place (.file (held ++ text.toUTF8))).Holds path text := by
  have hfile := contains_set_of_openForWriting hopen (held ++ text.toUTF8)
  rw [eq_empty_of_openForWriting hnew hopen] at hfile ⊢
  simpa [Holds] using hfile

/-- A text that was written at the end of a file that was not there is all that the file holds. -/
theorem holds_of_appendText_of_not_isFile (hnew : fs.isFile path = false) {text : String}
    (happend : fs.appendText path text = (.ok (), fs')) : fs'.Holds path text := by
  unfold appendText at happend
  split at happend
  · simp at happend
  · next hopen =>
    rw [fill_ok happend]
    exact holds_of_not_isFile hnew hopen text

end FileSystem

namespace Row

/-! ## New rows -/

/-- The row of an insertion can be read back, if there is something in it and no text is divided. -/
theorem isRow_compose {columns : Option (List String)} {names values : List String}
    (hcolumns : columns ≠ some []) (hpairs : columns = none → names.zip values ≠ [])
    (hfields : ∀ field ∈ names ++ values, IsUnbroken field) :
    RecordStore.IsRow (compose columns names values) := by
  cases columns with
  | none =>
    refine PairRow.isRow_line ⟨hpairs rfl, fun pair hpair => ?_⟩
    obtain ⟨hname, hvalue⟩ := List.of_mem_zip hpair
    exact ⟨hfields _ (List.mem_append_left _ hname), hfields _ (List.mem_append_right _ hvalue)⟩
  | some columns =>
    have hne : layOut columns names values ≠ [] := by simpa [layOut] using hcolumns
    refine RecordStore.isRow_render hne fun field hfield => ?_
    obtain ⟨column, -, rfl⟩ := List.mem_map.1 hfield
    rcases valueOf_mem_or names values column with hvalue | hempty
    · exact (hfields _ (List.mem_append_right _ hvalue)).2
    · rw [hempty]
      decide

end Row

namespace RecordStore

variable {store : RecordStore} {fs fs' : FileSystem} {names values rows : List String}

/-- One more row is read as one more row, behind the header if there is one. -/
theorem parse?_concat {text row : String} {contents : Contents} (hended : Text.IsEnded text)
    (hrow : IsRow row) (h : store.parse? text = some contents) :
    store.parse? (text ++ (row ++ "\n")) =
      some { contents with rows := contents.rows ++ [row] } := by
  have hlines : Text.lines (text ++ (row ++ "\n")) = Text.lines text ++ [row] := by
    rw [Text.lines_append hended, Text.lines_line hrow.1]
  have hkeep : [row].filter (fun line => decide (line ≠ "")) = [row] :=
    List.filter_eq_self.2 (by simpa using hrow.2)
  obtain ⟨path, columns⟩ := store
  unfold parse? at h ⊢
  simp only [hlines] at h ⊢
  cases columns with
  | none =>
    obtain rfl := Option.some.inj h
    simp only [List.filter_append, hkeep]
  | some columns =>
    cases hold : Text.lines text with
    | nil => simp [hold] at h
    | cons header lines =>
      simp only [hold] at h
      obtain rfl := Option.some.inj h
      simp only [List.cons_append, List.filter_append, hkeep]

/-! ## Files that the store alone has written -/

/-- The states of a file system in which a store was created and nobody else has written to its
file.  Calls may have failed, but not within a row that they added.  The file may have disappeared,
and whatever else there is may have changed. -/
inductive WrittenBy (store : RecordStore) : FileSystem → Prop
  | created {fs fs' : FileSystem} (h : create store.path store.columns fs = (.ok store, fs')) :
    WrittenBy store fs'
  | called {fs : FileSystem} (h : WrittenBy store fs) (id : ReplicaId) {kind : ReplyKind}
    (call : NodeCall kind) (hwhole : ¬ call.Tears store fs) :
    WrittenBy store (StorageNode.run ⟨id, store⟩ call fs).2
  | spared {fs fs' : FileSystem} (h : WrittenBy store fs)
    (hsame : fs'.find store.path = fs.find store.path) :
    WrittenBy store fs'
  | gone {fs fs' : FileSystem} (h : WrittenBy store fs) (hgone : fs'.isFile store.path = false) :
    WrittenBy store fs'

/-- All lines of a file that there is are ended. -/
def EndsLines (store : RecordStore) (fs : FileSystem) : Prop :=
  fs.isFile store.path = true → ∃ text, Text.IsEnded text ∧ fs.Holds store.path text

theorem EndsLines.of_holds {text : String} (hended : Text.IsEnded text)
    (hheld : fs.Holds store.path text) : store.EndsLines fs := fun _ => ⟨text, hended, hheld⟩

/-- What calls make of a text has all its lines ended. -/
theorem isEnded_perform {text text' : String} (h : Text.IsEnded text) {kind : ReplyKind}
    {call : NodeCall kind} {value : kind.Value}
    (hperform : call.perform store text = some (value, text')) : Text.IsEnded text' := by
  have hreads : call.reads = true → Text.IsEnded text' := by
    intro hcall
    rw [NodeCall.perform_of_reads hcall] at hperform
    obtain ⟨contents, -, heq⟩ := Option.map_eq_some_iff.1 hperform
    obtain ⟨-, rfl⟩ := Prod.mk.inj heq
    split
    · exact h
    · exact Text.isEnded_unlines _
  cases call with
  | insert names values =>
    obtain ⟨-, rfl⟩ : () = value ∧ _ = text' := by simpa [NodeCall.perform] using hperform
    exact h.concat _
  | heartbeat =>
    obtain ⟨-, rfl⟩ : () = value ∧ text = text' := by simpa [NodeCall.perform] using hperform
    exact h
  | _ => exact hreads rfl

/-- A store without a file has no rows. -/
theorem rows_of_not_isFile {contents : Contents} (h : store.contents fs = .ok contents)
    (hnew : fs.isFile store.path = false) : contents.rows = [] := by
  rcases contents_ok h with hnil | ⟨text, htext, -⟩
  · exact hnil
  · simp [(FileSystem.holds_of_readText htext).isFile] at hnew

/-- A call on a store without a file leaves it so, or makes a file with one line or none. -/
theorem endsLines_run_of_not_isFile (id : ReplicaId) {kind : ReplyKind} (call : NodeCall kind)
    (hnew : fs.isFile store.path = false) (hwhole : ¬ call.Tears store fs) :
    store.EndsLines (StorageNode.run ⟨id, store⟩ call fs).2 := by
  have hstays : store.EndsLines fs := fun hfile => by simp [hnew] at hfile
  have hreads : call.reads = true →
      store.EndsLines (StorageNode.run ⟨id, store⟩ call fs).2 := by
    intro hcall
    rw [StorageNode.run_of_reads hcall]
    cases hread : store.contents fs with
    | error e => exact hstays
    | ok contents =>
      simp only [rows_of_not_isFile hread hnew, if_pos (NodeCall.isIdle_nil hcall _)]
      exact hstays
  cases call with
  | insert names values =>
    obtain ⟨reply, hrun, -⟩ := run_insert ⟨id, store⟩ names values fs
    rw [hrun]
    rcases FileSystem.appendText_cases hwhole with
      ⟨cause, happend⟩ | ⟨place, held, part, reply, hopen, happend, hpart⟩ <;> rw [happend]
    · exact hstays
    · refine .of_holds ?_ (FileSystem.holds_of_not_isFile hnew hopen part)
      rcases hpart with rfl | ⟨rfl, -⟩
      · simpa [Text.unlines] using Text.isEnded_unlines [Row.compose store.columns names values]
      · exact Text.isEnded_unlines []
  | heartbeat => exact hstays
  | _ => exact hreads rfl

/-- **All lines of a file that the store alone has written are ended.** -/
theorem WrittenBy.endsLines (h : store.WrittenBy fs) : store.EndsLines fs := by
  induction h with
  | created h => exact .of_holds (Text.isEnded_unlines _) (create_ok h).2
  | @called fs _ id kind call hwhole ih =>
    cases hfile : fs.isFile store.path with
    | false => exact endsLines_run_of_not_isFile id call hfile hwhole
    | true =>
      obtain ⟨text, hended, hheld⟩ := ih hfile
      obtain ⟨name, hlast, hname⟩ := hheld.leadsToFile.getLast?
      obtain ⟨text', htext, hheld'⟩ :=
        @holds_run ⟨id, store⟩ _ _ _ _ call hlast hname hheld hwhole
      refine .of_holds ?_ hheld'
      rcases htext with rfl | ⟨value, hperform⟩
      · exact hended
      · exact isEnded_perform hended hperform
  | @spared fs fs' _ hsame ih =>
    intro hfile
    obtain ⟨text, hended, hheld⟩ := ih (by simpa only [FileSystem.isFile, hsame] using hfile)
    exact ⟨text, hended, FileSystem.contains_of_find (hsame.trans hheld.find)⟩
  | gone _ hgone => exact fun hfile => by simp [hgone] at hfile

/-! ## Insertions -/

/-- If a store could be read, no reading of its file is made to fail. -/
theorem fault?_of_contents (hintact : fs.Intact) {contents : Contents}
    (h : store.contents fs = .ok contents) {location : Location}
    (hlocate : fs.locate store.path = .ok location) : fs.fault? .read location.place = none := by
  cases hfault : fs.fault? .read location.place with
  | none => rfl
  | some fault =>
    have hread : fs.readText store.path = .error fault.cause := by
      simp only [FileSystem.readText, FileSystem.readBytes, hlocate, hfault]
    have hne := hintact.fault?_ne hfault
    unfold RecordStore.contents at h
    split at h
    · next heq => exact absurd (Except.error.inj (hread.symm.trans heq)) hne
    · simp at h
    · next heq => simp [hread] at heq

/-- If a store could be read, it can be read when its file holds another text. -/
theorem readText_of_contents (hintact : fs.Intact) {contents : Contents}
    (hcontents : store.contents fs = .ok contents) {names : List String}
    (hconfined : Confined names fs fs') {text : String} (hheld : fs'.Holds store.path text) :
    fs'.readText store.path = .ok text := by
  rcases hheld.readText_cases with hread | ⟨location, fault, hlocate, hfault, -⟩
  · exact hread
  · have hbefore := FileSystem.locate_mono hconfined.back.directories hlocate
    have hfault' : fs.fault? .read location.place = some fault := by
      simpa only [FileSystem.fault?, hconfined.forth.faults] using hfault
    rw [fault?_of_contents hintact hcontents hbefore] at hfault'
    simp at hfault'

/-- What is found after a text was added to the file of a store that could be read. -/
theorem select_of_appendText (hintact : fs.Intact) {contents next : Contents}
    (hcontents : store.contents fs = .ok contents) {added text : String}
    (happend : fs.appendText store.path added = (.ok (), fs')) (hheld : fs'.Holds store.path text)
    (hparse : store.parse? text = some next) : store.select fs' = .ok next.rows := by
  obtain ⟨name, hlast, hname⟩ := hheld.leadsToFile.getLast?
  have hconfined := FileSystem.confined_appendText fs added hlast hname
  rw [happend] at hconfined
  have hread := readText_of_contents hintact hcontents hconfined hheld
  simp only [select, RecordStore.contents, hread, hparse]
  rfl

/-- A line that is added to a file that is there is found as the last row. -/
theorem select_of_isFile (hintact : fs.Intact) {contents : Contents}
    (hcontents : store.contents fs = .ok contents) (hlines : store.EndsLines fs)
    (hfile : fs.isFile store.path = true) {row : String} (hrow : IsRow row)
    (happend : fs.appendText store.path (row ++ "\n") = (.ok (), fs')) :
    store.select fs' = .ok (contents.rows ++ [row]) := by
  obtain ⟨text, hended, hheld⟩ := hlines hfile
  have hparse : store.parse? text = some contents := by
    rcases contents_cases hheld with ⟨found, hparse, hread⟩ | ⟨e, hread⟩ | ⟨hmissing, -⟩
    · rw [hparse, Except.ok.inj (hread.symm.trans hcontents)]
    · simp [hread] at hcontents
    · exact absurd hintact hmissing
  exact select_of_appendText hintact hcontents happend
    (FileSystem.holds_of_appendText hheld happend) (parse?_concat hended hrow hparse)

/-- A line that is the first one of a file is a row if no header is expected, and a header
otherwise. -/
theorem select_of_not_isFile (hintact : fs.Intact) {contents : Contents}
    (hcontents : store.contents fs = .ok contents) (hnew : fs.isFile store.path = false)
    {row : String} (hrow : IsRow row)
    (happend : fs.appendText store.path (row ++ "\n") = (.ok (), fs')) :
    store.select fs' = .ok (if store.columns = none then [row] else []) := by
  have hlines := Text.lines_line hrow.1
  have hparse : ∃ header, store.parse? (row ++ "\n") =
      some ⟨header, if store.columns = none then [row] else []⟩ := by
    unfold parse?
    cases store.columns with
    | none => exact ⟨none, by simp [hlines, hrow.2]⟩
    | some columns => exact ⟨some row, by simp [hlines]⟩
  obtain ⟨header, hparse⟩ := hparse
  exact select_of_appendText hintact hcontents happend
    (FileSystem.holds_of_appendText_of_not_isFile hnew happend) hparse

theorem contents_of_select (h : store.select fs = .ok rows) :
    ∃ contents, store.contents fs = .ok contents ∧ contents.rows = rows := by
  cases hread : store.contents fs with
  | error e => simp [select, hread, Except.map] at h
  | ok contents => exact ⟨contents, rfl, by simpa [select, hread, Except.map] using h⟩

theorem appendText_of_insert (h : store.insert names values fs = (.ok (), fs')) :
    fs.appendText store.path (Row.compose store.columns names values ++ "\n") = (.ok (), fs') := by
  unfold insert at h
  split at h
  · simp at h
  · next happend => rw [happend, (Prod.mk.inj h).2]

/-- **A selection finds the rows that were there and the one that was inserted**, if there was a
file or the store has no columns.  Otherwise the row is the only line of the new file and is taken
for its header. -/
theorem select_of_insert (hwritten : store.WrittenBy fs) (hintact : fs.Intact)
    (hcolumns : store.columns ≠ some []) (hpairs : store.columns = none → names.zip values ≠ [])
    (hfields : ∀ field ∈ names ++ values, Row.IsUnbroken field)
    (hselect : store.select fs = .ok rows)
    (hinsert : store.insert names values fs = (.ok (), fs')) :
    (fs.isFile store.path = true ∨ store.columns = none →
      store.select fs' = .ok (rows ++ [Row.compose store.columns names values])) ∧
    (fs.isFile store.path = false → store.columns ≠ none → store.select fs' = .ok []) := by
  have hrow := Row.isRow_compose hcolumns hpairs hfields
  have happend := appendText_of_insert hinsert
  obtain ⟨contents, hcontents, rfl⟩ := contents_of_select hselect
  cases hfile : fs.isFile store.path with
  | true =>
    have hfound := select_of_isFile hintact hcontents hwritten.endsLines hfile hrow happend
    exact ⟨fun _ => hfound, fun h => by simp at h⟩
  | false =>
    have hfound := select_of_not_isFile hintact hcontents hfile hrow happend
    refine ⟨fun h => ?_, fun _ hsome => by rw [hfound, if_neg hsome]⟩
    have hnone : store.columns = none := h.resolve_left (by simp)
    rw [hfound, if_pos hnone, rows_of_not_isFile hcontents hfile, List.nil_append]

/-- A store of students. -/
def students : RecordStore := ⟨["students.csv"], some ["id", "name"]⟩

/-- The files after the store of students was created. -/
def newTerm : FileSystem := (create students.path students.columns .empty).2

theorem writtenBy_newTerm : students.WrittenBy newTerm := by
  have hcreate : create students.path students.columns .empty = (.ok students, newTerm) :=
    Prod.ext (by decide) rfl
  exact .created hcreate

/-- The files after the students' file has disappeared. -/
def lostTerm : FileSystem := newTerm.removeFile students.path

theorem writtenBy_lostTerm : students.WrittenBy lostTerm :=
  writtenBy_newTerm.gone (by decide)

/-- The first student of a new store is found. -/
theorem select_of_insert_students : ∃ fs',
    students.insert ["name", "id"] ["Ida", "1"] newTerm = (.ok (), fs') ∧
      students.select fs' = .ok ["1,Ida,"] :=
  ⟨_, Prod.ext (by decide) rfl,
    (select_of_insert writtenBy_newTerm (by decide) (by decide) (by decide) (by decide)
      (by decide : students.select newTerm = .ok [])
      (Prod.ext (by decide) rfl)).1 (Or.inl (by decide))⟩

/-- **Insertions can be lost**: a student that is inserted after the file has disappeared is not
found, because the row takes the place of the header. -/
theorem insertions_can_be_lost :
    ¬ ∀ (store : RecordStore) (fs fs' : FileSystem) (names values rows : List String),
      store.WrittenBy fs → fs.Intact → store.columns ≠ some [] →
      (store.columns = none → names.zip values ≠ []) →
      (∀ field ∈ names ++ values, Row.IsUnbroken field) →
      store.select fs = .ok rows → store.insert names values fs = (.ok (), fs') →
      store.select fs' = .ok (rows ++ [Row.compose store.columns names values]) := by
  intro h
  have hfound := h students lostTerm _ ["name", "id"] ["Ida", "1"] [] writtenBy_lostTerm (by decide)
    (by decide) (by decide) (by decide) (by decide) (Prod.ext (by decide) rfl)
  revert hfound
  decide

end RecordStore

end TableStore
