import TableStore.Proofs.WorkingStores

/-!
# Calls by condition and calls by positions

A row that is split over several stores is found by its condition in one of them and by its
position in the others.  The stores stay aligned because both ways come to the same: the positions
that a call by condition answers, taken to a copy of the file, make of the copy what that call made
of the file.

* Rows.  `onRows_atPositions` compares both calls on a list of rows, whatever the rows are.
* Files.  `readText_of_run` says what a call that reads the rows has made of the file if it
  succeeded, and `run_of_contents` when it succeeds.
* `run_atPositions` is the result for files.  It is about every file that can be read, with short
  rows, empty lines or a key without a value in it, and also about a file that is missing.
-/

namespace TableStore

/-! ## Rows -/

namespace NodeCall

/-- The call that names the rows by their positions in place of a condition. -/
def atPositions (positions : List Nat) : NodeCall .positions → NodeCall .count
  | .update names values _ => .updateAt positions names values
  | .delete _ => .deleteAt positions

variable {call : NodeCall .positions} {positions : List Nat}

theorem reads_of_positions (call : NodeCall .positions) : call.reads = true := by
  cases call <;> rfl

theorem reads_atPositions : (call.atPositions positions).reads = true := by
  cases call <;> rfl

/-- The positions that a call answers are those of the rows with some property. -/
theorem exists_positionsOf (columns : Option (List String)) (call : NodeCall .positions)
    (rows : List String) : ∃ p, (call.onRows columns rows).1 = Row.positionsOf p rows := by
  cases call with
  | update names values condition => exact ⟨Row.satisfies columns condition, rfl⟩
  | delete condition => exact ⟨Row.satisfies columns condition, rfl⟩

/-- At the positions that a call by condition answers, the call by positions concerns as many rows
as there are positions, and leaves the same rows. -/
theorem onRows_atPositions (columns : Option (List String)) (call : NodeCall .positions)
    (rows : List String) :
    (call.atPositions (call.onRows columns rows).1).onRows columns rows =
      ((call.onRows columns rows).1.length, (call.onRows columns rows).2) := by
  cases call with
  | update names values condition =>
    simp only [atPositions, onRows, Row.matching_eq_positionsOf, Row.filter_positionsOf]
  | delete condition =>
    -- as many rows go as there are positions, because no position is named twice
    have hnodup : (Row.positionsOf (Row.satisfies columns condition) rows).Nodup :=
      (Row.positionsOf_pairwise _ rows).imp Nat.ne_of_lt
    simp only [atPositions, onRows, Row.matching_eq_positionsOf, Row.length_removeAt hnodup,
      Row.filter_positionsOf]

/-- Both calls leave the file alone in the same cases. -/
theorem isIdle_atPositions (found : List Nat) :
    (call.atPositions positions).isIdle found.length = call.isIdle found := by
  cases call <;> cases found <;> rfl

end NodeCall

/-! ## Files -/

namespace RecordStore

open FileSystem (Confined)

variable {store : RecordStore} {fs fs' : FileSystem} {contents : Contents}

/-- What a store finds depends on the text of its file and on its columns. -/
theorem contents_of_readText {copy : RecordStore} {files : FileSystem}
    (hcolumns : copy.columns = store.columns)
    (hread : files.readText copy.path = fs.readText store.path)
    (h : store.contents fs = .ok contents) : copy.contents files = .ok contents := by
  have hparse : copy.parse? = store.parse? := by
    funext text
    simp only [parse?, hcolumns]
  unfold RecordStore.contents at h ⊢
  rw [hread, hparse]
  split <;> rename_i heq <;> simp only [heq] at h
  · exact h
  · simp at h
  · cases htext : store.parse? _ <;> simp only [htext] at h ⊢
    · simp at h
    · exact h

/-- Contents that were put in the place of a file that could be read can be read. -/
theorem readText_of_replace {α : Type} {value value' : α} {text : String} {next : Contents}
    (hread : fs.readText store.path = .ok text)
    (h : store.replace next value fs = (.ok value', fs')) :
    fs'.readText store.path = .ok next.text := by
  have hheld := FileSystem.holds_of_readText hread
  obtain ⟨name, hlast, hname⟩ := hheld.leadsToFile.getLast?
  have hconfined : Confined [name, scratchName fs.scratch name] fs _ :=
    confined_replace hlast hname next value
  rcases replace_of_holds hlast hname hheld next value with
    ⟨e, after, hfails, -⟩ | ⟨after, hdone, hnew⟩
  · simp [hfails] at h
  · obtain ⟨-, rfl⟩ : value = value' ∧ after = fs' := by simpa [hdone] using h
    rw [hdone] at hconfined
    exact FileSystem.readText_of_readText hread hconfined.forth hnew

end RecordStore

namespace StorageNode

variable {node : StorageNode} {fs fs' : FileSystem} {kind : ReplyKind} {call : NodeCall kind}

/-- What a call that reads the rows answers, and what the store's file is read as afterwards. -/
theorem readText_of_run (hcall : call.reads = true) {value : kind.Value}
    (h : node.run call fs = (.ok value, fs')) :
    ∃ contents, node.store.contents fs = .ok contents ∧
      value = (call.onRows node.store.columns contents.rows).1 ∧
      fs'.readText node.store.path =
        if call.isIdle value then fs.readText node.store.path
        else .ok (Contents.text
          { contents with rows := (call.onRows node.store.columns contents.rows).2 }) := by
  obtain ⟨contents, hread, rfl, hafter⟩ := RecordStore.run_ok_of_reads hcall h
  refine ⟨contents, hread, rfl, ?_⟩
  split at hafter
  · next hidle => rw [hafter, if_pos hidle]
  · next hidle =>
    obtain ⟨text, htext⟩ := RecordStore.exists_readText hcall hread hidle
    rw [if_neg hidle]
    exact RecordStore.readText_of_replace htext hafter

/-- A node whose store works and can be read carries out every call on the rows. -/
theorem run_of_contents (hcall : call.reads = true) (hworks : node.store.Works fs)
    {contents : Contents} (hread : node.store.contents fs = .ok contents) :
    ∃ fs', node.run call fs = (.ok (call.onRows node.store.columns contents.rows).1, fs') := by
  rw [run_of_reads hcall, hread]
  simp only
  split
  · exact ⟨fs, rfl⟩
  · next hidle =>
    obtain ⟨text, htext⟩ := RecordStore.exists_readText hcall hread hidle
    have hheld := FileSystem.holds_of_readText htext
    obtain ⟨name, hlast, hname⟩ := hheld.leadsToFile.getLast?
    obtain ⟨fs', hreplace, -⟩ := RecordStore.replace_of_works hworks hlast hname hheld
      { contents with rows := (call.onRows node.store.columns contents.rows).2 }
      (call.onRows node.store.columns contents.rows).1
    exact ⟨fs', hreplace⟩

/-- The call by the positions that a call answered does the same to the same files. -/
theorem run_atPositions_of_run {call : NodeCall .positions} {positions : List Nat}
    (h : node.run call fs = (.ok positions, fs')) :
    node.run (call.atPositions positions) fs = (.ok positions.length, fs') := by
  obtain ⟨contents, hread, rfl, hafter⟩ := RecordStore.run_ok_of_reads call.reads_of_positions h
  rw [run_of_reads NodeCall.reads_atPositions, hread]
  simp only [NodeCall.onRows_atPositions, NodeCall.isIdle_atPositions]
  split at hafter
  · next hidle => rw [if_pos hidle, hafter]
  · next hidle =>
    rw [if_neg hidle]
    exact (RecordStore.replace_of_ok hafter).2 _

/-- **Calls by condition and calls by positions agree.**  The positions that a call by condition
answers are in ascending order and lie within the store's rows.  The call by these positions does
the same to the same files.  On a copy of the store's file, wherever that lies, it is carried out if
the store of the copy works, and leaves the same text there; it answers the number of the
positions. -/
theorem run_atPositions {call : NodeCall .positions} {positions : List Nat}
    (h : node.run call fs = (.ok positions, fs')) :
    positions.Pairwise (· < ·) ∧
      (∃ rows, node.store.select fs = .ok rows ∧ ∀ position ∈ positions, position < rows.length) ∧
      node.run (call.atPositions positions) fs = (.ok positions.length, fs') ∧
      ∀ (copy : StorageNode) (files : FileSystem), copy.store.columns = node.store.columns →
        files.readText copy.store.path = fs.readText node.store.path → copy.store.Works files →
        ∃ files', copy.run (call.atPositions positions) files = (.ok positions.length, files') ∧
          files'.readText copy.store.path = fs'.readText node.store.path := by
  obtain ⟨contents, hcontents, rfl, hafter⟩ := readText_of_run call.reads_of_positions h
  have hagree := call.onRows_atPositions node.store.columns contents.rows
  obtain ⟨p, hp⟩ := call.exists_positionsOf node.store.columns contents.rows
  refine ⟨hp ▸ Row.positionsOf_pairwise p contents.rows, ⟨contents.rows, ?_, ?_⟩, ?_, ?_⟩
  · simp only [RecordStore.select, hcontents]
    rfl
  · intro position hposition
    rw [hp] at hposition
    exact Row.lt_length_of_mem_positionsOf hposition
  · exact run_atPositions_of_run h
  · intro copy files hcolumns hread hworks
    have hcopy := RecordStore.contents_of_readText hcolumns hread hcontents
    obtain ⟨files', hrun⟩ : ∃ files',
        copy.run (call.atPositions (call.onRows node.store.columns contents.rows).1) files =
          (.ok _, files') := run_of_contents NodeCall.reads_atPositions hworks hcopy
    obtain ⟨found, hfound, -, hafter'⟩ := readText_of_run NodeCall.reads_atPositions hrun
    obtain rfl := Except.ok.inj (hcopy.symm.trans hfound)
    rw [hcolumns, hagree] at hrun hafter'
    refine ⟨files', hrun, ?_⟩
    rw [hafter', hafter, NodeCall.isIdle_atPositions, hread]

/-- A node with the members of a club. -/
def members : StorageNode := ⟨⟨"members", .sql, 0, 0⟩, ⟨["members.csv"], some ["id", "name"]⟩⟩

/-- A node with a copy of the members' file. -/
def membersCopy : StorageNode := ⟨⟨"members", .sql, 0, 1⟩, ⟨["copy.csv"], some ["id", "name"]⟩⟩

/-- The files of both nodes.  There is an empty line in them, and rows without a name. -/
def ragged : FileSystem :=
  let content := "id,name\n1,Ida,\n\n2\n1\n".toUTF8
  { entries := ((∅ : KeyMap Path Entry).insert ["members.csv"] (.file content)).insert ["copy.csv"]
      (.file content)
    faults := []
    scratch := ⟨0⟩ }

/-- The first and the third member get a new name, in the file and in its copy. -/
theorem run_atPositions_ragged : ∃ fs' files',
    members.run (.update ["name"] ["Eva"] ⟨"id", "1"⟩) ragged = (.ok [0, 2], fs') ∧
      membersCopy.run (.updateAt [0, 2] ["name"] ["Eva"]) ragged = (.ok 2, files') ∧
      files'.readText ["copy.csv"] = fs'.readText ["members.csv"] := by
  obtain ⟨fs', hrun⟩ : ∃ fs',
      members.run (.update ["name"] ["Eva"] ⟨"id", "1"⟩) ragged = (.ok [0, 2], fs') :=
    ⟨_, Prod.ext (by decide) rfl⟩
  obtain ⟨files', hcopy, hsame⟩ := (run_atPositions hrun).2.2.2 membersCopy ragged rfl
    (by decide) ⟨rfl, by decide⟩
  exact ⟨fs', files', hrun, hcopy, hsame⟩

end StorageNode

end TableStore
