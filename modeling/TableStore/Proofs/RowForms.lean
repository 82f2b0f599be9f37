import TableStore.Proofs.Effects
import TableStore.Proofs.Runs
import TableStore.Proofs.WorkingStores

/-!
# Values in the place of rows

A store keeps its rows as text, which it reads again at every call.  A `RowForm` says how values of
some type are written as rows: which values satisfy a condition, and what assignments make of a
value, with the proof that the same is true of the lines.  `NodeCall.onForm` says what a call does
to a list of values; nothing in it is about separators, lines or files.

* `onRows_form` compares a call on lines with the call on values.
* `RecordStore.Shows` relates a store to a list of values, and `Shows.call` is the comparison for
  one call on the store.
* `RecordStore.runs_as_values` is the comparison for all runs, from the store's creation on.
-/

namespace TableStore

/-- How values are written as the rows of a store with the given columns. -/
structure RowForm (columns : Option (List String)) (α : Type) where
  /-- The line that a value is written as. -/
  line : α → String
  /-- Whether a value satisfies a condition. -/
  meets : Predicate → α → Bool
  /-- The value after assignments, the first one first. -/
  assign : List (String × String) → α → α
  /-- The value that an insertion adds. -/
  ofRequest : List String → List String → α
  /-- Whether a value can be written and read again. -/
  IsWritten : α → Prop
  isLine_header : ∀ names ∈ columns, Text.IsLine (Row.renderHeader names)
  isRow_line : ∀ {value}, IsWritten value → RecordStore.IsRow (line value)
  satisfies_line : ∀ {value} (condition), IsWritten value →
    Row.satisfies columns condition (line value) = meets condition value
  assign_line : ∀ {value} (assignments), IsWritten value →
    Row.assign columns assignments (line value) = line (assign assignments value)
  compose_line : ∀ names values, Row.compose columns names values = line (ofRequest names values)

variable {columns : Option (List String)} {α : Type}

/-! ## Calls -/

namespace NodeCall

/-- The answer to a call on values, and the values afterwards. -/
def onForm (form : RowForm columns α) {kind : ReplyKind} (call : NodeCall kind) (rows : List α) :
    kind.Value × List α :=
  match call with
  | .select => (rows.map form.line, rows)
  | .insert names values => ((), rows ++ [form.ofRequest names values])
  | .update names values condition =>
    (Row.positionsOf (form.meets condition) rows,
      rows.map fun row =>
        if form.meets condition row then form.assign (names.zip values) row else row)
  | .updateAt positions names values =>
    ((positions.filter (· < rows.length)).length,
      rows.mapIdx fun position row =>
        if position ∈ positions then form.assign (names.zip values) row else row)
  | .delete condition =>
    (Row.positionsOf (form.meets condition) rows,
      rows.filter fun row => !form.meets condition row)
  | .deleteAt positions =>
    ((positions.filter (· < rows.length)).length,
      (rows.zipIdx.filter fun row => row.2 ∉ positions).map Prod.fst)
  | .heartbeat => ((), rows)

end NodeCall

/-- What a call writes can be written, and it does not name a position to remove twice. -/
def RowForm.Admits (form : RowForm columns α) {kind : ReplyKind} : NodeCall kind → Prop
  | .insert names values => form.IsWritten (form.ofRequest names values)
  | .update names values _ | .updateAt _ names values =>
    ∀ row, form.IsWritten row → form.IsWritten (form.assign (names.zip values) row)
  | .deleteAt positions => positions.Nodup
  | .select | .delete _ | .heartbeat => True

namespace NodeCall

variable {form : RowForm columns α} {rows : List α} {kind : ReplyKind} {call : NodeCall kind}

/-- On the lines of values, a call does what it does to the values. -/
theorem onRows_form (hwritten : ∀ row ∈ rows, form.IsWritten row) (hadmits : form.Admits call) :
    call.onRows columns (rows.map form.line) =
      ((call.onForm form rows).1, (call.onForm form rows).2.map form.line) := by
  have hmatching (condition : Predicate) :
      Row.matching columns condition (rows.map form.line) =
        Row.positionsOf (form.meets condition) rows := by
    rw [Row.matching_eq_positionsOf, Row.positionsOf_map]
    exact Row.positionsOf_congr fun row hrow => form.satisfies_line condition (hwritten row hrow)
  cases call with
  | select => rfl
  | heartbeat => rfl
  | insert names values =>
    simp only [onRows, onForm, List.map_append, List.map_singleton, form.compose_line]
  | update names values condition =>
    simp only [onRows, onForm, hmatching, Row.assignAt_positionsOf, List.map_map]
    congr 1
    refine List.map_congr_left fun row hrow => ?_
    rw [form.assign_line _ (hwritten row hrow), Function.comp_apply, apply_ite form.line]
  | updateAt positions names values =>
    simp only [onRows, onForm, List.length_map]
    congr 1
    refine List.ext_getElem (by simp [Row.assignAt]) fun i hi _ => ?_
    have hlt : i < rows.length := by simpa [Row.assignAt] using hi
    simp only [Row.assignAt, List.getElem_mapIdx, List.getElem_map, List.mem_filter, hlt,
      decide_true, and_true]
    rw [form.assign_line _ (hwritten _ (List.getElem_mem hlt)), apply_ite form.line]
  | delete condition =>
    simp only [onRows, onForm, hmatching, Row.removeAt_positionsOf]
  | deleteAt positions =>
    have hcount := Row.length_removeAt hadmits (rows.map form.line)
    rw [List.length_map] at hcount
    rw [onRows, onForm]
    dsimp only
    rw [List.length_map, hcount]
    congr 1
    simp [Row.removeAt, List.zipIdx_map, List.filter_map, Function.comp_def]

/-- What is written stays so. -/
theorem isWritten_onForm (hwritten : ∀ row ∈ rows, form.IsWritten row)
    (hadmits : form.Admits call) : ∀ row ∈ (call.onForm form rows).2, form.IsWritten row := by
  intro row hrow
  cases call with
  | select => exact hwritten row hrow
  | heartbeat => exact hwritten row hrow
  | insert names values =>
    rcases List.mem_append.1 hrow with hold | hnew
    · exact hwritten row hold
    · rw [List.mem_singleton.1 hnew]
      exact hadmits
  | update names values condition =>
    obtain ⟨old, hold, rfl⟩ := List.mem_map.1 hrow
    split
    · exact hadmits old (hwritten old hold)
    · exact hwritten old hold
  | updateAt positions names values =>
    obtain ⟨i, hi, rfl⟩ := List.mem_mapIdx.1 hrow
    split
    · exact hadmits _ (hwritten _ (List.getElem_mem hi))
    · exact hwritten _ (List.getElem_mem hi)
  | delete condition => exact hwritten row (List.mem_filter.1 hrow).1
  | deleteAt positions =>
    obtain ⟨entry, hentry, rfl⟩ := List.mem_map.1 hrow
    have hfound := List.mem_zipIdx_iff_getElem?.1 (List.mem_filter.1 hentry).1
    exact hwritten _ (List.mem_of_getElem? hfound)

end NodeCall

/-! ## Stores -/

namespace RecordStore

/-- The store works, and its file holds the header, if there is one, and the lines of the values. -/
structure Shows (form : RowForm columns α) (store : RecordStore) (fs : FileSystem)
    (rows : List α) : Prop where
  under : store.columns = columns
  held : fs.Holds store.path (fileText columns (rows.map form.line))
  works : store.Works fs
  written : ∀ row ∈ rows, form.IsWritten row

/-- The files after a call on the store of the node `id`. -/
def filesAfter (store : RecordStore) (id : ReplicaId) (fs : FileSystem) (call : AnyCall) :
    FileSystem := (StorageNode.run ⟨id, store⟩ call.2 fs).2

/-- The values after a call. -/
def rowsAfter (form : RowForm columns α) (rows : List α) (call : AnyCall) : List α :=
  (call.2.onForm form rows).2

variable {form : RowForm columns α} {rows : List α} {store : RecordStore} {fs fs' : FileSystem}
  {path : Path}

/-- A new store that works has no values. -/
theorem shows_of_create (form : RowForm columns α)
    (hcreate : create path columns fs = (.ok store, fs')) (hworks : store.Works fs') :
    Shows form store fs' [] := by
  obtain ⟨rfl, hheld⟩ := create_ok hcreate
  exact ⟨rfl, hheld, hworks, by simp⟩

/-- **A store carries out a call as a list of values does.** -/
theorem Shows.call (h : Shows form store fs rows) {kind : ReplyKind} {call : NodeCall kind}
    (hadmits : form.Admits call) (id : ReplicaId) :
    ∃ fs', StorageNode.run ⟨id, store⟩ call fs = (.ok (call.onForm form rows).1, fs') ∧
      Shows form store fs' (call.onForm form rows).2 := by
  obtain ⟨name, hlast, hname⟩ := h.held.leadsToFile.getLast?
  have hrows : ∀ line ∈ rows.map form.line, IsRow line := by
    intro line hline
    obtain ⟨row, hrow, rfl⟩ := List.mem_map.1 hline
    exact form.isRow_line (h.written row hrow)
  have hheader : ∀ names ∈ store.columns, Text.IsLine (Row.renderHeader names) :=
    h.under ▸ form.isLine_header
  have hperform := perform_fileText call hheader hrows
  rw [h.under, NodeCall.onRows_form h.written hadmits] at hperform
  have hnode : (StorageNode.mk id store).store.Works fs := h.works
  obtain ⟨fs', hrun, hheld, hworks⟩ := run_of_works hnode hlast hname h.held hperform
  exact ⟨fs', hrun, h.under, hheld, hworks, NodeCall.isWritten_onForm h.written hadmits⟩

/-- So it does in a run of calls. -/
theorem Shows.calls (id : ReplicaId) {calls : List AnyCall}
    (hadmits : ∀ call ∈ calls, form.Admits call.2) (h : Shows form store fs rows) :
    Shows form store (run (store.filesAfter id) fs calls) (run (rowsAfter form) rows calls) := by
  induction calls generalizing fs rows with
  | nil => exact h
  | cons call rest ih =>
    obtain ⟨hfirst, hrest⟩ := List.forall_mem_cons.1 hadmits
    obtain ⟨fs', hrun, hafter⟩ := h.call hfirst id
    have hfiles : store.filesAfter id fs call = fs' := by rw [filesAfter, hrun]
    refine ih hrest ?_
    rw [hfiles]
    exact hafter

/-- **A new store behaves like a list of values**, whatever is called. -/
theorem runs_as_values (form : RowForm columns α)
    (hcreate : create path columns fs = (.ok store, fs')) (hworks : store.Works fs')
    (id : ReplicaId) {calls : List AnyCall} (hadmits : ∀ call ∈ calls, form.Admits call.2) :
    let rows := run (rowsAfter form) [] calls
    let files := run (store.filesAfter id) fs' calls
    Shows form store files rows ∧
      ∀ {kind : ReplyKind} {call : NodeCall kind}, form.Admits call →
        (StorageNode.run ⟨id, store⟩ call files).1 = .ok (call.onForm form rows).1 := by
  intro rows files
  have hafter := (shows_of_create form hcreate hworks).calls id hadmits
  refine ⟨hafter, fun hcall => ?_⟩
  obtain ⟨_, hrun, -⟩ := hafter.call hcall id
  rw [hrun]

end RecordStore

end TableStore
