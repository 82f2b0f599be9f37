import TableStore.Proofs.LogicalRows
import TableStore.Proofs.RowForms

/-!
# Stores as lists of tuples

A store with columns keeps its rows as text, which it reads again at every call.  Here it is
compared with a list of tuples, each with one value for every column.  `NodeCall.onTuples` says
what a call does to such a list; nothing in it is about separators, lines or files.

* `Tuple.form` shows that tuples are a form of rows.  It uses that they are slices of logical rows
  (`exists_row`), for which conditions and assignments are known.
* `RecordStore.Represents` relates a store to a list of tuples, and `Represents.call` is the
  comparison for one call on the store.
* `RecordStore.runs_as_tuples` is the comparison for all runs, from the store's creation on.
-/

namespace TableStore

/-- Columns that a store can have: there is one at least, none is there twice, and each can be
written in a header. -/
structure Row.IsSchema (columns : List String) : Prop where
  ne_nil : columns ≠ []
  nodup : columns.Nodup
  isField : ∀ column ∈ columns, isField column = true

/-- A row as one value for every column. -/
abbrev Tuple (columns : List String) := Fin columns.length → String

namespace Tuple

variable {columns : List String}

/-! ## Tuples -/

/-- The line that a tuple is written as. -/
def line (tuple : Tuple columns) : String := Row.render (List.ofFn tuple)

/-- The tuple of a request: each column has the value at its first occurrence in the request, or
the empty text. -/
def ofRequest (columns names values : List String) : Tuple columns := fun i =>
  (((names.zip values).find? fun field => field.1 = columns[i]).map Prod.snd).getD ""

/-- Whether the column of a condition is there and has the value. -/
def meets (condition : Predicate) (tuple : Tuple columns) : Bool :=
  decide (∃ i : Fin columns.length, columns[i] = condition.column ∧ tuple i = condition.value)

/-- The tuple after one assignment. -/
def assignOne (tuple : Tuple columns) (field : String × String) : Tuple columns :=
  fun i => if columns[i] = field.1 then field.2 else tuple i

/-- The tuple after assignments, the first one first. -/
def assign (assignments : List (String × String)) (tuple : Tuple columns) : Tuple columns :=
  assignments.foldl assignOne tuple

/-- Whether all values can be written. -/
def IsWritten (tuple : Tuple columns) : Prop := ∀ i, isField (tuple i) = true

/-- The part of a logical row under the columns. -/
def ofRow (columns : List String) (row : LogicalRow) : Tuple columns := fun i => row columns[i]

end Tuple

namespace NodeCall

/-- The answer to a call on tuples, and the tuples afterwards. -/
def onTuples {columns : List String} {kind : ReplyKind} (call : NodeCall kind)
    (tuples : List (Tuple columns)) : kind.Value × List (Tuple columns) :=
  match call with
  | .select => (tuples.map Tuple.line, tuples)
  | .insert names values => ((), tuples ++ [Tuple.ofRequest columns names values])
  | .update names values condition =>
    (Row.positionsOf (Tuple.meets condition) tuples,
      tuples.map fun tuple =>
        if tuple.meets condition then tuple.assign (names.zip values) else tuple)
  | .updateAt positions names values =>
    ((positions.filter (· < tuples.length)).length,
      tuples.mapIdx fun position tuple =>
        if position ∈ positions then tuple.assign (names.zip values) else tuple)
  | .delete condition =>
    (Row.positionsOf (Tuple.meets condition) tuples,
      tuples.filter fun tuple => !tuple.meets condition)
  | .deleteAt positions =>
    ((positions.filter (· < tuples.length)).length,
      (tuples.zipIdx.filter fun tuple => tuple.2 ∉ positions).map Prod.fst)
  | .heartbeat => ((), tuples)

/-- The values that a call writes can be fields, and it does not name a position to remove
twice. -/
def IsPlain {kind : ReplyKind} : NodeCall kind → Prop
  | .insert _ values | .update _ values _ | .updateAt _ _ values =>
    ∀ value ∈ values, isField value = true
  | .deleteAt positions => positions.Nodup
  | .select | .delete _ | .heartbeat => True

instance {kind : ReplyKind} (call : NodeCall kind) : Decidable call.IsPlain := by
  cases call <;> unfold IsPlain <;> infer_instance

end NodeCall

namespace Tuple

variable {columns : List String} {tuple : Tuple columns}

/-! ## Tuples as slices of logical rows -/

theorem line_ofRow (row : LogicalRow) : (ofRow columns row).line = row.slice columns := by
  rw [line, LogicalRow.slice]
  congr 1
  exact List.ext_getElem (by simp) fun i _ _ => by simp [ofRow]

/-- A tuple is part of a logical row. -/
theorem exists_row (hnodup : columns.Nodup) (hwritten : tuple.IsWritten) :
    ∃ row : LogicalRow, row.IsWritten ∧ ofRow columns row = tuple := by
  refine ⟨fun column =>
    if h : column ∈ columns then tuple ⟨columns.idxOf column, List.idxOf_lt_length_iff.2 h⟩
    else "", fun column => ?_, ?_⟩
  · dsimp only
    split
    · exact hwritten _
    · rfl
  · funext i
    have hmem : columns[i] ∈ columns := List.getElem_mem _
    simp only [ofRow, dif_pos hmem]
    congr 1
    exact Fin.ext (hnodup.idxOf_getElem i i.isLt)

theorem ofRow_assign (assignments : List (String × String)) (row : LogicalRow) :
    ofRow columns (row.assign assignments) = (ofRow columns row).assign assignments := by
  induction assignments generalizing row with
  | nil => rfl
  | cons field rest ih =>
    have hfield : ofRow columns (Function.update row field.1 field.2) =
        (ofRow columns row).assignOne field := by
      funext i
      simp only [ofRow, assignOne, Function.update_apply]
    rw [LogicalRow.assign_cons, ih, hfield]
    rfl

theorem ofRow_valueOf (names values : List String) :
    ofRow columns (Row.valueOf names values) = ofRequest columns names values := by
  funext i
  exact Row.valueOf_eq_find? names values columns[i]

theorem meets_ofRow {condition : Predicate} {row : LogicalRow} :
    (ofRow columns row).meets condition =
      (decide (condition.column ∈ columns) && row.satisfies condition) := by
  rw [meets, LogicalRow.satisfies, ← Bool.decide_and]
  refine decide_eq_decide.2 ⟨?_, ?_⟩
  · rintro ⟨i, hcolumn, hvalue⟩
    rw [← hcolumn]
    exact ⟨List.getElem_mem _, hvalue⟩
  · rintro ⟨hmem, hvalue⟩
    obtain ⟨i, hi, hcolumn⟩ := List.mem_iff_getElem.1 hmem
    exact ⟨⟨i, hi⟩, hcolumn, by rw [ofRow]; exact hcolumn ▸ hvalue⟩

/-! ## Lines of tuples -/

section

variable (hschema : Row.IsSchema columns)
include hschema

theorem isRow_line (hwritten : tuple.IsWritten) : RecordStore.IsRow tuple.line := by
  obtain ⟨row, hrow, rfl⟩ := exists_row hschema.nodup hwritten
  rw [line_ofRow]
  exact LogicalRow.isRow_slice hschema.ne_nil hrow

theorem satisfies_line {condition : Predicate} (hwritten : tuple.IsWritten) :
    Row.satisfies (some columns) condition tuple.line = tuple.meets condition := by
  obtain ⟨row, hrow, rfl⟩ := exists_row hschema.nodup hwritten
  rw [line_ofRow, meets_ofRow]
  by_cases hmem : condition.column ∈ columns
  · rw [LogicalRow.satisfies_slice hmem hrow]
    simp [hmem]
  · have hnone : columns.idxOf? condition.column = none := List.idxOf?_eq_none_iff.2 hmem
    simp [Row.satisfies, Row.fieldsMatch, hnone, hmem]

theorem assign_line (assignments : List (String × String)) (hwritten : tuple.IsWritten) :
    Row.assign (some columns) assignments tuple.line = (tuple.assign assignments).line := by
  obtain ⟨row, hrow, rfl⟩ := exists_row hschema.nodup hwritten
  rw [line_ofRow, LogicalRow.assign_slice hschema.ne_nil hschema.nodup assignments hrow,
    ← ofRow_assign, line_ofRow]

end

theorem compose_line (columns names values : List String) :
    Row.compose (some columns) names values = (ofRequest columns names values).line := by
  rw [← ofRow_valueOf, line_ofRow]
  rfl

/-! ## What is written stays so -/

theorem isWritten_ofRequest {names values : List String}
    (h : ∀ value ∈ values, isField value = true) :
    (ofRequest columns names values).IsWritten := by
  rw [← ofRow_valueOf]
  exact fun i => LogicalRow.isWritten_valueOf h columns[i]

theorem IsWritten.assign (h : tuple.IsWritten) {names values : List String}
    (hvalues : ∀ value ∈ values, isField value = true) :
    (tuple.assign (names.zip values)).IsWritten := by
  have hfields : ∀ field ∈ names.zip values, isField field.2 = true :=
    fun field hfield => hvalues _ (List.of_mem_zip hfield).2
  generalize names.zip values = assignments at hfields
  induction assignments generalizing tuple with
  | nil => exact h
  | cons field rest ih =>
    obtain ⟨hfield, hrest⟩ := List.forall_mem_cons.1 hfields
    refine ih (fun i => ?_) hrest
    rw [assignOne]
    split
    · exact hfield
    · exact h i

end Tuple

/-! ## Tuples as a form of rows -/

/-- Tuples are written as rows. -/
def Tuple.form {columns : List String} (hschema : Row.IsSchema columns) :
    RowForm (some columns) (Tuple columns) where
  line := line
  meets := meets
  assign := assign
  ofRequest := ofRequest columns
  IsWritten := IsWritten
  isLine_header names hnames := by
    obtain rfl := Option.some.inj hnames
    exact isLine_header hschema.isField
  isRow_line := isRow_line hschema
  satisfies_line _ := satisfies_line hschema
  assign_line assignments := assign_line hschema assignments
  compose_line := compose_line columns

namespace NodeCall

variable {columns : List String} {kind : ReplyKind}

theorem onForm_tuples (hschema : Row.IsSchema columns) (call : NodeCall kind)
    (tuples : List (Tuple columns)) :
    call.onForm (Tuple.form hschema) tuples = call.onTuples tuples := by
  cases call <;> rfl

theorem IsPlain.admits {call : NodeCall kind} (hplain : call.IsPlain)
    (hschema : Row.IsSchema columns) : (Tuple.form hschema).Admits call := by
  cases call with
  | insert names values => exact Tuple.isWritten_ofRequest hplain
  | update names values condition => exact fun _ htuple => Tuple.IsWritten.assign htuple hplain
  | updateAt positions names values => exact fun _ htuple => Tuple.IsWritten.assign htuple hplain
  | _ => exact hplain

end NodeCall

namespace RecordStore

/-! ## Stores -/

/-- The store works, and its file holds the header and the lines of the tuples. -/
structure Represents {columns : List String} (store : RecordStore) (fs : FileSystem)
    (tuples : List (Tuple columns)) : Prop where
  under : store.columns = some columns
  held : fs.Holds store.path (Text.unlines (Row.renderHeader columns :: tuples.map Tuple.line))
  works : store.Works fs
  written : ∀ tuple ∈ tuples, tuple.IsWritten

/-- The tuples after a call. -/
def tuplesAfter {columns : List String} (tuples : List (Tuple columns)) (call : AnyCall) :
    List (Tuple columns) := (call.2.onTuples tuples).2

variable {columns : List String} {store : RecordStore} {fs fs' : FileSystem}
  {tuples : List (Tuple columns)} {path : Path}

/-- A new store that works has no tuples. -/
theorem represents_of_create (hcreate : create path (some columns) fs = (.ok store, fs'))
    (hworks : store.Works fs') : store.Represents fs' ([] : List (Tuple columns)) := by
  obtain ⟨rfl, hheld⟩ := create_ok hcreate
  exact ⟨rfl, hheld, hworks, by simp⟩

theorem represents_iff_shows (hschema : Row.IsSchema columns) :
    store.Represents fs tuples ↔ Shows (Tuple.form hschema) store fs tuples :=
  ⟨fun h => ⟨h.under, h.held, h.works, h.written⟩, fun h => ⟨h.under, h.held, h.works, h.written⟩⟩

/-- **A store carries out a call as a list of tuples does.** -/
theorem Represents.call (hschema : Row.IsSchema columns) (h : store.Represents fs tuples)
    {kind : ReplyKind} {call : NodeCall kind} (hplain : call.IsPlain) (id : ReplicaId) :
    ∃ fs', StorageNode.run ⟨id, store⟩ call fs = (.ok (call.onTuples tuples).1, fs') ∧
      store.Represents fs' (call.onTuples tuples).2 := by
  simp only [represents_iff_shows hschema, ← NodeCall.onForm_tuples hschema] at h ⊢
  exact h.call (hplain.admits hschema) id

/-- So it does in a run of calls. -/
theorem Represents.calls (hschema : Row.IsSchema columns) (id : ReplicaId) {calls : List AnyCall}
    (hplain : ∀ call ∈ calls, call.2.IsPlain) (h : store.Represents fs tuples) :
    store.Represents (run (store.filesAfter id) fs calls) (run tuplesAfter tuples calls) := by
  have hstep : @tuplesAfter columns = rowsAfter (Tuple.form hschema) := by
    funext tuples call
    simp only [tuplesAfter, rowsAfter, NodeCall.onForm_tuples]
  rw [represents_iff_shows hschema] at h ⊢
  rw [hstep]
  exact h.calls id fun call hcall => (hplain call hcall).admits hschema

/-- **A new store behaves like a list of tuples**, whatever is called: its file consists of the
header and the lines of the tuples, and every call gets the answer that the list gives. -/
theorem runs_as_tuples (hschema : Row.IsSchema columns)
    (hcreate : create path (some columns) fs = (.ok store, fs')) (hworks : store.Works fs')
    (id : ReplicaId) (calls : List AnyCall) (hplain : ∀ call ∈ calls, call.2.IsPlain) :
    let tuples : List (Tuple columns) := run tuplesAfter [] calls
    let files := run (store.filesAfter id) fs' calls
    files.Holds path (Text.unlines (Row.renderHeader columns :: tuples.map Tuple.line)) ∧
      ∀ (kind : ReplyKind) (call : NodeCall kind), call.IsPlain →
        (StorageNode.run ⟨id, store⟩ call files).1 = .ok (call.onTuples tuples).1 := by
  intro tuples files
  have hafter := (represents_of_create hcreate hworks).calls hschema id hplain
  refine ⟨?_, fun kind call hcall => ?_⟩
  · obtain ⟨rfl, -⟩ := create_ok hcreate
    exact hafter.held
  · obtain ⟨_, hrun, -⟩ := hafter.call hschema hcall id
    rw [hrun]

/-- Two students join, one is renamed, the other leaves. -/
def rosterCalls : List AnyCall :=
  [⟨_, .insert ["id", "name"] ["1", "Alice"]⟩,
    ⟨_, .insert ["name", "id", "name"] ["Eve", "2", "X"]⟩,
    ⟨_, .update ["age", "name"] ["20", "Bob"] ⟨"id", "2"⟩⟩, ⟨_, .deleteAt [0, 7]⟩]

/-- In a store of students, the values stand in the order of its columns, an unknown column is
passed over, and so is a position that is not there. -/
theorem runs_as_tuples_roster : ∃ store files,
    create ["data", "roster"] (some ["id", "name"]) .empty = (.ok store, files) ∧
      files.Holds ["data", "roster"] "id,name\n" ∧
      (StorageNode.run ⟨⟨"roster", .sql, 0, 0⟩, store⟩ .select
        (run (store.filesAfter ⟨"roster", .sql, 0, 0⟩) files rosterCalls)).1 = .ok ["2,Bob,"] := by
  have hschema : Row.IsSchema ["id", "name"] := ⟨by decide, by decide, by decide⟩
  have hreply : (create ["data", "roster"] (some ["id", "name"]) .empty).1.toOption =
      some ⟨["data", "roster"], some ["id", "name"]⟩ := by decide
  have hfaultless : (create ["data", "roster"] (some ["id", "name"]) .empty).2.faults = [] := by
    decide
  have hscratch : ((create ["data", "roster"] (some ["id", "name"]) .empty).2.openForWriting .create
      (scratchPath ⟨["data", "roster"], some ["id", "name"]⟩
        (create ["data", "roster"] (some ["id", "name"]) .empty).2.scratch)).isOk = true := by
    decide
  cases hcreate : create ["data", "roster"] (some ["id", "name"]) .empty with
  | mk reply files =>
    rw [hcreate] at hreply hfaultless hscratch
    cases reply with
    | error e => simp [Except.toOption] at hreply
    | ok store =>
      obtain rfl := Option.some.inj hreply
      have hworks : Works ⟨["data", "roster"], some ["id", "name"]⟩ files :=
        ⟨hfaultless, hscratch⟩
      have hempty := (runs_as_tuples hschema hcreate hworks ⟨"roster", .sql, 0, 0⟩ [] (by simp)).1
      have hrun := (runs_as_tuples hschema hcreate hworks ⟨"roster", .sql, 0, 0⟩ rosterCalls
        (by decide)).2 .rows .select trivial
      refine ⟨_, files, rfl, hempty, ?_⟩
      rw [hrun]
      exact congrArg Except.ok (by decide)

end RecordStore

end TableStore
