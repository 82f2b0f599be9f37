import TableStore.Proofs.LogicalRows
import TableStore.Proofs.RowForms

/-!
# Stores as lists of pairs

A store without columns keeps each row as a sequence of keys and values, which it takes apart two by
two at every access.  Here it is compared with a list of rows that are lists of pairs.  A key can be
there more than once, keys and values can be empty, and an update writes to the keys that are there.

* `foldl_setPair` says what assignments one after another come to: each key gets the last value that
  is assigned to it.
* `PairRow.form` shows that non-empty lists of pairs are a form of rows.  No text in them may be
  divided by a separator or a line feed; nothing else is asked of keys and values.
* `RecordStore.runs_as_pairs` is the comparison for all runs, from the store's creation on.
-/

namespace TableStore

/-- Assignments to pairs, the first one first, leave each key with the last value for it. -/
theorem Row.foldl_setPair (assignments pairs : List (String × String)) :
    assignments.foldl setPair pairs =
      pairs.map fun pair =>
        (pair.1, (LogicalRow.lastAssigned? assignments pair.1).getD pair.2) := by
  induction assignments using List.reverseRecOn with
  | nil => exact (List.map_id' pairs).symm
  | append_singleton front assignment ih =>
    rw [List.foldl_concat, ih, setPair, List.map_map]
    refine List.map_congr_left fun pair _ => ?_
    rw [Function.comp_apply, LogicalRow.lastAssigned?_concat]
    by_cases hkey : pair.1 = assignment.1
    · rw [if_pos hkey, if_pos hkey.symm, Option.getD_some]
    · rw [if_neg hkey, if_neg (Ne.symm hkey)]

/-- A row as a list of keys with their values. -/
abbrev PairRow := List (String × String)

namespace PairRow

/-! ## Rows of pairs -/

/-- The line that a row is written as. -/
def line (row : PairRow) : String := Row.renderPairs row

/-- Whether one of the pairs is the one of a condition. -/
def meets (condition : Predicate) (row : PairRow) : Bool :=
  row.any fun pair => pair.1 = condition.column ∧ pair.2 = condition.value

/-- The row in which each key that is assigned to has the last value that it is assigned. -/
def assign (assignments : List (String × String)) (row : PairRow) : PairRow :=
  row.map fun pair => (pair.1, (LogicalRow.lastAssigned? assignments pair.1).getD pair.2)

/-- Whether a row can be written: there is a pair, and no key and no value is divided. -/
def IsWritten (row : PairRow) : Prop :=
  row ≠ [] ∧ ∀ pair ∈ row, Row.IsUnbroken pair.1 ∧ Row.IsUnbroken pair.2

instance (row : PairRow) : Decidable row.IsWritten := inferInstanceAs (Decidable (_ ∧ _))

variable {row : PairRow}

theorem IsWritten.flatten (h : row.IsWritten) :
    ∀ field ∈ Row.flatten row, Row.IsUnbroken field := by
  intro field hfield
  obtain ⟨pair, hpair, rfl | rfl⟩ := Row.mem_flatten.1 hfield
  · exact (h.2 pair hpair).1
  · exact (h.2 pair hpair).2

theorem isRow_line (h : row.IsWritten) : RecordStore.IsRow row.line :=
  RecordStore.isRow_render (Row.flatten_ne_nil h.1) fun field hfield => (h.flatten field hfield).2

/-- The pairs of a row are those that were written. -/
theorem parsePairs_line (h : row.IsWritten) : Row.parsePairs row.line = row :=
  Row.parsePairs_renderPairs h.1 fun field hfield => (h.flatten field hfield).1

theorem satisfies_line (condition : Predicate) (h : row.IsWritten) :
    Row.satisfies none condition row.line = row.meets condition := by
  rw [Row.satisfies, Row.pairsMatch, parsePairs_line h, Bool.eq_iff_iff, List.contains_iff_mem,
    meets, List.any_eq_true]
  constructor
  · intro hmem
    exact ⟨_, hmem, by simp⟩
  · rintro ⟨⟨key, value⟩, hmem, hpair⟩
    obtain ⟨rfl, rfl⟩ : key = condition.column ∧ value = condition.value := by simpa using hpair
    exact hmem

theorem assign_line (assignments : List (String × String)) (h : row.IsWritten) :
    Row.assign none assignments row.line = (row.assign assignments).line := by
  rw [Row.assign, parsePairs_line h, Row.foldl_setPair]
  rfl

/-- Assignments keep a row one that can be written. -/
theorem IsWritten.assign (h : row.IsWritten) {assignments : List (String × String)}
    (hassigned : ∀ field ∈ assignments, Row.IsUnbroken field.2) :
    (row.assign assignments).IsWritten := by
  refine ⟨by simpa [PairRow.assign] using h.1, fun pair hpair => ?_⟩
  obtain ⟨old, hold, rfl⟩ := List.mem_map.1 hpair
  refine ⟨(h.2 old hold).1, ?_⟩
  cases hlast : LogicalRow.lastAssigned? assignments old.1 with
  | none => simpa [hlast] using (h.2 old hold).2
  | some value => simpa [hlast] using hassigned _ (LogicalRow.mem_of_lastAssigned? hlast)

/-- Assignments that are made again change nothing. -/
theorem assign_assign (assignments : List (String × String)) (row : PairRow) :
    (row.assign assignments).assign assignments = row.assign assignments := by
  rw [PairRow.assign, PairRow.assign, List.map_map]
  refine List.map_congr_left fun pair _ => ?_
  cases hlast : LogicalRow.lastAssigned? assignments pair.1 <;> simp [hlast]

/-- Rows of pairs are written as rows. -/
def form : RowForm none PairRow where
  line := line
  meets := meets
  assign := assign
  ofRequest names values := names.zip values
  IsWritten := IsWritten
  isLine_header _ hnames := by simp at hnames
  isRow_line := isRow_line
  satisfies_line := satisfies_line
  assign_line := assign_line
  compose_line _ _ := rfl

end PairRow

namespace NodeCall

/-- An insertion gives a pair at least, no text that a call writes is divided, and the call does not
name a position to remove twice. -/
def WritesPairs {kind : ReplyKind} : NodeCall kind → Prop
  | .insert names values => PairRow.IsWritten (names.zip values)
  | .update names values _ | .updateAt _ names values =>
    ∀ field ∈ names.zip values, Row.IsUnbroken field.2
  | .deleteAt positions => positions.Nodup
  | .select | .delete _ | .heartbeat => True

instance {kind : ReplyKind} : (call : NodeCall kind) → Decidable call.WritesPairs
  | .insert names values => inferInstanceAs (Decidable (PairRow.IsWritten (names.zip values)))
  | .update names values _ | .updateAt _ names values =>
    inferInstanceAs (Decidable (∀ field ∈ names.zip values, Row.IsUnbroken field.2))
  | .deleteAt positions => inferInstanceAs (Decidable positions.Nodup)
  | .select | .delete _ | .heartbeat => inferInstanceAs (Decidable True)

theorem WritesPairs.admits {kind : ReplyKind} {call : NodeCall kind} (h : call.WritesPairs) :
    PairRow.form.Admits call := by
  cases call with
  | update names values condition => exact fun _ hrow => PairRow.IsWritten.assign hrow h
  | updateAt positions names values => exact fun _ hrow => PairRow.IsWritten.assign hrow h
  | _ => exact h

end NodeCall

/-! ## Stores -/

namespace RecordStore

variable {store : RecordStore} {fs fs' : FileSystem} {path : Path}

/-- **A new store without columns behaves like a list of pair lists**, whatever is called: no row is
without pairs, the file consists of the lines of the rows, and every call gets the answer that the
list gives. -/
theorem runs_as_pairs (hcreate : create path none fs = (.ok store, fs'))
    (hworks : store.Works fs') (id : ReplicaId) (calls : List AnyCall)
    (hcalls : ∀ call ∈ calls, call.2.WritesPairs) :
    let rows : List PairRow := run (rowsAfter PairRow.form) [] calls
    let files := run (store.filesAfter id) fs' calls
    (∀ row ∈ rows, row ≠ []) ∧ files.Holds path (Text.unlines (rows.map PairRow.line)) ∧
      ∀ (kind : ReplyKind) (call : NodeCall kind), call.WritesPairs →
        (StorageNode.run ⟨id, store⟩ call files).1 = .ok (call.onForm PairRow.form rows).1 := by
  intro rows files
  obtain ⟨hshows, hanswer⟩ := runs_as_values PairRow.form hcreate hworks id fun call hcall =>
    (hcalls call hcall).admits
  refine ⟨fun row hrow => (hshows.written row hrow).1, ?_, fun _ _ hcall => hanswer hcall.admits⟩
  obtain ⟨rfl, -⟩ := create_ok hcreate
  exact hshows.held

/-- Two notes are taken, the tags of one are changed, the other is removed. -/
def noteCalls : List AnyCall :=
  [⟨_, .insert ["tag", "tag", ""] ["a", "b", "x"]⟩, ⟨_, .insert ["tag"] ["c"]⟩,
    ⟨_, .update ["tag", "tag", "age"] ["d", "e", "1"] ⟨"", "x"⟩⟩, ⟨_, .deleteAt [1, 7]⟩]

/-- Both tags of the note with the empty key get the last value, and no key is added. -/
theorem runs_as_pairs_notes : ∃ store files,
    create ["data", "notes"] none .empty = (.ok store, files) ∧
      (StorageNode.run ⟨⟨"notes", .noSql, 0, 0⟩, store⟩ .select
        (run (store.filesAfter ⟨"notes", .noSql, 0, 0⟩) files noteCalls)).1 =
          .ok ["tag,e,tag,e,,x,"] := by
  obtain ⟨files, hcreate, hworks⟩ : ∃ files,
      create ["data", "notes"] none .empty = (.ok ⟨["data", "notes"], none⟩, files) ∧
        Works ⟨["data", "notes"], none⟩ files :=
    ⟨_, Prod.ext (by decide) rfl, by decide, by decide⟩
  refine ⟨_, files, hcreate, ?_⟩
  rw [(runs_as_pairs hcreate hworks _ noteCalls (by decide)).2.2 .rows .select trivial]
  exact congrArg Except.ok (by decide)

end RecordStore

end TableStore
