import Mathlib.Data.List.Induction
import Mathlib.Logic.Function.Basic
import TableStore.Proofs.Requests
import TableStore.Proofs.Routing

/-!
# Logical rows

Under a layout by columns no file holds a whole row.  A logical row is what its parts are parts
of: a value for every column.  `slice columns` is the part of a row that a store with these
columns holds, and `Operation.apply` is what an operation makes of all logical rows.

The lemmas say that a store that holds the slices of logical rows does to the slices what the
operation does to the rows: `satisfies_slice` and `positionsOf_slice` for conditions, and
`assign_slice` for assignments.  A new row is a slice by definition.  A store need not be told of
columns that it does not have (`slice_assign_filter`).
-/

namespace TableStore

/-- A row as a value for every column. -/
abbrev LogicalRow := String → String

namespace LogicalRow

/-- The part of a row under some columns, as it is written. -/
def slice (columns : List String) (row : LogicalRow) : String := Row.render (columns.map row)

/-- The row after assignments, the first one first. -/
def assign (assignments : List (String × String)) (row : LogicalRow) : LogicalRow :=
  assignments.foldl (fun row field => Function.update row field.1 field.2) row

/-- Whether a row satisfies a condition. -/
def satisfies (condition : Predicate) (row : LogicalRow) : Bool :=
  row condition.column = condition.value

/-- Whether all values of a row can be fields. -/
def IsWritten (row : LogicalRow) : Prop := ∀ column, isField (row column) = true

end LogicalRow

/-- The logical rows after an operation. -/
def Operation.apply (operation : Operation) (rows : List LogicalRow) : List LogicalRow :=
  match operation.kind, operation.condition with
  | .insert, _ => rows ++ [Row.valueOf operation.columns operation.values]
  | .update, some condition => rows.map fun row =>
      if row.satisfies condition then row.assign (operation.columns.zip operation.values) else row
  | .delete, some condition => rows.filter fun row => !row.satisfies condition
  | _, _ => rows

namespace LogicalRow

variable {columns : List String} {row row' : LogicalRow}

/-! ## Slices -/

/-- Slices side by side are the slice of all columns. -/
theorem slice_flatten (groups : List (List String)) (row : LogicalRow) :
    String.join (groups.map fun columns => slice columns row) = slice groups.flatten row := by
  induction groups with
  | nil => rfl
  | cons columns rest ih =>
    simp only [slice, List.map_cons, String.join_cons, List.flatten_cons, List.map_append,
      Row.render_append] at ih ⊢
    rw [ih]

theorem slice_congr (h : ∀ column ∈ columns, row column = row' column) :
    slice columns row = slice columns row' := congrArg Row.render (List.map_congr_left h)

theorem separator_notMem (hwritten : row.IsWritten) :
    ∀ field ∈ columns.map row, Row.separator ∉ field.toList := by
  intro field hfield
  obtain ⟨column, -, rfl⟩ := List.mem_map.1 hfield
  exact separator_notMem_of_isField (hwritten column)

/-- A slice is read back as a row. -/
theorem isRow_slice (hne : columns ≠ []) (hwritten : row.IsWritten) :
    RecordStore.IsRow (slice columns row) := by
  have hmap : columns.map row ≠ [] := by simpa using hne
  refine RecordStore.isRow_render hmap fun field hfield => ?_
  obtain ⟨column, -, rfl⟩ := List.mem_map.1 hfield
  exact lineFeed_notMem_of_isField (hwritten column)

theorem parsePadded_slice (hne : columns ≠ []) (hwritten : row.IsWritten) :
    Row.parsePadded (slice columns row) columns.length = columns.map row :=
  Row.parsePadded_render (by simpa using hne) (separator_notMem hwritten) (by simp)

/-! ## Conditions -/

/-- A store with the column of a condition sees whether the row satisfies it. -/
theorem satisfies_slice {condition : Predicate} (hmem : condition.column ∈ columns)
    (hwritten : row.IsWritten) :
    Row.satisfies (some columns) condition (slice columns row) = row.satisfies condition := by
  have hne : columns ≠ [] := List.ne_nil_of_mem hmem
  obtain ⟨idx, hidx⟩ := Option.isSome_iff_exists.1 (List.isSome_idxOf?.2 hmem)
  obtain ⟨hlt, hcolumn, -⟩ := List.idxOf?_eq_some_iff.1 hidx
  simp only [Row.satisfies, Row.fieldsMatch, hidx, parsePadded_slice hne hwritten,
    List.getElem?_map, List.getElem?_eq_getElem hlt, hcolumn, Option.map_some, Option.some.injEq,
    satisfies]

theorem positionsOf_slice {condition : Predicate} {rows : List LogicalRow}
    (hmem : condition.column ∈ columns) (hwritten : ∀ row ∈ rows, row.IsWritten) :
    Row.matching (some columns) condition (rows.map (slice columns)) =
      Row.positionsOf (satisfies condition) rows := by
  rw [Row.matching_eq_positionsOf, Row.positionsOf_map]
  exact Row.positionsOf_congr fun row hrow => satisfies_slice hmem (hwritten row hrow)

/-! ## Assignments -/

theorem assign_cons (field : String × String) (rest : List (String × String)) (row : LogicalRow) :
    assign (field :: rest) row = assign rest (Function.update row field.1 field.2) := rfl

/-- One assignment to the fields of a row is an assignment to the row. -/
theorem setField_map (hnodup : columns.Nodup) (row : LogicalRow) (field : String × String) :
    Row.setField columns (columns.map row) field =
      columns.map (Function.update row field.1 field.2) := by
  unfold Row.setField
  split
  · next hnone =>
    rw [List.idxOf?_eq_none_iff] at hnone
    refine List.map_congr_left fun column hcolumn => (Function.update_of_ne ?_ _ _).symm
    rintro rfl
    exact hnone hcolumn
  · next idx hidx =>
    obtain ⟨hlt, hfield, -⟩ := List.idxOf?_eq_some_iff.1 hidx
    refine List.ext_getElem (by simp) fun i hi hi' => ?_
    rw [List.getElem_set, List.getElem_map, List.getElem_map]
    split
    · next heq =>
      subst heq
      rw [hfield, Function.update_self]
    · next hne =>
      refine (Function.update_of_ne ?_ _ _).symm
      rw [← hfield]
      exact fun heq => hne (hnodup.getElem_inj_iff.1 heq.symm)

theorem foldl_setField_map (hnodup : columns.Nodup) (assignments : List (String × String))
    (row : LogicalRow) :
    assignments.foldl (Row.setField columns) (columns.map row) =
      columns.map (assign assignments row) := by
  induction assignments generalizing row with
  | nil => rfl
  | cons field rest ih => rw [List.foldl_cons, setField_map hnodup, ih, assign_cons]

/-- An assignment to a slice is the slice of the row after the assignment. -/
theorem assign_slice (hne : columns ≠ []) (hnodup : columns.Nodup)
    (assignments : List (String × String)) (hwritten : row.IsWritten) :
    Row.assign (some columns) assignments (slice columns row) =
      slice columns (assign assignments row) := by
  simp only [Row.assign, parsePadded_slice hne hwritten, foldl_setField_map hnodup]
  rfl

/-- The last value that assignments give to a column. -/
def lastAssigned? (assignments : List (String × String)) (column : String) : Option String :=
  (assignments.reverse.find? fun field => field.1 = column).map Prod.snd

theorem lastAssigned?_concat (front : List (String × String)) (field : String × String)
    (column : String) : lastAssigned? (front ++ [field]) column =
      if field.1 = column then some field.2 else lastAssigned? front column := by
  rw [lastAssigned?, List.reverse_concat]
  split
  · next heq => rw [List.find?_cons_of_pos (by simpa using heq), Option.map_some]
  · next hne =>
    rw [List.find?_cons_of_neg (by simpa using hne)]
    rfl

theorem mem_of_lastAssigned? {assignments : List (String × String)} {column value : String}
    (h : lastAssigned? assignments column = some value) : (column, value) ∈ assignments := by
  obtain ⟨field, hfind, rfl⟩ := Option.map_eq_some_iff.1 h
  have hcolumn : field.1 = column := by simpa using List.find?_some hfind
  rw [← hcolumn]
  exact List.mem_reverse.1 (List.mem_of_find?_eq_some hfind)

/-- The last assignment to a column decides about its value. -/
theorem assign_apply (assignments : List (String × String)) (row : LogicalRow)
    (column : String) :
    assign assignments row column = (lastAssigned? assignments column).getD (row column) := by
  induction assignments using List.reverseRecOn with
  | nil => rfl
  | append_singleton front field ih =>
    have hlast : assign (front ++ [field]) row =
        Function.update (assign front row) field.1 field.2 := by
      simp [assign]
    rw [hlast, lastAssigned?_concat, Function.update_apply]
    by_cases heq : field.1 = column
    · rw [if_pos heq, if_pos heq.symm, Option.getD_some]
    · rw [if_neg heq, if_neg (Ne.symm heq), ih]

/-- Assignments to other columns do not matter for a column. -/
theorem assign_filter_apply {p : String × String → Bool} {column : String}
    (h : ∀ field : String × String, field.1 = column → p field = true)
    (assignments : List (String × String)) (heq : row column = row' column) :
    assign (assignments.filter p) row column = assign assignments row' column := by
  induction assignments generalizing row row' with
  | nil => exact heq
  | cons field rest ih =>
    by_cases hfield : field.1 = column
    · rw [List.filter_cons_of_pos (h field hfield), assign_cons, assign_cons]
      exact ih (by rw [hfield, Function.update_self, Function.update_self])
    · have hnew : row column = Function.update row' field.1 field.2 column := by
        rw [Function.update_of_ne (Ne.symm hfield), heq]
      cases hp : p field with
      | false =>
        rw [List.filter_cons_of_neg (by simp [hp]), assign_cons]
        exact ih hnew
      | true =>
        rw [List.filter_cons_of_pos hp, assign_cons, assign_cons]
        exact ih (by rw [Function.update_of_ne (Ne.symm hfield), hnew])

/-- The columns of a slice see only the assignments to them. -/
theorem slice_assign_filter {p : String × String → Bool}
    (h : ∀ column ∈ columns, ∀ field : String × String, field.1 = column → p field = true)
    (assignments : List (String × String)) (row : LogicalRow) :
    slice columns (assign (assignments.filter p) row) = slice columns (assign assignments row) :=
  slice_congr fun column hcolumn => assign_filter_apply (h column hcolumn) assignments rfl

theorem isWritten_assign {assignments : List (String × String)}
    (h : ∀ field ∈ assignments, isField field.2 = true) (hwritten : row.IsWritten) :
    (assign assignments row).IsWritten := by
  induction assignments generalizing row with
  | nil => exact hwritten
  | cons field rest ih =>
    obtain ⟨hfield, hrest⟩ := List.forall_mem_cons.1 h
    rw [assign_cons]
    refine ih hrest fun column => ?_
    by_cases heq : column = field.1
    · rw [heq, Function.update_self]
      exact hfield
    · rw [Function.update_of_ne heq]
      exact hwritten column

/-! ## New rows -/

theorem isWritten_valueOf {columns values : List String}
    (h : ∀ value ∈ values, isField value = true) :
    IsWritten (Row.valueOf columns values) := by
  intro column
  unfold Row.valueOf
  cases hidx : List.idxOf? column columns with
  | none => rfl
  | some idx =>
    cases hvalue : values[idx]? with
    | none => simp [hvalue, isField]
    | some value => simpa [hvalue] using h value (List.mem_of_getElem? hvalue)

end LogicalRow

namespace Operation

open LogicalRow

variable {operation : Operation} {columns : Option (List String)} {rows : List LogicalRow}

/-- An accepted operation only makes rows that can be written. -/
theorem isWritten_apply (h : operation.Accepted columns) (hwritten : ∀ row ∈ rows, row.IsWritten) :
    ∀ row ∈ operation.apply rows, row.IsWritten := by
  intro row hrow
  unfold apply at hrow
  split at hrow
  · rcases List.mem_append.1 hrow with hrow | hrow
    · exact hwritten row hrow
    · rw [List.mem_singleton.1 hrow]
      exact isWritten_valueOf fun value hvalue => h.isField_value hvalue
  · obtain ⟨old, hold, rfl⟩ := List.mem_map.1 hrow
    split
    · refine isWritten_assign (fun field hfield => ?_) (hwritten old hold)
      exact h.isField_value (List.of_mem_zip hfield).2
    · exact hwritten old hold
  · exact hwritten row (List.mem_filter.1 hrow).1
  · exact hwritten row hrow

end Operation

end TableStore
