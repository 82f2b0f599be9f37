import TableStore.Proofs.LogicalRows

/-!
# Rows with a key

Under a layout by key, the value of one column decides where a row lies.  `IsKeyed` says that a
row has a key with a value, for rows of fields and for rows of pairs alike, and what operations
may do to such rows: a condition on the key looks at this value alone (`satisfies_of_isKeyed`),
and assignments to other columns keep it (`isKeyed_assign`).

So a part of the rows that is told by their keys can be kept for itself.  An operation changes the
part as it changes the rows if its own key belongs to the part, and does not concern the part
otherwise (`filter_applyLines`).  The key is compared as a text by conditions and may be read as a
number by the part: nothing is assumed of the part but that it goes by the key.
-/

namespace TableStore

open LogicalRow (slice)

namespace Row

/-! ## Keys -/

/-- The value of a row at its key: the field of this column, or the value of the first pair. -/
def key? (columns : Option (List String)) (key line : String) : Option String :=
  match columns with
  | some columns => (columns.idxOf? key).bind fun idx => (parsePadded line columns.length)[idx]?
  | none => ((parsePairs line).find? fun pair => pair.1 = key).map Prod.snd

/-- Whether a row was written with one value for the key. -/
def IsKeyed (columns : Option (List String)) (key value line : String) : Prop :=
  match columns with
  | some columns => key ∈ columns ∧
      ∃ row : LogicalRow, row.IsWritten ∧ row key = value ∧ line = slice columns row
  | none => ∃ rest, (∀ field ∈ flatten ((key, value) :: rest), isField field = true) ∧
      key ∉ rest.map Prod.fst ∧ line = renderPairs ((key, value) :: rest)

variable {columns : Option (List String)} {key value line : String}

theorem parsePairs_of_isField {pairs : List (String × String)} (hne : pairs ≠ [])
    (h : ∀ field ∈ flatten pairs, isField field = true) : parsePairs (renderPairs pairs) = pairs :=
  parsePairs_renderPairs hne fun field hfield => separator_notMem_of_isField (h field hfield)

/-- The key of a row is read back. -/
theorem key?_of_isKeyed (h : IsKeyed columns key value line) :
    key? columns key line = some value := by
  cases columns with
  | some columns =>
    obtain ⟨hmem, row, hwritten, rfl, rfl⟩ := h
    obtain ⟨idx, hidx⟩ := Option.isSome_iff_exists.1 (List.isSome_idxOf?.2 hmem)
    obtain ⟨hlt, hcolumn, -⟩ := List.idxOf?_eq_some_iff.1 hidx
    simp only [key?, hidx, Option.bind_some,
      LogicalRow.parsePadded_slice (List.ne_nil_of_mem hmem) hwritten, List.getElem?_map,
      List.getElem?_eq_getElem hlt, hcolumn, Option.map_some]
  | none =>
    obtain ⟨rest, hfields, -, rfl⟩ := h
    simp [key?, parsePairs_of_isField (List.cons_ne_nil _ _) hfields]

/-- A row with a key is read back as a row. -/
theorem isRow_of_isKeyed (h : IsKeyed columns key value line) : RecordStore.IsRow line := by
  cases columns with
  | some columns =>
    obtain ⟨hmem, row, hwritten, -, rfl⟩ := h
    exact LogicalRow.isRow_slice (List.ne_nil_of_mem hmem) hwritten
  | none =>
    obtain ⟨rest, hfields, -, rfl⟩ := h
    have hne := flatten_ne_nil (List.cons_ne_nil (key, value) rest)
    exact RecordStore.isRow_render hne fun field hfield =>
      lineFeed_notMem_of_isField (hfields field hfield)

/-- A condition on the key is one on its value. -/
theorem satisfies_of_isKeyed (h : IsKeyed columns key value line) {condition : Predicate}
    (hcolumn : condition.column = key) :
    satisfies columns condition line = true ↔ value = condition.value := by
  cases columns with
  | some columns =>
    obtain ⟨hmem, row, hwritten, rfl, rfl⟩ := h
    rw [LogicalRow.satisfies_slice (hcolumn ▸ hmem) hwritten, LogicalRow.satisfies, hcolumn,
      decide_eq_true_eq]
  | none =>
    obtain ⟨rest, hfields, hout, rfl⟩ := h
    rw [satisfies, pairsMatch, parsePairs_of_isField (List.cons_ne_nil _ _) hfields, hcolumn,
      List.contains_iff_mem, List.mem_cons, Prod.mk.injEq]
    constructor
    · rintro (⟨-, heq⟩ | hmem)
      · exact heq.symm
      · exact absurd (List.mem_map_of_mem hmem) hout
    · rintro rfl
      exact Or.inl ⟨rfl, rfl⟩

/-! ## New rows and assignments -/

/-- An insertion under columns that gives the key first makes a row with this key. -/
theorem isKeyed_compose_fields {columns names values : List String} (hmem : key ∈ columns)
    (hfields : ∀ field ∈ value :: values, isField field = true) :
    IsKeyed (some columns) key value
      (compose (some columns) (key :: names) (value :: values)) := by
  refine ⟨hmem, valueOf (key :: names) (value :: values), ?_, ?_, rfl⟩
  · exact LogicalRow.isWritten_valueOf hfields
  · simp [valueOf, List.idxOf?_cons]

/-- An insertion that gives the key first, and only there, makes a row with this key. -/
theorem isKeyed_compose {names values : List String} (hmem : ∀ columns' ∈ columns, key ∈ columns')
    (hout : key ∉ names)
    (hfields : ∀ field ∈ key :: names ++ value :: values, isField field = true) :
    IsKeyed columns key value (compose columns (key :: names) (value :: values)) := by
  cases columns with
  | some columns =>
    exact isKeyed_compose_fields (hmem columns rfl) fun field hfield => hfields field (by simp_all)
  | none =>
    refine ⟨names.zip values, fun field hfield => hfields field ?_, fun hkey => hout ?_, rfl⟩
    · obtain ⟨pair, hpair, hfield⟩ := mem_flatten.1 hfield
      rcases List.mem_cons.1 hpair with rfl | hpair
      · rcases hfield with rfl | rfl <;> simp
      · have hparts := List.of_mem_zip hpair
        rcases hfield with rfl | rfl <;> simp [hparts.1, hparts.2]
    · obtain ⟨pair, hpair, rfl⟩ := List.mem_map.1 hkey
      exact (List.of_mem_zip hpair).1

/-- Assignments under columns leave a row with the last value that they give to the key. -/
theorem isKeyed_assign_fields {columns : List String} (hnodup : columns.Nodup)
    {assignments : List (String × String)}
    (hvalues : ∀ field ∈ assignments, isField field.2 = true)
    (h : IsKeyed (some columns) key value line) :
    IsKeyed (some columns) key ((LogicalRow.lastAssigned? assignments key).getD value)
      (assign (some columns) assignments line) := by
  obtain ⟨hmem, row, hwritten, rfl, rfl⟩ := h
  refine ⟨hmem, row.assign assignments, LogicalRow.isWritten_assign hvalues hwritten, ?_, ?_⟩
  · exact LogicalRow.assign_apply assignments row key
  · exact LogicalRow.assign_slice (List.ne_nil_of_mem hmem) hnodup assignments hwritten

/-- Assignments to other keys keep the first pair. -/
theorem foldl_setPair_cons {assignments : List (String × String)}
    (hout : key ∉ assignments.map Prod.fst)
    (hvalues : ∀ field ∈ assignments, isField field.2 = true) {rest : List (String × String)}
    (hfields : ∀ field ∈ flatten ((key, value) :: rest), isField field = true) :
    ∃ rest', assignments.foldl setPair ((key, value) :: rest) = (key, value) :: rest' ∧
      rest'.map Prod.fst = rest.map Prod.fst ∧
      ∀ field ∈ flatten ((key, value) :: rest'), isField field = true := by
  induction assignments generalizing rest with
  | nil => exact ⟨rest, rfl, rfl, hfields⟩
  | cons assignment others ih =>
    rw [List.map_cons, List.mem_cons, not_or] at hout
    obtain ⟨hvalue, hothers⟩ := List.forall_mem_cons.1 hvalues
    have hset : setPair ((key, value) :: rest) assignment =
        (key, value) :: setPair rest assignment := by
      rw [setPair, List.map_cons, if_neg hout.1]
      rfl
    have hkeys : (setPair rest assignment).map Prod.fst = rest.map Prod.fst := by
      rw [setPair, List.map_map]
      refine List.map_congr_left fun pair _ => ?_
      simp only [Function.comp_apply]
      split <;> rfl
    have hnext : ∀ field ∈ flatten ((key, value) :: setPair rest assignment),
        isField field = true := by
      intro field hfield
      obtain ⟨pair, hpair, hfield⟩ := mem_flatten.1 hfield
      rw [← hset, setPair] at hpair
      obtain ⟨old, hold, rfl⟩ := List.mem_map.1 hpair
      have hfirst := hfields old.1 (mem_flatten.2 ⟨old, hold, Or.inl rfl⟩)
      have hsecond := hfields old.2 (mem_flatten.2 ⟨old, hold, Or.inr rfl⟩)
      split at hfield <;> rcases hfield with rfl | rfl <;> assumption
    obtain ⟨rest', hfold, hsame, hfields'⟩ := ih hout.2 hothers hnext
    exact ⟨rest', by rw [List.foldl_cons, hset, hfold], hsame.trans hkeys, hfields'⟩

/-- Assignments to other columns keep the key. -/
theorem isKeyed_assign {names values : List String}
    (hnodup : ∀ columns' ∈ columns, columns'.Nodup) (hout : key ∉ names)
    (hvalues : ∀ value ∈ values, isField value = true) (h : IsKeyed columns key value line) :
    IsKeyed columns key value (assign columns (names.zip values) line) := by
  have hassigned : ∀ field ∈ names.zip values, isField field.2 = true := fun field hfield =>
    hvalues _ (List.of_mem_zip hfield).2
  have hkeys : key ∉ (names.zip values).map Prod.fst := by
    intro hmem
    obtain ⟨field, hfield, rfl⟩ := List.mem_map.1 hmem
    exact hout (List.of_mem_zip hfield).1
  cases columns with
  | some columns =>
    have hnone : LogicalRow.lastAssigned? (names.zip values) key = none := by
      simp only [LogicalRow.lastAssigned?, Option.map_eq_none_iff, List.find?_eq_none,
        List.mem_reverse, decide_eq_true_eq]
      rintro field hfield rfl
      exact hkeys (List.mem_map_of_mem hfield)
    have hkeyed := isKeyed_assign_fields (hnodup columns rfl) hassigned h
    rwa [hnone] at hkeyed
  | none =>
    obtain ⟨rest, hfields, hrest, rfl⟩ := h
    obtain ⟨rest', hfold, hsame, hfields'⟩ := foldl_setPair_cons hkeys hassigned hfields
    refine ⟨rest', hfields', hsame ▸ hrest, ?_⟩
    rw [assign, parsePairs_of_isField (List.cons_ne_nil _ _) hfields, hfold]

end Row

/-! ## Operations -/

namespace Operation

open Row (IsKeyed key?)

/-- Whether an operation finds rows by a key: a new row gives it first, and conditions are on
it. -/
def FindsBy (operation : Operation) (key : String) : Prop :=
  match operation.kind with
  | .insert => operation.columns.head? = some key
  | .update | .delete => ∀ condition ∈ operation.condition, condition.column = key
  | .select => True

instance (key : String) : ∀ operation : Operation, Decidable (operation.FindsBy key)
  | ⟨.insert, _, _, _, _⟩ => inferInstanceAs (Decidable (_ = _))
  | ⟨.update, _, _, _, _⟩ => inferInstanceAs (Decidable (∀ _ ∈ _, _))
  | ⟨.delete, _, _, _, _⟩ => inferInstanceAs (Decidable (∀ _ ∈ _, _))
  | ⟨.select, _, _, _, _⟩ => inferInstanceAs (Decidable True)

/-- Whether an operation goes by a key: a new row gives it first and only once, conditions are on
it, and it is never assigned. -/
def KeyedBy (operation : Operation) (key : String) : Prop :=
  match operation.kind with
  | .insert => operation.columns.head? = some key ∧ key ∉ operation.columns.tail
  | .update => key ∉ operation.columns ∧
      ∀ condition ∈ operation.condition, condition.column = key
  | .delete => ∀ condition ∈ operation.condition, condition.column = key
  | .select => True

instance (key : String) : ∀ operation : Operation, Decidable (operation.KeyedBy key)
  | ⟨.insert, _, _, _, _⟩ => inferInstanceAs (Decidable (_ ∧ _))
  | ⟨.update, _, _, _, _⟩ => inferInstanceAs (Decidable (_ ∧ ∀ _ ∈ _, _))
  | ⟨.delete, _, _, _, _⟩ => inferInstanceAs (Decidable (∀ _ ∈ _, _))
  | ⟨.select, _, _, _, _⟩ => inferInstanceAs (Decidable True)

/-- The value of the key in an operation that goes by it. -/
def keyValue? (operation : Operation) : Option String :=
  match operation.kind with
  | .insert => operation.values.head?
  | .update | .delete => operation.condition.map Predicate.value
  | .select => none

/-- The lines of a store with all rows after an operation. -/
def applyLines (operation : Operation) (columns : Option (List String)) (rows : List String) :
    List String :=
  match operation.kind, operation.condition with
  | .insert, _ => rows ++ [Row.compose columns operation.columns operation.values]
  | .update, some condition => rows.map fun line =>
      if Row.satisfies columns condition line
      then Row.assign columns (operation.columns.zip operation.values) line else line
  | .delete, some condition => rows.filter fun line => !Row.satisfies columns condition line
  | _, _ => rows

variable {operation : Operation} {columns : Option (List String)} {key : String}
  {rows : List String}

/-- An operation that goes by a key finds rows by it. -/
theorem KeyedBy.findsBy (h : operation.KeyedBy key) : operation.FindsBy key := by
  unfold KeyedBy at h
  unfold FindsBy
  cases hkind : operation.kind <;> simp_all

/-- The condition of an operation that finds rows by a key is on the key. -/
theorem FindsBy.condition (h : operation.FindsBy key)
    (hneeds : operation.kind.needsCondition = true) {condition : Predicate}
    (hcondition : operation.condition = some condition) :
    condition.column = key ∧ operation.keyValue? = some condition.value := by
  unfold FindsBy at h
  unfold keyValue?
  cases hkind : operation.kind <;> simp_all [OperationKind.needsCondition]

/-- An accepted insertion that gives the key first has a value for it. -/
theorem FindsBy.columns_values (h : operation.FindsBy key) (haccepted : operation.Accepted columns)
    (hkind : operation.kind = .insert) : ∃ names value values,
      operation.columns = key :: names ∧ operation.values = value :: values ∧
        operation.keyValue? = some value := by
  have hhead : operation.columns.head? = some key := by simpa only [FindsBy, hkind] using h
  obtain ⟨names, hnames⟩ := List.head?_eq_some_iff.1 hhead
  obtain ⟨-, hlength⟩ := haccepted.counts (by rw [hkind]; rfl)
  cases hvalues : operation.values with
  | nil => simp [hnames, hvalues] at hlength
  | cons value values =>
    exact ⟨names, value, values, hnames, rfl, by simp [keyValue?, hkind, hvalues]⟩

/-- A keyed insertion makes a row with its key. -/
theorem isKeyed_compose (haccepted : operation.Accepted columns) (hkind : operation.kind = .insert)
    (hkeyed : operation.KeyedBy key) : ∃ value, operation.keyValue? = some value ∧
      IsKeyed columns key value (Row.compose columns operation.columns operation.values) := by
  have hout : key ∉ operation.columns.tail := by
    have hboth : operation.columns.head? = some key ∧ key ∉ operation.columns.tail := by
      simpa only [KeyedBy, hkind] using hkeyed
    exact hboth.2
  obtain ⟨names, value, values, hnames, hvalues, hkey⟩ :=
    hkeyed.findsBy.columns_values haccepted hkind
  refine ⟨value, hkey, ?_⟩
  rw [hnames, hvalues]
  refine Row.isKeyed_compose (fun names' hnames' => ?_) (by simpa [hnames] using hout) ?_
  · exact (haccepted.known names' hnames').1 key (by simp [hnames])
  · intro field hfield
    refine haccepted.fields field ?_
    rw [fields, hnames, hvalues]
    exact List.mem_append_left _ hfield

/-- The value of a keyed row stays under an update. -/
theorem isKeyed_update (haccepted : operation.Accepted columns)
    (hnodup : ∀ columns' ∈ columns, columns'.Nodup) (hkind : operation.kind = .update)
    (hkeyed : operation.KeyedBy key) {value line : String} (h : IsKeyed columns key value line)
    (condition : Predicate) :
    IsKeyed columns key value (if Row.satisfies columns condition line
      then Row.assign columns (operation.columns.zip operation.values) line else line) := by
  have hout : key ∉ operation.columns := by
    simp only [KeyedBy, hkind] at hkeyed
    exact hkeyed.1
  split
  · exact Row.isKeyed_assign hnodup hout (fun _ hvalue => haccepted.isField_value hvalue) h
  · exact h

/-- Operations that go by a key keep the rows keyed.  Whatever is true of the keys of all rows
stays so if it is true of those of insertions. -/
theorem isKeyed_applyLines (haccepted : operation.Accepted columns)
    (hnodup : ∀ columns' ∈ columns, columns'.Nodup) (hkeyed : operation.KeyedBy key)
    {P : String → Prop} (hnew : ∀ value ∈ operation.keyValue?, P value)
    (hrows : ∀ row ∈ rows, ∃ value, IsKeyed columns key value row ∧ P value) :
    ∀ row ∈ operation.applyLines columns rows,
      ∃ value, IsKeyed columns key value row ∧ P value := by
  intro row hrow
  unfold applyLines at hrow
  split at hrow
  · next hkind =>
    rcases List.mem_append.1 hrow with hrow | hrow
    · exact hrows row hrow
    · obtain ⟨value, hvalue, hcompose⟩ := isKeyed_compose haccepted hkind hkeyed
      rw [List.mem_singleton.1 hrow]
      exact ⟨value, hcompose, hnew value hvalue⟩
  · next condition hkind _ =>
    obtain ⟨old, hold, rfl⟩ := List.mem_map.1 hrow
    obtain ⟨value, hold, hvalue⟩ := hrows old hold
    exact ⟨value, isKeyed_update haccepted hnodup hkind hkeyed hold condition, hvalue⟩
  · exact hrows row (List.mem_filter.1 hrow).1
  · exact hrows row hrow

/-- Rows of a part do not satisfy a condition on the key whose value is not of the part. -/
theorem satisfies_eq_false {condition : Predicate} (hcolumn : condition.column = key)
    (hrows : ∀ row ∈ rows, ∃ value, IsKeyed columns key value row) {part : String → Bool}
    (hpart : part condition.value = false) :
    ∀ row ∈ rows.filter (fun line => (key? columns key line).any part),
      Row.satisfies columns condition row = false := by
  intro row hrow
  obtain ⟨hrow, hkeep⟩ := List.mem_filter.1 hrow
  obtain ⟨value, hrow⟩ := hrows row hrow
  rw [Row.key?_of_isKeyed hrow, Option.any_some] at hkeep
  by_contra hsatisfies
  rw [Bool.not_eq_false, Row.satisfies_of_isKeyed hrow hcolumn] at hsatisfies
  rw [hsatisfies, hpart] at hkeep
  exact absurd hkeep (by decide)

/-- **An operation that goes by a key does to a part of the rows what it does to all of them**, if
its own key belongs to the part, and otherwise leaves the part alone. -/
theorem filter_applyLines (haccepted : operation.Accepted columns)
    (hnodup : ∀ columns' ∈ columns, columns'.Nodup) (hkeyed : operation.KeyedBy key)
    (hrows : ∀ row ∈ rows, ∃ value, IsKeyed columns key value row) (part : String → Bool) :
    (operation.applyLines columns rows).filter (fun line => (key? columns key line).any part) =
      if operation.keyValue?.all part
      then operation.applyLines columns
        (rows.filter fun line => (key? columns key line).any part)
      else rows.filter fun line => (key? columns key line).any part := by
  unfold applyLines
  split
  · next hkind =>
    obtain ⟨value, hvalue, hcompose⟩ := isKeyed_compose haccepted hkind hkeyed
    rw [List.filter_append, List.filter_singleton, Row.key?_of_isKeyed hcompose, hvalue]
    cases hpart : part value <;> simp [hpart]
  · next condition hkind hcondition =>
    obtain ⟨hcolumn, hvalue⟩ := hkeyed.findsBy.condition (by rw [hkind]; rfl) hcondition
    have hkeep : rows.filter ((fun line => (key? columns key line).any part) ∘ fun line =>
          if Row.satisfies columns condition line
          then Row.assign columns (operation.columns.zip operation.values) line else line) =
        rows.filter fun line => (key? columns key line).any part := by
      refine List.filter_congr fun row hrow => ?_
      obtain ⟨value, hrow⟩ := hrows row hrow
      have hafter := isKeyed_update haccepted hnodup hkind hkeyed hrow condition
      rw [Function.comp_apply, Row.key?_of_isKeyed hafter, Row.key?_of_isKeyed hrow]
    rw [List.filter_map, hkeep, hvalue, Option.all_some]
    cases hpart : part condition.value with
    | true => rfl
    | false =>
      refine (List.map_congr_left fun row hrow => ?_).trans (List.map_id _)
      rw [satisfies_eq_false hcolumn hrows hpart row hrow]
      rfl
  · next condition hkind hcondition =>
    obtain ⟨hcolumn, hvalue⟩ := hkeyed.findsBy.condition (by rw [hkind]; rfl) hcondition
    rw [List.filter_comm, hvalue, Option.all_some]
    cases hpart : part condition.value with
    | true => rfl
    | false =>
      refine List.filter_eq_self.2 fun row hrow => ?_
      rw [satisfies_eq_false hcolumn hrows hpart row hrow]
      rfl
  · rw [ite_self]

end Operation

end TableStore
