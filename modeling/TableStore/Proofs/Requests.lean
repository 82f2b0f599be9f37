import TableStore.Coordinator.Check
import TableStore.Proofs.Stores

/-!
# What accepted requests look like

A coordinator takes only texts that can be fields of rows.  Here is what follows from its checks:
the header of an accepted table is one line (`isLine_header`), and an accepted operation has only
fields, columns of its table, and as many values as columns (`accepted_of_validate`).
-/

namespace TableStore

open Text (IsLine)

/-! ## Fields -/

section

variable {text : String} (h : isField text = true)
include h

theorem separator_notMem_of_isField : Row.separator ∉ text.toList := by
  intro hmem
  simp only [isField, List.all_eq_true] at h
  simpa using h _ hmem

theorem lineFeed_notMem_of_isField : '\n' ∉ text.toList := by
  intro hmem
  simp only [isField, List.all_eq_true] at h
  simpa using h _ hmem

theorem return_notMem_of_isField : '\r' ∉ text.toList := by
  intro hmem
  simp only [isField, List.all_eq_true] at h
  simpa using h _ hmem

end

theorem mem_renderHeader {columns : List String} {c : Char}
    (h : c ∈ (Row.renderHeader columns).toList) :
    c = ',' ∨ ∃ column ∈ columns, c ∈ column.toList := by
  induction columns with
  | nil => simp [Row.renderHeader] at h
  | cons column rest ih =>
    cases rest with
    | nil =>
      rw [Row.renderHeader, String.intercalate_singleton] at h
      exact Or.inr ⟨column, List.mem_cons_self, h⟩
    | cons next rest =>
      rw [Row.renderHeader, String.intercalate_cons_cons, String.toList_append,
        String.toList_append, List.mem_append, List.mem_append] at h
      rcases h with (hc | hc) | hc
      · exact Or.inr ⟨column, List.mem_cons_self, hc⟩
      · exact Or.inl (by simpa using hc)
      · rcases ih hc with rfl | ⟨other, hother, hmem⟩
        · exact Or.inl rfl
        · exact Or.inr ⟨other, List.mem_cons_of_mem _ hother, hmem⟩

/-- A header is one line if no column holds a part of a line's end. -/
theorem isLine_renderHeader {columns : List String}
    (h : ∀ column ∈ columns, '\r' ∉ column.toList ∧ '\n' ∉ column.toList) :
    IsLine (Row.renderHeader columns) := by
  constructor
  · intro hmem
    rcases mem_renderHeader hmem with hc | ⟨column, hcolumn, hc⟩
    · exact absurd hc (by decide)
    · exact (h column hcolumn).2 hc
  · intro hlast
    rcases mem_renderHeader (List.mem_of_getLast? hlast) with hc | ⟨column, hcolumn, hc⟩
    · exact absurd hc (by decide)
    · exact (h column hcolumn).1 hc

/-- A header of fields is one line. -/
theorem isLine_header {columns : List String} (h : ∀ column ∈ columns, isField column = true) :
    IsLine (Row.renderHeader columns) :=
  isLine_renderHeader fun column hcolumn =>
    ⟨return_notMem_of_isField (h column hcolumn), lineFeed_notMem_of_isField (h column hcolumn)⟩

/-! ## Tables -/

theorem checkColumnNames_ok {seen columns : List String}
    (h : checkColumnNames seen columns = .ok ()) :
    (∀ column ∈ columns, isField column = true) ∧ columns.Nodup ∧
      ∀ column ∈ columns, column ∉ seen := by
  induction columns generalizing seen with
  | nil => simp
  | cons column rest ih =>
    simp only [checkColumnNames] at h
    split at h
    · simp at h
    · next hfield =>
      split at h
      · simp at h
      · split at h
        · simp at h
        · next hfresh =>
          obtain ⟨hfields, hnodup, hseen⟩ := ih h
          have hout : column ∉ rest := fun hmem => hseen column hmem List.mem_cons_self
          refine ⟨List.forall_mem_cons.2 ⟨by simpa using hfield, hfields⟩,
            List.nodup_cons.2 ⟨hout, hnodup⟩, List.forall_mem_cons.2 ⟨hfresh, ?_⟩⟩
          exact fun other hother hmem => hseen other hother (List.mem_cons_of_mem _ hmem)

/-- The columns of an accepted table are different fields, and there is one at least. -/
theorem TableDef.validate_ok {table : TableDef} (h : table.validate = .ok ()) :
    (table.kind = .sql ↔ table.columns ≠ none) ∧ ∀ columns ∈ table.columns,
      columns ≠ [] ∧ columns.Nodup ∧ ∀ column ∈ columns, isField column = true := by
  unfold TableDef.validate at h
  split at h
  · simp at h
  · split at h
    · simp at h
    · next columns hne hkind hcolumns =>
      obtain ⟨hfields, hnodup, -⟩ := checkColumnNames_ok h
      refine ⟨by simp [hkind, hcolumns], ?_⟩
      rw [hcolumns]
      rintro other ⟨rfl⟩
      exact ⟨hne, hnodup, hfields⟩
    · simp at h
    · simp at h
    · next hkind hcolumns => simp [hkind, hcolumns]

/-! ## Operations -/

namespace Operation

/-- What the checks of an operation establish. -/
structure Accepted (operation : Operation) (columns : Option (List String)) : Prop where
  fields : ∀ text ∈ operation.fields, isField text = true
  counts : operation.kind.assigns = true →
    operation.columns ≠ [] ∧ operation.columns.length = operation.values.length
  known : ∀ names ∈ columns, (∀ column ∈ operation.columns, column ∈ names) ∧
    ∀ condition ∈ operation.condition, condition.column ∈ names

variable {operation : Operation} {columns : Option (List String)}

theorem accepted_of_validate {table : TableDef} (h : operation.validate table = .ok ()) :
    operation.Accepted table.columns := by
  unfold validate at h
  split at h
  · simp at h
  · simp at h
  · simp at h
  · next hcounts hcondition hfields =>
    refine ⟨?_, ?_, ?_⟩
    · unfold checkFields at hfields
      split at hfields
      · simp at hfields
      · next hnone => simpa [List.find?_eq_none] using hnone
    · intro hassigns
      unfold checkCounts at hcounts
      rw [hassigns] at hcounts
      split at hcounts
      · next hnot => simp at hnot
      · split at hcounts
        · simp at hcounts
        · next hne =>
          split at hcounts
          · simp at hcounts
          · next hlength => exact ⟨hne, not_not.1 hlength⟩
    · intro names hnames
      unfold checkColumns at h
      rw [Option.mem_def.1 hnames] at h
      simp only at h
      split at h
      · simp at h
      · next hunknown hnone =>
        rw [hnone]
        refine ⟨?_, by simp⟩
        simpa [List.find?_eq_none] using hunknown
      · next condition hunknown hsome =>
        rw [hsome]
        split at h
        · next hmem =>
          refine ⟨by simpa [List.find?_eq_none] using hunknown, ?_⟩
          rintro other ⟨rfl⟩
          exact hmem
        · simp at h

namespace Accepted

variable (h : operation.Accepted columns)
include h

theorem isField_value {value : String} (hvalue : value ∈ operation.values) :
    isField value = true :=
  h.fields value (by simp [Operation.fields, hvalue])

end Accepted

end Operation

end TableStore
