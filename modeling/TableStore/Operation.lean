/-!
# Operations

A request to read or change the rows of one table, as clients state it.
-/

namespace TableStore

/-- The condition that a column has a value.  On rows of pairs the column is a key, and the
condition holds if any pair of the row is that key with that value. -/
structure Predicate where
  column : String
  value : String
  deriving DecidableEq, Repr

/-- What an operation does. -/
inductive OperationKind
  | insert
  | update
  | delete
  | select
  deriving DecidableEq, Repr

namespace OperationKind

/-- The name of a kind of operation. -/
def text : OperationKind → String
  | insert => "Insert"
  | update => "Update"
  | delete => "Delete"
  | select => "Select"

/-- The kind of operation with the given name. -/
def ofText? : String → Option OperationKind
  | "Insert" => some insert
  | "Update" => some update
  | "Delete" => some delete
  | "Select" => some select
  | _ => none

@[simp] theorem ofText?_text (kind : OperationKind) : ofText? kind.text = some kind := by
  cases kind <;> rfl

end OperationKind

/-- A request about one table. -/
structure Operation where
  kind : OperationKind
  table : String
  /-- The columns, or keys, that are written. -/
  columns : List String
  /-- The values for `columns`, in the same order. -/
  values : List String
  /-- The rows that are changed. -/
  condition : Option Predicate
  deriving DecidableEq, Repr

namespace Operation

/-- The insertion of one row. -/
def insertion (table : String) (columns values : List String) : Operation :=
  ⟨.insert, table, columns, values, none⟩

/-- The assignment of values in the rows that satisfy a condition. -/
def assignment (table : String) (columns values : List String) (condition : Predicate) :
    Operation :=
  ⟨.update, table, columns, values, some condition⟩

/-- The removal of the rows that satisfy a condition. -/
def removal (table : String) (condition : Predicate) : Operation :=
  ⟨.delete, table, [], [], some condition⟩

/-- The reading of all rows. -/
def selection (table : String) : Operation := ⟨.select, table, [], [], none⟩

end Operation

end TableStore
