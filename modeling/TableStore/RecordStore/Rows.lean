import TableStore.Operation
import TableStore.Row

/-!
# Conditions and assignments on rows

Which rows satisfy a condition, what an assignment makes of a row, and what both do to a list of
rows.  A row is read under the columns of its store; a store without columns holds rows of pairs.

All functions here are pure: they take the lines of a store and give positions or lines.
Positions count from zero.
-/

namespace TableStore.Row

/-- Whether a row under `columns` has the value at its column.  A condition on a column that the
store does not have holds of no row. -/
def fieldsMatch (columns : List String) (condition : Predicate) (line : String) : Bool :=
  match columns.idxOf? condition.column with
  | none => false
  | some idx => (parsePadded line columns.length)[idx]? = some condition.value

/-- Whether one of the pairs of a row is the key with the value. -/
def pairsMatch (condition : Predicate) (line : String) : Bool :=
  (parsePairs line).contains (condition.column, condition.value)

/-- Whether a row satisfies a condition. -/
def satisfies (columns : Option (List String)) (condition : Predicate) (line : String) : Bool :=
  match columns with
  | some columns => fieldsMatch columns condition line
  | none => pairsMatch condition line

/-- The fields after one assignment.  A column that the store does not have is passed over. -/
def setField (columns : List String) (fields : List String) (assignment : String × String) :
    List String :=
  match columns.idxOf? assignment.1 with
  | none => fields
  | some idx => fields.set idx assignment.2

/-- The pairs after one assignment.  Every pair with the key gets the value; none is added. -/
def setPair (pairs : List (String × String)) (assignment : String × String) :
    List (String × String) :=
  pairs.map fun pair => if pair.1 = assignment.1 then (pair.1, assignment.2) else pair

/-- A row after the assignments, the first one first. -/
def assign (columns : Option (List String)) (assignments : List (String × String))
    (line : String) : String :=
  match columns with
  | some columns =>
    render (assignments.foldl (setField columns) (parsePadded line columns.length))
  | none => renderPairs (assignments.foldl setPair (parsePairs line))

/-- The row that an insertion adds. -/
def compose (tableColumns : Option (List String)) (columns values : List String) : String :=
  match tableColumns with
  | some tableColumns => render (layOut tableColumns columns values)
  | none => renderPairs (columns.zip values)

/-- The positions of the rows that satisfy a condition, in ascending order. -/
def matching (columns : Option (List String)) (condition : Predicate) (rows : List String) :
    List Nat :=
  (rows.zipIdx.filter fun row => satisfies columns condition row.1).map Prod.snd

/-- The rows with the assignments made at the given positions. -/
def assignAt (columns : Option (List String)) (assignments : List (String × String))
    (positions : List Nat) (rows : List String) : List String :=
  rows.mapIdx fun position line =>
    if position ∈ positions then assign columns assignments line else line

/-- The rows that are not at the given positions. -/
def removeAt (positions : List Nat) (rows : List String) : List String :=
  (rows.zipIdx.filter fun row => row.2 ∉ positions).map Prod.fst

end TableStore.Row
