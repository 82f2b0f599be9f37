import TableStore.Layout.Basic
import TableStore.Operation
import TableStore.Text.Blank
import TableStore.Text.Decimal

/-!
# Routers

A router knows which partition of a table a row, a column or a condition belongs to.

* Under a layout by key, a row belongs to the partition that the number of its key leaves as
  remainder.  White space and single quotes around the number do not count.
* Under a layout by columns, each field goes to the partition whose group names its column.
-/

namespace TableStore

/-- The part of one write that a partition receives. -/
structure ColumnSlice where
  partition : Nat
  columns : List String
  values : List String
  deriving DecidableEq, Repr

/-- A layout that was found fit for its table. -/
structure Router where
  layout : Layout
  deriving DecidableEq, Repr

namespace Router

/-- The router of a layout, if the layout can be served for the table. -/
def create (layout : Layout) (table : TableDef) : Except Error Router :=
  match layout.validate table with
  | .error e => .error e
  | .ok () => .ok ⟨layout⟩

/-- The number of partitions. -/
def partitionCount (router : Router) : Nat := router.layout.partitionCount

/-- The partitions in ascending order. -/
def partitions (router : Router) : List Nat := List.range router.partitionCount

/-- The columns of the group of a partition. -/
def group (router : Router) (partition : Nat) : Option (List String) :=
  router.layout.columnGroups.bind (·[partition]?)

/-- The number of the last group that names a column. -/
def groupOf? (router : Router) (column : String) : Option Nat :=
  match router.layout.columnGroups with
  | none => none
  | some groups => ((groups.zipIdx.filter fun group => column ∈ group.1).map Prod.snd).getLast?

/-- The number that the text of a key denotes. -/
def keyNumber? (key : String) : Option Int :=
  Text.readInt64 (Text.trimWhile (· = '\'') (Text.trim key.toList))

/-- The partition of the rows with a key. -/
def partitionForKey (router : Router) (key : String) : Except Error Nat :=
  match keyNumber? key with
  | none =>
    .error (.invalidOperation
      ("horizontal partition key must be an integer, got '" ++ key ++ "'"))
  | some number => .ok (number % (router.partitionCount : Int)).toNat

/-- The failure to find the partition of a column. -/
def noPartition (column : String) : Error :=
  .invalidOperation ("column '" ++ column ++ "' belongs to no partition")

/-- The partition of a column. -/
def partitionOfColumn (router : Router) (column : String) : Except Error Nat :=
  match router.groupOf? column with
  | none => .error (noPartition column)
  | some group => .ok group

/-- The partition of each column, or the failure for the first column without one. -/
def placeAll (router : Router) :
    List (String × String) → Except Error (List (Nat × String × String))
  | [] => .ok []
  | field :: rest =>
    match router.partitionOfColumn field.1 with
    | .error e => .error e
    | .ok group =>
      match placeAll router rest with
      | .error e => .error e
      | .ok placed => .ok ((group, field) :: placed)

/-- The fields that were placed in one partition, in the order in which they were given. -/
def sliceOf (placed : List (Nat × String × String)) (partition : Nat) : ColumnSlice :=
  let fields := (placed.filter fun field => field.1 = partition).map Prod.snd
  ⟨partition, fields.map Prod.fst, fields.map Prod.snd⟩

/-- The fields of a write by partition, one slice for every partition. -/
def slices (router : Router) (columns values : List String) : Except Error (List ColumnSlice) :=
  (router.placeAll (columns.zip values)).map fun placed => router.partitions.map (sliceOf placed)

/-- The parts into which an insertion is split.  Under a layout by columns there is one for every
partition, so that each of them grows by one row. -/
def routeInsert (router : Router) (columns values : List String) :
    Except Error (List ColumnSlice) :=
  match router.layout.kind with
  | .none => .ok [⟨0, columns, values⟩]
  | .horizontal =>
    match values.head? with
    | none => .error (.invalidOperation "insert carries no partition key")
    | some key => (router.partitionForKey key).map fun partition => [⟨partition, columns, values⟩]
  | .vertical => router.slices columns values

/-- The partition in which a condition is looked up.  Under a layout by key the value counts as
the key, whatever the column is. -/
def routePredicate (router : Router) (condition : Predicate) : Except Error Nat :=
  match router.layout.kind with
  | .none => .ok 0
  | .horizontal => router.partitionForKey condition.value
  | .vertical => router.partitionOfColumn condition.column

/-- The assignments of an update by partition.  Partitions without assignments are left out. -/
def splitAssignments (router : Router) (columns values : List String) :
    Except Error (List ColumnSlice) :=
  (router.slices columns values).map fun slices => slices.filter fun slice => slice.columns ≠ []

end Router

end TableStore
