import TableStore.Error
import TableStore.Table

/-!
# Layouts

How a table is split into partitions: not at all, by the number that a row's key denotes, or by
groups of columns.  A layout is fixed when the table is created; `validate` refuses the layouts
that no router could serve for the table, and names the first fault that it finds.
-/

namespace TableStore

/-- What decides the partition of a field. -/
inductive LayoutKind
  /-- There is one partition, which holds everything. -/
  | none
  /-- The key of its row decides. -/
  | horizontal
  /-- Its column decides. -/
  | vertical
  deriving DecidableEq, Repr

namespace LayoutKind

/-- The name of a kind of layout. -/
def text : LayoutKind → String
  | none => "none"
  | horizontal => "horizontal"
  | vertical => "vertical"

/-- The kind of layout with the given name. -/
def ofText? : String → Option LayoutKind
  | "none" => some none
  | "horizontal" => some horizontal
  | "vertical" => some vertical
  | _ => Option.none

@[simp] theorem ofText?_text (kind : LayoutKind) : ofText? kind.text = some kind := by
  cases kind <;> rfl

end LayoutKind

/-- How a table is split into partitions. -/
structure Layout where
  kind : LayoutKind
  partitionCount : Nat
  /-- The columns of each partition, if columns decide. -/
  columnGroups : Option (List (List String))
  deriving DecidableEq, Repr

namespace Layout

/-- The greatest number of partitions that a table can have. -/
def maxPartitions : Nat := 3

/-- The layout with one partition. -/
def single : Layout := ⟨.none, 1, none⟩

/-- The layout with `count` partitions by key. -/
def byKey (count : Nat) : Layout := ⟨.horizontal, count, none⟩

/-- The layout with one partition for each group of columns. -/
def byColumns (groups : List (List String)) : Layout := ⟨.vertical, groups.length, some groups⟩

/-- What can be wrong with a layout. -/
inductive Fault
  | partitionCount (count : Nat)
  | notSinglePartition (count : Nat)
  | groupsNotAllowed (kind : LayoutKind)
  | pairsNotSplit
  | noColumns
  | noGroups
  | groupCount (expected actual : Nat)
  | emptyGroup (group : Nat)
  | unknownColumn (group : Nat) (column : String)
  | repeatedColumn (column : String)
  | missingColumn (column : String)
  deriving DecidableEq, Repr

/-- The text of a fault. -/
def Fault.message : Fault → String
  | partitionCount count =>
    "partition count must be between 1 and " ++ toString maxPartitions ++ ", got " ++
      toString count
  | notSinglePartition count =>
    "unpartitioned table uses exactly one partition, got " ++ toString count
  | groupsNotAllowed kind =>
    "column groups are only allowed for vertical partitioning, not " ++ kind.text
  | pairsNotSplit => "NoSQL tables cannot be partitioned vertically"
  | noColumns => "vertical partitioning requires a column list"
  | noGroups => "vertical partitioning requires column groups"
  | groupCount expected actual =>
    "expected " ++ toString expected ++ " column groups, got " ++ toString actual
  | emptyGroup group => "column group " ++ toString group ++ " is empty"
  | unknownColumn group column =>
    "column group " ++ toString group ++ " names unknown column '" ++ column ++ "'"
  | repeatedColumn column => "column '" ++ column ++ "' appears in more than one group"
  | missingColumn column => "column '" ++ column ++ "' is not assigned to any group"

/-- Checks the columns of a group against the table's columns and against those `seen` before,
and answers the columns seen by then. -/
def checkGroup (columns : List String) (group : Nat) (seen : List String) :
    List String → Except Fault (List String)
  | [] => .ok seen
  | column :: rest =>
    if column ∉ columns then .error (.unknownColumn group column)
    else if column ∈ seen then .error (.repeatedColumn column)
    else checkGroup columns group (column :: seen) rest

/-- Checks groups one after another, the first of which has the number `group`. -/
def checkGroups (columns : List String) (group : Nat) (seen : List String) :
    List (List String) → Except Fault (List String)
  | [] => .ok seen
  | names :: rest =>
    if names = [] then .error (.emptyGroup group)
    else
      match checkGroup columns group seen names with
      | .error fault => .error fault
      | .ok seen => checkGroups columns (group + 1) seen rest

/-- Checks that the groups share out the columns among `count` partitions. -/
def checkColumns (count : Nat) (columns : List String) (groups : List (List String)) :
    Except Fault Unit :=
  if groups.length ≠ count then .error (.groupCount count groups.length)
  else
    match checkGroups columns 0 [] groups with
    | .error fault => .error fault
    | .ok seen =>
      match columns.find? (· ∉ seen) with
      | some column => .error (.missingColumn column)
      | none => .ok ()

/-- Checks that no groups of columns are given. -/
def checkNoGroups (layout : Layout) : Except Fault Unit :=
  if layout.columnGroups.isSome then .error (.groupsNotAllowed layout.kind) else .ok ()

/-- The first fault of a layout for a table, if it has one. -/
def check (layout : Layout) (table : TableDef) : Except Fault Unit :=
  if layout.partitionCount = 0 ∨ maxPartitions < layout.partitionCount then
    .error (.partitionCount layout.partitionCount)
  else
    match layout.kind with
    | .none =>
      if layout.partitionCount ≠ 1 then .error (.notSinglePartition layout.partitionCount)
      else layout.checkNoGroups
    | .horizontal => layout.checkNoGroups
    | .vertical =>
      match table.kind, table.columns, layout.columnGroups with
      | .noSql, _, _ => .error .pairsNotSplit
      | .sql, none, _ => .error .noColumns
      | .sql, some _, none => .error .noGroups
      | .sql, some columns, some groups => checkColumns layout.partitionCount columns groups

/-- Refuses the layouts that cannot be served for a table. -/
def validate (layout : Layout) (table : TableDef) : Except Error Unit :=
  (layout.check table).mapError fun fault => .config fault.message

end Layout

end TableStore
