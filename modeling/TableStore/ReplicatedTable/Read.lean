import TableStore.ReplicatedTable.Basic
import TableStore.Text.Lines

/-!
# Reading replicated tables

The rows of a partition are those of its first replica that is alive, registered and able to read
its store.  The rows of partitions by key follow one another; rows of partitions by columns with
the same number are joined into one.  Where a partition by columns has no row of a number, empty
fields stand in.
-/

namespace TableStore.ReplicatedTable

/-- The rows that the first of several replicas with an answer gives. -/
def firstRows (cluster : Cluster) : List Replica → Option (List String)
  | [] => none
  | replica :: rest =>
    match (cluster.registry.call replica.id .select cluster.files).1 with
    | .ok rows => some rows
    | .error _ => firstRows cluster rest

/-- The rows of a partition. -/
def readPartition (t : ReplicatedTable) (cluster : Cluster) (partition : Nat) :
    Except Error (List String) :=
  match firstRows cluster ((t.replicas partition).filter Replica.alive) with
  | some rows => .ok rows
  | none => .error (.noLiveReplica partition)

/-- The rows of several partitions, or the failure of the first that cannot be read. -/
def readAll (t : ReplicatedTable) (cluster : Cluster) :
    List Nat → Except Error (List (List String))
  | [] => .ok []
  | partition :: rest =>
    match t.readPartition cluster partition with
    | .error e => .error e
    | .ok rows =>
      match readAll t cluster rest with
      | .error e => .error e
      | .ok others => .ok (rows :: others)

/-- The number of columns of a partition by columns. -/
def groupWidth (t : ReplicatedTable) (partition : Nat) : Nat :=
  ((t.router.group partition).map List.length).getD 0

/-- As many empty fields as a group has columns. -/
def blankFields (width : Nat) : String := String.ofList (List.replicate width Row.separator)

/-- Row number `idx` of a partition, or empty fields in its place. -/
def rowOrBlank (width idx : Nat) (rows : List String) : String :=
  (rows[idx]?).getD (blankFields width)

/-- The rows of partitions by columns, joined by their numbers.  `groups` holds for each partition
the number of its columns and its rows. -/
def zipGroups (groups : List (Nat × List String)) : List String :=
  let longest := (groups.map fun group => group.2.length).foldl max 0
  (List.range longest).map fun idx =>
    String.join (groups.map fun group => rowOrBlank group.1 idx group.2)

/-- The rows of all partitions as rows of the table. -/
def mergeRows (t : ReplicatedTable) (perPartition : List (List String)) : List String :=
  match t.router.layout.kind with
  | .vertical => zipGroups (perPartition.mapIdx fun partition rows =>
      (t.groupWidth partition, rows))
  | _ => perPartition.flatten

/-- All rows of the table, each followed by a line feed. -/
def select (t : ReplicatedTable) (cluster : Cluster) : Except Error String :=
  (t.readAll cluster t.router.partitions).map fun perPartition =>
    Text.unlines (t.mergeRows perPartition)

end TableStore.ReplicatedTable
