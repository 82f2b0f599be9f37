import TableStore.Coordinator.Check
import TableStore.Coordinator.Request
import TableStore.ReplicatedTable.Read
import TableStore.ReplicatedTable.Write

/-!
# Coordinators

A coordinator owns any number of replicated tables, one for each name and kind.  It checks every
request against the table that it is about, and keeps the rows that were read last of each table
in a cache.  A write that was carried out drops its table from the cache, as does the creation of
a table; a write that is refused changes nothing.
-/

namespace TableStore

/-- The rows that were read last, by the names of the tables. -/
abbrev ResultCache := KeyMap String String

/-- A coordinator with its tables and all that they share. -/
structure Coordinator where
  tables : KeyMap String ReplicatedTable
  cache : ResultCache
  cluster : Cluster
  settings : ReplicationSettings

namespace Coordinator

/-- The coordinator without tables. -/
def empty (cluster : Cluster) (settings : ReplicationSettings) : Coordinator :=
  ⟨∅, ∅, cluster, settings⟩

/-- The table of a kind with a name, or the failure to find it. -/
def find (c : Coordinator) (kind : TableKind) (name : String) : Except Error ReplicatedTable :=
  match c.tables.get? (tableKey name kind) with
  | some t => .ok t
  | none => .error (.notFound (tableKey name kind))

/-- Creates a table, unless there is one of the same name and kind. -/
def create (c : Coordinator) (request : CreateRequest) : Except Error Unit × Coordinator :=
  let table := request.table
  match table.validate with
  | .error e => (.error e, c)
  | .ok () =>
    if c.tables.contains table.key then (.error (.alreadyExists table.key), c)
    else
      match ReplicatedTable.create table request.replicaCount request.layout c.settings
          c.cluster with
      | (.error e, cluster) => (.error e, { c with cluster })
      | (.ok t, cluster) =>
        (.ok (), { c with
          tables := c.tables.insert table.key t
          cache := c.cache.erase table.key
          cluster })

/-- The table that a write is about, or the reason to refuse the write.  `expected` is what the
operation must do. -/
def writable (c : Coordinator) (expected : OperationKind) (request : OperationRequest) :
    Except Error ReplicatedTable :=
  let operation := request.operation
  if operation.kind ≠ expected then
    .error (.invalidOperation ("expected " ++ expected.text ++ ", got " ++ operation.kind.text))
  else
    match c.find request.kind operation.table with
    | .error e => .error e
    | .ok t => (operation.validate t.table).map fun () => t

/-- Carries out a write that must do what `expected` says. -/
def write (c : Coordinator) (expected : OperationKind) (request : OperationRequest) :
    Except Error Summary × Coordinator :=
  match c.writable expected request with
  | .error e => (.error e, c)
  | .ok t =>
    match t.write request.operation c.cluster with
    | (.error e, cluster) => (.error e, { c with cluster })
    | (.ok summary, cluster) =>
      (.ok summary, { c with cache := c.cache.erase t.table.key, cluster })

/-- All rows of a table, from the cache if it holds them. -/
def select (c : Coordinator) (request : SelectRequest) : Except Error String × Coordinator :=
  match c.find request.kind request.table with
  | .error e => (.error e, c)
  | .ok t =>
    match c.cache.get? t.table.key with
    | some payload => (.ok payload, c)
    | none =>
      match t.select c.cluster with
      | .error e => (.error e, c)
      | .ok payload => (.ok payload, { c with cache := c.cache.insert t.table.key payload })

/-- Makes the node of a replica unreachable. -/
def stop (c : Coordinator) (request : ReplicaRequest) : Except Error Unit × Coordinator :=
  match c.find request.kind request.table with
  | .error e => (.error e, c)
  | .ok t =>
    match t.stop request.partition request.replica c.cluster.registry with
    | .error e => (.error e, c)
    | .ok registry => (.ok (), { c with cluster := { c.cluster with registry } })

/-- Makes the node of a replica reachable again. -/
def start (c : Coordinator) (request : ReplicaRequest) : Except Error Unit × Coordinator :=
  match c.find request.kind request.table with
  | .error e => (.error e, c)
  | .ok t =>
    match t.start request.partition request.replica c.cluster.registry with
    | .error e => (.error e, c)
    | .ok registry => (.ok (), { c with cluster := { c.cluster with registry } })

/-- The report of all replicas of a table. -/
def status (c : Coordinator) (kind : TableKind) (table : String) :
    Except Error (List ReplicaStatus) :=
  (c.find kind table).map ReplicatedTable.status

/-- The coordinator after a heartbeat round of every table. -/
def beat (c : Coordinator) : Coordinator :=
  { c with tables := c.tables.map fun t => t.beat c.cluster }

end Coordinator

end TableStore
