import TableStore.Layout.Router
import TableStore.Registry
import TableStore.ReplicatedTable.Summary
import TableStore.Text.Escaped

/-!
# Replicated tables

A replicated table has a number of storage nodes for each of its partitions, and every node holds
a copy of the partition's rows.  The table remembers of every replica whether the last heartbeat
round found it alive; nothing else changes what it remembers.  Stopping a replica makes its node
unreachable and keeps its rows; starting it makes the node reachable again.

The registry and the files are shared by all tables.  They form a `Cluster`, which every action
takes and gives back.
-/

namespace TableStore

/-- What all tables share: the registered nodes and the files. -/
structure Cluster where
  registry : Registry
  files : FileSystem

/-- What new tables are created with. -/
structure ReplicationSettings where
  /-- The directory of the nodes' files. -/
  dataDir : Path
  /-- The milliseconds between two heartbeat rounds. -/
  heartbeatInterval : Nat
  deriving DecidableEq, Repr

/-- One copy of a partition. -/
structure Replica where
  node : StorageNode
  /-- Whether the last heartbeat round found the replica alive. -/
  alive : Bool
  deriving DecidableEq, Repr

namespace Replica

/-- The identity of the replica. -/
def id (replica : Replica) : ReplicaId := replica.node.id

/-- The word for what the last heartbeat round found. -/
def state (replica : Replica) : String := if replica.alive then "ALIVE" else "DOWN"

/-- The replica after a heartbeat round. -/
def beat (cluster : Cluster) (replica : Replica) : Replica :=
  { replica with
    alive := (cluster.registry.call replica.id .heartbeat cluster.files).1.isOk }

end Replica

/-- What is reported of one replica. -/
structure ReplicaStatus where
  id : String
  partition : Nat
  replica : Nat
  state : String
  deriving DecidableEq, Repr

/-- The report of a replica. -/
def Replica.status (replica : Replica) : ReplicaStatus :=
  ⟨replica.id.text, replica.id.partition, replica.id.replica, replica.state⟩

/-- One table with all its replicas. -/
structure ReplicatedTable where
  table : TableDef
  router : Router
  /-- The replicas of every partition in the order of their numbers. -/
  partitions : List (List Replica)
  deriving DecidableEq, Repr

namespace ReplicatedTable

/-! ## Replicas -/

/-- All replicas, partition by partition. -/
def allReplicas (t : ReplicatedTable) : List Replica := t.partitions.flatten

/-- The replicas of a partition. -/
def replicas (t : ReplicatedTable) (partition : Nat) : List Replica :=
  t.partitions[partition]?.getD []

/-- One replica of a partition. -/
def replica? (t : ReplicatedTable) (partition replica : Nat) : Option Replica :=
  (t.replicas partition)[replica]?

/-- The report of all replicas, partition by partition. -/
def status (t : ReplicatedTable) : List ReplicaStatus := t.allReplicas.map Replica.status

/-- The table after a heartbeat round, which asks every replica once. -/
def beat (t : ReplicatedTable) (cluster : Cluster) : ReplicatedTable :=
  { t with partitions := t.partitions.map fun replicas => replicas.map (Replica.beat cluster) }

/-- Fails if a replica of the partition is down, and names the first one that is. -/
def checkAlive (t : ReplicatedTable) (partition : Nat) : Except Error Unit :=
  match (t.replicas partition).find? fun replica => !replica.alive with
  | none => .ok ()
  | some replica => .error (.cannotWrite partition replica.id.text)

/-- Fails if a replica of one of the partitions is down. -/
def checkAllAlive (t : ReplicatedTable) : List Nat → Except Error Unit
  | [] => .ok ()
  | partition :: rest =>
    match t.checkAlive partition with
    | .error e => .error e
    | .ok () => checkAllAlive t rest

/-- One replica of a partition, or the failure to find it. -/
def lookup (t : ReplicatedTable) (partition replica : Nat) : Except Error Replica :=
  match t.replica? partition replica with
  | some found => .ok found
  | none =>
    .error (.invalidOperation ("table " ++ t.table.key ++ " has no replica " ++
      toString replica ++ " in partition " ++ toString partition))

/-- Makes the node of a replica unreachable. -/
def stop (t : ReplicatedTable) (partition replica : Nat) (registry : Registry) :
    Except Error Registry :=
  (t.lookup partition replica).map fun found => registry.unregister found.id

/-- Makes the node of a replica reachable again, with the rows that it has. -/
def start (t : ReplicatedTable) (partition replica : Nat) (registry : Registry) :
    Except Error Registry :=
  (t.lookup partition replica).map fun found => registry.register found.node

/-- Makes all nodes of the table unreachable. -/
def release (t : ReplicatedTable) (registry : Registry) : Registry :=
  t.allReplicas.foldl (fun registry replica => registry.unregister replica.id) registry

/-! ## Creation -/

/-- The columns of the stores of a partition. -/
def storeColumns (table : TableDef) (router : Router) (partition : Nat) : Option (List String) :=
  match router.layout.kind with
  | .vertical => router.group partition
  | _ => table.columns

/-- Creates and registers nodes with the given identities, one after another.  A failure comes
with the cluster as it is by then. -/
def createNodes (dataDir : Path) (columns : ReplicaId → Option (List String)) :
    List ReplicaId → Cluster → Except (StoreError × List ReplicaId) (List StorageNode) × Cluster
  | [], cluster => (.ok [], cluster)
  | id :: rest, cluster =>
    match StorageNode.create id dataDir (columns id) cluster.files with
    | (.error e, files) => (.error (e, []), { cluster with files })
    | (.ok node, files) =>
      match createNodes dataDir columns rest ⟨cluster.registry.register node, files⟩ with
      | (.error (e, registered), cluster) => (.error (e, id :: registered), cluster)
      | (.ok nodes, cluster) => (.ok (node :: nodes), cluster)

/-- The identities of the replicas of a partition. -/
def replicaIds (table : TableDef) (replicaCount partition : Nat) : List ReplicaId :=
  (List.range replicaCount).map (.ofTable table partition)

/-- Why a table cannot be created, as far as that does not depend on its layout. -/
def checkCreation (table : TableDef) (replicaCount : Nat) (settings : ReplicationSettings) :
    Except Error Unit :=
  if replicaCount = 0 then .error (.config "replica count must be at least 1")
  else if !table.hasValidName then
    .error (.config ("invalid table name '" ++ Text.escape table.name ++ "'"))
  else if settings.heartbeatInterval = 0 then
    .error (.config "heartbeat interval must be greater than zero")
  else .ok ()

/-- The table whose replicas are run by the given nodes. -/
def ofNodes (table : TableDef) (router : Router) (nodes : List StorageNode) : ReplicatedTable where
  table := table
  router := router
  partitions := router.partitions.map fun partition =>
    (nodes.filter fun node => node.id.partition = partition).map fun node => ⟨node, true⟩

/-- Creates a table with empty stores, registers its nodes and makes a first heartbeat round.  If
the store of a node cannot be created, the nodes registered before are unregistered; their files
stay. -/
def create (table : TableDef) (replicaCount : Nat) (layout : Layout)
    (settings : ReplicationSettings) (cluster : Cluster) :
    Except Error ReplicatedTable × Cluster :=
  match checkCreation table replicaCount settings, Router.create layout table with
  | .error e, _ => (.error e, cluster)
  | .ok (), .error e => (.error e, cluster)
  | .ok (), .ok router =>
    match cluster.files.createDirectories settings.dataDir with
    | (.error cause, files) => (.error (.io cause), { cluster with files })
    | (.ok (), files) =>
      let ids := router.partitions.flatMap (replicaIds table replicaCount)
      let columns := fun id : ReplicaId => storeColumns table router id.partition
      match createNodes settings.dataDir columns ids { cluster with files } with
      | (.error (e, registered), cluster) =>
        (.error (.ofStore e),
          { cluster with registry := registered.foldl Registry.unregister cluster.registry })
      | (.ok nodes, cluster) => (.ok ((ofNodes table router nodes).beat cluster), cluster)

end ReplicatedTable

end TableStore
