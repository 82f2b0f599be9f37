import TableStore.Node.Call
import TableStore.RecordStore.Basic

/-!
# Storage nodes

A storage node holds the rows of one replica in a record store of its own, in a file that is named
for the replica.
-/

namespace TableStore

open FileSystem (Outcome)

/-- The node of one replica. -/
structure StorageNode where
  id : ReplicaId
  store : RecordStore
  deriving DecidableEq, Repr

namespace StorageNode

/-- Creates a node with an empty store in the directory `dataDir`. -/
def create (id : ReplicaId) (dataDir : Path) (columns : Option (List String))
    (fs : FileSystem) : Outcome StoreError StorageNode :=
  match RecordStore.create (dataDir.join (Path.ofText id.fileName)) columns fs with
  | (.error e, fs) => (.error e, fs)
  | (.ok store, fs) => (.ok ⟨id, store⟩, fs)

/-- What the node's store does for a call.  A heartbeat does not touch the store. -/
def run {kind : ReplyKind} (node : StorageNode) (call : NodeCall kind) (fs : FileSystem) :
    Outcome StoreError kind.Value :=
  match call with
  | .select => (node.store.select fs, fs)
  | .insert columns values => node.store.insert columns values fs
  | .update columns values condition => node.store.update columns values condition fs
  | .updateAt positions columns values => node.store.updateAt positions columns values fs
  | .delete condition => node.store.delete condition fs
  | .deleteAt positions => node.store.deleteAt positions fs
  | .heartbeat => (.ok (), fs)

/-- The node's answer to a call.  An error of the store is reported by its text. -/
def answer {kind : ReplyKind} (node : StorageNode) (call : NodeCall kind) (fs : FileSystem) :
    Outcome CallError kind.Value :=
  match node.run call fs with
  | (.error e, fs) => (.error (.store e.message), fs)
  | (.ok value, fs) => (.ok value, fs)

end StorageNode

end TableStore
