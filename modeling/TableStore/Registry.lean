import TableStore.Node.Client

/-!
# Registries

A registry makes storage nodes reachable under the identities of their replicas, and carries out
calls on them.  Either the nodes are called directly, or they are bound to a host and called over
a network.  In the first case a call on a replica that is not registered fails at once; in the
second it is the host that answers so.
-/

namespace TableStore

open FileSystem (Outcome)

/-- The registered nodes and the way to them. -/
inductive Registry
  | inProcess (nodes : KeyMap ReplicaId StorageNode)
  | networked (host : NodeHost) (link : Link) (attempts : Nat)

namespace Registry

/-- The registry whose nodes are called directly, without nodes. -/
def direct : Registry := .inProcess ∅

/-- The registry whose nodes are called over a network, without nodes. -/
def remote (link : Link) (attempts : Nat) : Registry := .networked .empty link attempts

/-- Makes a node reachable, in place of the one that had its identity. -/
def register (registry : Registry) (node : StorageNode) : Registry :=
  match registry with
  | inProcess nodes => .inProcess (nodes.insert node.id node)
  | networked host link attempts => .networked (host.bind node) link attempts

/-- Makes the node of a replica unreachable. -/
def unregister (registry : Registry) (id : ReplicaId) : Registry :=
  match registry with
  | inProcess nodes => .inProcess (nodes.erase id)
  | networked host link attempts => .networked (host.unbind id.text) link attempts

/-- The node that is registered for a replica. -/
def get? (registry : Registry) (id : ReplicaId) : Option StorageNode :=
  match registry with
  | inProcess nodes => nodes.get? id
  | networked host _ _ => host.nodes.get? id.text

/-- The number of registered nodes. -/
def size : Registry → Nat
  | inProcess nodes => nodes.size
  | networked host _ _ => host.nodes.size

/-- Carries out a call on a replica. -/
def call {kind : ReplyKind} (registry : Registry) (id : ReplicaId) (call : NodeCall kind)
    (fs : FileSystem) : Outcome CallError kind.Value :=
  match registry with
  | inProcess nodes =>
    match nodes.get? id with
    | none => (.error (.unregistered id), fs)
    | some node => node.answer call fs
  | networked host link attempts =>
    (NodeClient.create "" id.text attempts).call host link call fs

end Registry

end TableStore
