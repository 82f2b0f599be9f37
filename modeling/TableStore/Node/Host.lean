import TableStore.Http.Basic
import TableStore.Node.Basic
import TableStore.Wire.NodeMessage

/-!
# Node hosts

A host makes storage nodes reachable by requests.  Nodes are bound and unbound under the names of
their replicas.  A request names a replica and one of the endpoints of a node; the response
carries the node's answer, or an acknowledgement with the text of an error.
-/

namespace TableStore

open FileSystem (Outcome)
open Http (Request Response)

/-- The nodes that requests can reach. -/
structure NodeHost where
  /-- The bound nodes by the names of their replicas. -/
  nodes : KeyMap String StorageNode

namespace NodeHost

/-- The host without nodes. -/
def empty : NodeHost := ⟨∅⟩

/-- Makes a node reachable, in place of the one that had the name. -/
def bind (host : NodeHost) (node : StorageNode) : NodeHost :=
  ⟨host.nodes.insert node.id.text node⟩

/-- Makes the node of a replica unreachable. -/
def unbind (host : NodeHost) (replica : String) : NodeHost := ⟨host.nodes.erase replica⟩

/-- The response that reports a failure. -/
def failure (status : Nat) (text : String) : Response :=
  .message status (Ack.mk false (some text)).toJson

/-- The response to a call on a replica. -/
def call {kind : ReplyKind} (host : NodeHost) (replica : String) (call : NodeCall kind)
    (fs : FileSystem) : Response × FileSystem :=
  match host.nodes.get? replica with
  | none => (failure 404 ("replica " ++ replica ++ " not registered"), fs)
  | some node =>
    match node.answer call fs with
    | (.error e, fs) => (failure 500 e.message, fs)
    | (.ok value, fs) => (.message 200 (kind.toJson value), fs)

/-- The call that a request to an endpoint makes, or the response if it makes none. -/
def requestedCall (endpoint : NodeEndpoint) (request : Request) :
    Except Response ((kind : ReplyKind) × NodeCall kind) :=
  match endpoint.method with
  | .get => (NodeCall.decode endpoint .broken).mapError Http.rejection
  | .post => request.message (NodeCall.decode endpoint)

/-- The replica and the endpoint that a path names. -/
def locate (path : List String) : Option (String × NodeEndpoint) :=
  match path with
  | ["", "node", replica, name] => (NodeEndpoint.ofName? name).map fun endpoint =>
      (replica, endpoint)
  | _ => none

/-- The response to a request. -/
def serve (host : NodeHost) (request : Request) (fs : FileSystem) : Response × FileSystem :=
  match locate (Http.segments request.target) with
  | none => (.bare 404, fs)
  | some (replica, endpoint) =>
    if !request.isMadeBy endpoint.method then (.bare 405, fs)
    else
      match Http.percentDecode? replica, requestedCall endpoint request with
      | none, _ => (.bare 400, fs)
      | some _, .error response => (response, fs)
      | some replica, .ok ⟨_, call⟩ =>
        let (response, fs) := host.call replica call fs
        (response.send request, fs)

end NodeHost

end TableStore
