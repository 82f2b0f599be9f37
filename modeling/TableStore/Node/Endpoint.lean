import TableStore.Node.Call

/-!
# Endpoints of storage nodes

Every call on a storage node has an endpoint of its own, below the address of the node's replica.
Calls that only ask are made with `GET`; calls that carry a message are made with `POST`.
-/

namespace TableStore

/-- How a request asks for something. -/
inductive Method
  | get
  | post
  deriving DecidableEq, Repr

/-- The name of a method. -/
def Method.text : Method → String
  | get => "GET"
  | post => "POST"

/-- The endpoints of a storage node. -/
inductive NodeEndpoint
  | select
  | insert
  | update
  | updateAt
  | delete
  | deleteAt
  | heartbeat
  deriving DecidableEq, Repr

namespace NodeEndpoint

/-- The last part of an endpoint's address. -/
def name : NodeEndpoint → String
  | select => "select"
  | insert => "insert"
  | update => "update"
  | updateAt => "update_positions"
  | delete => "delete"
  | deleteAt => "delete_positions"
  | heartbeat => "heartbeat"

/-- The endpoint with the given name. -/
def ofName? : String → Option NodeEndpoint
  | "select" => some select
  | "insert" => some insert
  | "update" => some update
  | "update_positions" => some updateAt
  | "delete" => some delete
  | "delete_positions" => some deleteAt
  | "heartbeat" => some heartbeat
  | _ => none

@[simp] theorem ofName?_name (endpoint : NodeEndpoint) : ofName? endpoint.name = some endpoint := by
  cases endpoint <;> rfl

/-- The method by which an endpoint is called. -/
def method : NodeEndpoint → Method
  | select | heartbeat => .get
  | _ => .post

end NodeEndpoint

/-- The endpoint of a call. -/
def NodeCall.endpoint {kind : ReplyKind} : NodeCall kind → NodeEndpoint
  | .select => .select
  | .insert .. => .insert
  | .update .. => .update
  | .updateAt .. => .updateAt
  | .delete .. => .delete
  | .deleteAt .. => .deleteAt
  | .heartbeat => .heartbeat

/-- The address that lies `endpoint` below the replica `replica` on the host at `base`. -/
def nodeAddress (base replica endpoint : String) : String :=
  base ++ "/node/" ++ replica ++ endpoint

end TableStore
