import TableStore.Coordinator.Basic
import TableStore.Http.Basic
import TableStore.Wire.CoordinatorMessage

/-!
# The coordinator's interface

What a coordinator answers to requests from clients.  Requests that it refuses have the status
400, and failures of input and output have 500; in both cases the message gives the reason.
-/

namespace TableStore

open Http (Request Response)

namespace ReplicaStatus

def toJson (status : ReplicaStatus) : Json :=
  .object [("id", .text status.id), ("partition", .number status.partition),
    ("replica", .number status.replica), ("state", .text status.state)]

end ReplicaStatus

namespace Coordinator

/-! ## Responses -/

/-- What clients are told of every write that a replica which is down prevents. -/
def readOnlyMessage : String := "database in read-only mode due to failure"

/-- The response that consists of one text. -/
def textResponse (status : Nat) (text : String) : Response :=
  .message status (.object [("message", .text text)])

/-- The response to a request that failed. -/
def failure : Error → Response
  | .cannotWrite .. => textResponse 400 readOnlyMessage
  | .io cause => textResponse 500 cause.message
  | e => textResponse 400 e.message

/-- The response to a request: the text for its success, or its failure. -/
def report {α : Type} (success : String) : Except Error α → Response
  | .ok _ => textResponse 200 success
  | .error e => failure e

/-! ## Endpoints -/

/-- What can be asked of a coordinator. -/
inductive Endpoint
  | create
  | write (kind : OperationKind)
  | select
  | stop
  | start
  | status (kind table : String)
  deriving DecidableEq, Repr

namespace Endpoint

/-- The endpoint that a path names. -/
def ofPath? : List String → Option Endpoint
  | ["", "create"] => some create
  | ["", "insert"] => some (write .insert)
  | ["", "update"] => some (write .update)
  | ["", "delete"] => some (write .delete)
  | ["", "select"] => some select
  | ["", "replica", "stop"] => some stop
  | ["", "replica", "start"] => some start
  | ["", "status", kind, table] => if table = "" then none else some (status kind table)
  | _ => none

/-- The method by which an endpoint is called. -/
def method : Endpoint → Method
  | status .. => .get
  | _ => .post

end Endpoint

/-- The response about the replicas of a table. -/
def statusResponse (c : Coordinator) (kindText table : String) : Response :=
  match TableKind.ofText? kindText with
  | none => textResponse 400 (TableKind.unknownMessage kindText)
  | some kind =>
    match c.status kind table with
    | .error e => failure e
    | .ok replicas =>
      .message 200 (.object [("table", .text (tableKey table kind)),
        ("replicas", .list (replicas.map ReplicaStatus.toJson))])

/-- The response with the rows of a table. -/
def rowsResponse : Except Error String → Response
  | .ok rows => .message 200 (.object [("rows", .text rows)])
  | .error e => failure e

/-- The text that names a replica among those of its table. -/
def replicaName (request : ReplicaRequest) : String :=
  "replica " ++ toString request.partition ++ "/" ++ toString request.replica

/-- Answers a request to create a table. -/
def answerCreate (c : Coordinator) (request : CreateRequest) : Response × Coordinator :=
  let (result, c) := c.create request
  (report ("table " ++ request.table.key ++ " created") result, c)

/-- Answers a request to write to a table. -/
def answerWrite (c : Coordinator) (kind : OperationKind) (request : OperationRequest) :
    Response × Coordinator :=
  let (result, c) := c.write kind request
  (report (kind.text.toLower ++ " successful") result, c)

/-- Answers a request to read a table. -/
def answerSelect (c : Coordinator) (request : SelectRequest) : Response × Coordinator :=
  let (result, c) := c.select request
  (rowsResponse result, c)

/-- Answers a request to stop a replica. -/
def answerStop (c : Coordinator) (request : ReplicaRequest) : Response × Coordinator :=
  let (result, c) := c.stop request
  (report (replicaName request ++ " stopped") result, c)

/-- Answers a request to start a replica. -/
def answerStart (c : Coordinator) (request : ReplicaRequest) : Response × Coordinator :=
  let (result, c) := c.start request
  (report (replicaName request ++ " started") result, c)

/-- Reads the message of a request and answers it. -/
def answering {α : Type} (c : Coordinator) (request : Request) (decoder : Json.Decoder α)
    (answer : Coordinator → α → Response × Coordinator) : Response × Coordinator :=
  match request.message decoder with
  | .error response => (response, c)
  | .ok value => answer c value

/-- The response to a request. -/
def serve (c : Coordinator) (request : Request) : Response × Coordinator :=
  match Endpoint.ofPath? (Http.segments request.target) with
  | none => (.bare 404, c)
  | some endpoint =>
    if !request.isMadeBy endpoint.method then (.bare 405, c)
    else
      match endpoint with
      | .create => c.answering request CreateRequest.decoder answerCreate
      | .write kind =>
        c.answering request OperationRequest.decoder fun c value => c.answerWrite kind value
      | .select => c.answering request SelectRequest.decoder answerSelect
      | .stop => c.answering request ReplicaRequest.decoder answerStop
      | .start => c.answering request ReplicaRequest.decoder answerStart
      | .status kind table =>
        match Http.percentDecode? kind, Http.percentDecode? table with
        | some kind, some table => ((c.statusResponse kind table).send request, c)
        | _, _ => (.bare 400, c)

end Coordinator

end TableStore
