import TableStore.Node.Host

/-!
# Node clients

A client carries out the calls on one replica by requests to the host that the replica's node is
bound to.  The network between them is a `Link`, which says for every attempt what becomes of it.
An attempt that brings no response is repeated, up to the number of attempts that the client was
given; whatever response comes back, it is taken as it is.  Heartbeats are tried once only.
-/

namespace TableStore

open FileSystem (Outcome)
open Http (Request Response)

/-- What becomes of one attempt to get a response. -/
inductive Delivery
  /-- The request does not reach the host. -/
  | lost
  /-- The host carries out the request, and its response does not come back. -/
  | unanswered
  /-- The response comes back. -/
  | answered
  deriving DecidableEq, Repr

/-- What becomes of the attempts of a call, counted from zero. -/
abbrev Link := Nat → Delivery

namespace Link

/-- The network that delivers everything. -/
def up : Link := fun _ => .answered

/-- The network that delivers nothing. -/
def down : Link := fun _ => .lost

end Link

/-- A response as its receiver sees it. -/
structure Received where
  status : Nat
  body : Document

/-- What the receiver sees of a response. -/
def Received.ofResponse (response : Response) : Received :=
  ⟨response.status, (response.body.map Json.toDocument).getD .broken⟩

/-- What a received response means for a call on a replica. -/
def Received.answer (kind : ReplyKind) (replica : String) (received : Received) :
    Except CallError kind.Value :=
  if received.status = 404 then .error (.notRegistered replica)
  else if 200 ≤ received.status ∧ received.status < 300 then
    (kind.decoder received.body).mapError fun _ => .decode "unexpected message"
  else
    match Ack.decoder received.body with
    | .ok ⟨_, some text⟩ => .error (.store text)
    | _ => .error (.status received.status)

/-- The way to one replica on a host. -/
structure NodeClient where
  /-- The address of the host. -/
  base : String
  replica : String
  /-- The number of attempts at a call. -/
  attempts : Nat
  deriving DecidableEq, Repr

namespace NodeClient

/-- The client for a replica.  Slashes at the end of the host's address are dropped, and there is
one attempt at least. -/
def create (base replica : String) (attempts : Nat) : NodeClient :=
  ⟨String.ofList (base.toList.reverse.dropWhile (· = '/')).reverse, replica, max attempts 1⟩

/-- The number of attempts at a call. -/
def attemptsFor {kind : ReplyKind} (client : NodeClient) : NodeCall kind → Nat
  | .heartbeat => 1
  | _ => client.attempts

/-- The request that makes a call. -/
def request {kind : ReplyKind} (client : NodeClient) (call : NodeCall kind) : Request where
  method := call.endpoint.method.text
  target := nodeAddress "" client.replica ("/" ++ call.endpoint.name)
  contentType := call.toJson?.map fun _ => "application/json"
  body := (call.toJson?.map Json.toDocument).getD .broken

/-- Sends a request until a response comes back, `remaining` times at most.  The first attempt has
the number `attempt`. -/
def send (host : NodeHost) (link : Link) (request : Request) (attempt : Nat) :
    Nat → FileSystem → Option Response × FileSystem
  | 0, fs => (none, fs)
  | remaining + 1, fs =>
    match link attempt with
    | .lost => send host link request (attempt + 1) remaining fs
    | .unanswered =>
      send host link request (attempt + 1) remaining (host.serve request fs).2
    | .answered =>
      let (response, fs) := host.serve request fs
      (some response, fs)

/-- Carries out a call over a network. -/
def call {kind : ReplyKind} (client : NodeClient) (host : NodeHost) (link : Link)
    (call : NodeCall kind) (fs : FileSystem) : Outcome CallError kind.Value :=
  match send host link (client.request call) 0 (client.attemptsFor call) fs with
  | (none, fs) => (.error (.transport "no response"), fs)
  | (some response, fs) => ((Received.ofResponse response).answer kind client.replica, fs)

end NodeClient

end TableStore
