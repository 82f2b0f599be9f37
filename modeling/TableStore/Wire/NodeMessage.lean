import TableStore.Node.Endpoint
import TableStore.Wire.Model

/-!
# Messages to and from storage nodes

The messages that carry the arguments of a call to a storage node, and the messages that carry
its answer back.  A node that has nothing to tell but success or failure sends an acknowledgement.
-/

namespace TableStore

open Json

/-- The acknowledgement of a call, with the text of an error if there was one. -/
structure Ack where
  success : Bool
  error : Option String
  deriving DecidableEq, Repr

namespace Ack

def toJson (ack : Ack) : Json :=
  .object [("success", .bool ack.success), ("error", .optional .text ack.error)]

def decoder : Decoder Ack :=
  (Ack.mk <$> .required "success" asBool
    <*> .defaulted "error" (asOption asText) none : Record Ack).decode

end Ack

namespace NodeCall

/-- The message that carries the arguments of a call.  Calls that only ask have none. -/
def toJson? {kind : ReplyKind} : NodeCall kind → Option Json
  | .select => none
  | .insert columns values =>
    some (.object [("columns", .texts columns), ("values", .texts values)])
  | .update columns values condition =>
    some (.object [("columns", .texts columns), ("values", .texts values),
      ("predicate", condition.toJson)])
  | .updateAt positions columns values =>
    some (.object [("positions", .numbers positions), ("columns", .texts columns),
      ("values", .texts values)])
  | .delete condition => some (.object [("predicate", condition.toJson)])
  | .deleteAt positions => some (.object [("positions", .numbers positions)])
  | .heartbeat => none

def insertDecoder : Decoder (NodeCall .done) :=
  (NodeCall.insert <$> .required "columns" (asList asText)
    <*> .required "values" (asList asText) : Record _).decode

def updateDecoder : Decoder (NodeCall .positions) :=
  (NodeCall.update <$> .required "columns" (asList asText)
    <*> .required "values" (asList asText)
    <*> .required "predicate" Predicate.decoder : Record _).decode

def updateAtDecoder : Decoder (NodeCall .count) :=
  (NodeCall.updateAt <$> .required "positions" (asList asNat)
    <*> .required "columns" (asList asText)
    <*> .required "values" (asList asText) : Record _).decode

def deleteDecoder : Decoder (NodeCall .positions) :=
  (NodeCall.delete <$> .required "predicate" Predicate.decoder : Record _).decode

def deleteAtDecoder : Decoder (NodeCall .count) :=
  (NodeCall.deleteAt <$> .required "positions" (asList asNat) : Record _).decode

/-- Reads the call that a request to an endpoint makes. -/
def decode (endpoint : NodeEndpoint) (document : Document) :
    Except Rejection ((kind : ReplyKind) × NodeCall kind) :=
  match endpoint with
  | .select => .ok ⟨_, .select⟩
  | .heartbeat => .ok ⟨_, .heartbeat⟩
  | .insert => (insertDecoder document).map fun call => ⟨_, call⟩
  | .update => (updateDecoder document).map fun call => ⟨_, call⟩
  | .updateAt => (updateAtDecoder document).map fun call => ⟨_, call⟩
  | .delete => (deleteDecoder document).map fun call => ⟨_, call⟩
  | .deleteAt => (deleteAtDecoder document).map fun call => ⟨_, call⟩

end NodeCall

namespace ReplyKind

/-- The message that carries an answer. -/
def toJson : (kind : ReplyKind) → kind.Value → Json
  | .rows, lines => .object [("rows", .texts lines)]
  | .done, () => (Ack.mk true none).toJson
  | .positions, found => .object [("positions", .numbers found)]
  | .count, n => .object [("count", .number n)]

/-- Reads the message that carries an answer.  An acknowledgement answers as such, whatever it
says about success. -/
def decoder : (kind : ReplyKind) → Decoder kind.Value
  | .rows => (id <$> .required "rows" (asList asText) : Record (List String)).decode
  | .done => fun document => (Ack.decoder document).map fun _ => ()
  | .positions => (id <$> .required "positions" (asList asNat) : Record (List Nat)).decode
  | .count => (id <$> .required "count" asNat : Record Nat).decode

end ReplyKind

end TableStore
