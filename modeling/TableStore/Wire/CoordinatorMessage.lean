import TableStore.Coordinator.Request
import TableStore.Wire.Model

/-!
# Messages to the coordinator

The messages that carry requests to a coordinator.  A table that is created without further word
has one copy of its only partition.
-/

namespace TableStore

open Json

namespace CreateRequest

def toJson (request : CreateRequest) : Json :=
  .object [("table", .text request.table.name), ("table_kind", request.table.kind.toJson),
    ("columns", .optional .texts request.table.columns),
    ("replica_count", .number request.replicaCount), ("partition", request.layout.toJson)]

/-- The request with the given parts, in the order of the message. -/
def ofParts (name : String) (kind : TableKind) (columns : Option (List String))
    (replicaCount : Nat) (layout : Layout) : CreateRequest :=
  ⟨⟨name, kind, columns⟩, replicaCount, layout⟩

def decoder : Decoder CreateRequest :=
  (ofParts <$> .required "table" asText <*> .required "table_kind" TableKind.decoder
    <*> .defaulted "columns" (asOption (asList asText)) none
    <*> .defaulted "replica_count" asNat 1
    <*> .defaulted "partition" Layout.decoder Layout.single : Record CreateRequest).decode

end CreateRequest

namespace OperationRequest

def toJson (request : OperationRequest) : Json :=
  .object [("table_kind", request.kind.toJson), ("operation", request.operation.toJson)]

def decoder : Decoder OperationRequest :=
  (OperationRequest.mk <$> .required "table_kind" TableKind.decoder
    <*> .required "operation" Operation.decoder : Record OperationRequest).decode

end OperationRequest

namespace SelectRequest

def toJson (request : SelectRequest) : Json :=
  .object [("table_kind", request.kind.toJson), ("table", .text request.table)]

def decoder : Decoder SelectRequest :=
  (SelectRequest.mk <$> .required "table_kind" TableKind.decoder
    <*> .required "table" asText : Record SelectRequest).decode

end SelectRequest

namespace ReplicaRequest

def toJson (request : ReplicaRequest) : Json :=
  .object [("table_kind", request.kind.toJson), ("table", .text request.table),
    ("partition", .number request.partition), ("replica", .number request.replica)]

def decoder : Decoder ReplicaRequest :=
  (ReplicaRequest.mk <$> .required "table_kind" TableKind.decoder
    <*> .required "table" asText <*> .required "partition" asNat
    <*> .required "replica" asNat : Record ReplicaRequest).decode

end ReplicaRequest

end TableStore
