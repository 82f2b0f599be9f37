import TableStore.Json.Record
import TableStore.Layout.Basic
import TableStore.Operation

/-!
# Tables, operations and layouts in messages

For each type, `toJson` writes its values and `decoder` reads them.  The operation's condition is
the field `where`.  An operation may leave out its lists and its condition; a layout may leave out
everything and is then the one with a single partition.
-/

namespace TableStore

open Json

namespace TableKind

def toJson (kind : TableKind) : Json := .text kind.text

def decoder : Decoder TableKind := asName ofText?

end TableKind

namespace TableDef

def toJson (table : TableDef) : Json :=
  .object [("name", .text table.name), ("kind", table.kind.toJson),
    ("columns", .optional .texts table.columns)]

def decoder : Decoder TableDef :=
  (TableDef.mk <$> .required "name" asText <*> .required "kind" TableKind.decoder
    <*> .nullable "columns" (asList asText) : Record TableDef).decode

end TableDef

namespace ReplicaId

def toJson (id : ReplicaId) : Json :=
  .object [("table", .text id.table), ("kind", id.kind.toJson),
    ("partition", .number id.partition), ("replica", .number id.replica)]

def decoder : Decoder ReplicaId :=
  (ReplicaId.mk <$> .required "table" asText <*> .required "kind" TableKind.decoder
    <*> .required "partition" asNat <*> .required "replica" asNat : Record ReplicaId).decode

end ReplicaId

namespace Predicate

def toJson (condition : Predicate) : Json :=
  .object [("column", .text condition.column), ("value", .text condition.value)]

def decoder : Decoder Predicate :=
  (Predicate.mk <$> .required "column" asText <*> .required "value" asText :
    Record Predicate).decode

end Predicate

namespace OperationKind

def toJson (kind : OperationKind) : Json := .text kind.text

def decoder : Decoder OperationKind := asName ofText?

end OperationKind

namespace Operation

def toJson (operation : Operation) : Json :=
  .object [("kind", operation.kind.toJson), ("table", .text operation.table),
    ("columns", .texts operation.columns), ("values", .texts operation.values),
    ("where", .optional Predicate.toJson operation.condition)]

def decoder : Decoder Operation :=
  (Operation.mk <$> .required "kind" OperationKind.decoder <*> .required "table" asText
    <*> .defaulted "columns" (asList asText) [] <*> .defaulted "values" (asList asText) []
    <*> .defaulted "where" (asOption Predicate.decoder) none : Record Operation).decode

end Operation

namespace LayoutKind

def toJson (kind : LayoutKind) : Json := .text kind.text

def decoder : Decoder LayoutKind := asName ofText?

end LayoutKind

namespace Layout

def toJson (layout : Layout) : Json :=
  .object [("type", layout.kind.toJson), ("partition_count", .number layout.partitionCount),
    ("column_groups",
      .optional (fun groups => .list (groups.map .texts)) layout.columnGroups)]

def decoder : Decoder Layout :=
  (Layout.mk <$> .defaulted "type" LayoutKind.decoder .none
    <*> .defaulted "partition_count" asNat 1
    <*> .defaulted "column_groups" (asOption (asList (asList asText))) none :
    Record Layout).decode

end Layout

end TableStore
