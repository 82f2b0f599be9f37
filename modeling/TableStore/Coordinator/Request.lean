import TableStore.Layout.Basic
import TableStore.Operation

/-!
# Requests to the coordinator

What clients can ask of a coordinator, apart from operations that have types of their own.
-/

namespace TableStore

/-- A table to be created. -/
structure CreateRequest where
  table : TableDef
  /-- How many copies every partition has. -/
  replicaCount : Nat
  layout : Layout
  deriving DecidableEq, Repr

/-- An operation on a table of the given kind. -/
structure OperationRequest where
  kind : TableKind
  operation : Operation
  deriving DecidableEq, Repr

/-- The reading of all rows of a table. -/
structure SelectRequest where
  kind : TableKind
  table : String
  deriving DecidableEq, Repr

/-- One replica of a table, to be stopped or started. -/
structure ReplicaRequest where
  kind : TableKind
  table : String
  partition : Nat
  replica : Nat
  deriving DecidableEq, Repr

end TableStore
