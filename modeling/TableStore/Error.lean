import TableStore.RecordStore.Basic

/-!
# Failures of requests

Why a request about a table is refused or fails as a whole.  Failures of single replicas are not
among these; they are listed in the summary of a write instead.
-/

namespace TableStore

/-- Why a request failed. -/
inductive Error
  /-- The table cannot be created as described. -/
  | config (reason : String)
  | notFound (key : String)
  | alreadyExists (key : String)
  /-- The operation does not fit the table. -/
  | invalidOperation (reason : String)
  /-- A replica that the write would reach is down. -/
  | cannotWrite (partition : Nat) (replica : String)
  | noLiveReplica (partition : Nat)
  | io (cause : IoError)
  deriving DecidableEq, Repr

namespace Error

/-- The text of a failure. -/
def message : Error → String
  | config reason => "Invalid table configuration: " ++ reason
  | notFound key => "Table not found: " ++ key
  | alreadyExists key => "Table already exists: " ++ key
  | invalidOperation reason => "Invalid operation: " ++ reason
  | cannotWrite partition replica =>
    "Partition " ++ toString partition ++ " is read-only: replica " ++ replica ++ " is down"
  | noLiveReplica partition => "No live replica could serve partition " ++ toString partition
  | io cause => "IO error: " ++ cause.message

/-- The failure of a request that an error of a store causes.  A corrupt store counts as a
failure of input and output with the store's own text. -/
def ofStore : StoreError → Error
  | .io cause => .io cause
  | .corrupt path reason => .io (.other (StoreError.corrupt path reason).message)

end Error

end TableStore
