import TableStore.Operation
import TableStore.Table

/-!
# Calls on a storage node

The seven calls that a storage node answers, each with the type of its answer, and the ways in
which a call can fail on its way to the node or there.
-/

namespace TableStore

/-- The forms that the answer to a call can have. -/
inductive ReplyKind
  /-- The lines of rows. -/
  | rows
  /-- Only that the call was carried out. -/
  | done
  /-- The positions of the rows concerned. -/
  | positions
  /-- The number of the rows concerned. -/
  | count
  deriving DecidableEq, Repr

/-- The type of the answers of a form. -/
abbrev ReplyKind.Value : ReplyKind → Type
  | rows => List String
  | done => Unit
  | positions => List Nat
  | count => Nat

/-- A call on a storage node, indexed by the form of its answer. -/
inductive NodeCall : ReplyKind → Type
  | select : NodeCall .rows
  | insert (columns values : List String) : NodeCall .done
  | update (columns values : List String) (condition : Predicate) : NodeCall .positions
  | updateAt (positions : List Nat) (columns values : List String) : NodeCall .count
  | delete (condition : Predicate) : NodeCall .positions
  | deleteAt (positions : List Nat) : NodeCall .count
  | heartbeat : NodeCall .done

/-- Why a call on a replica failed. -/
inductive CallError
  /-- The replica is not registered under its name. -/
  | notRegistered (replica : String)
  /-- No answer came back. -/
  | transport (detail : String)
  /-- The answer had a status that says nothing more. -/
  | status (code : Nat)
  /-- The node's store could not carry out the call. -/
  | store (text : String)
  /-- The answer was not of the expected form. -/
  | decode (detail : String)
  deriving DecidableEq, Repr

namespace CallError

/-- The text of a failed call. -/
def message : CallError → String
  | notRegistered replica => "Replica " ++ replica ++ " is not registered"
  | transport detail => "Transport failure: " ++ detail
  | status code => "Remote returned status " ++ toString code
  | store text => "Store failure on replica: " ++ text
  | decode detail => "Failed to decode response: " ++ detail

/-- The failure of a call on a replica that is not registered. -/
def unregistered (id : ReplicaId) : CallError := .notRegistered id.text

end CallError

end TableStore
