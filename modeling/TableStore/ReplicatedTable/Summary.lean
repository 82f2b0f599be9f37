import TableStore.Node.Call

/-!
# Summaries of writes

A write is carried out on every replica of the partitions that it touches.  The summary counts the
replicas that carried it out, and lists those that failed with their causes, in the order of the
calls.
-/

namespace TableStore

/-- A replica on which a call failed. -/
structure ReplicaFailure where
  replica : String
  error : CallError
  deriving DecidableEq, Repr

/-- What came of the calls of one write. -/
structure Summary where
  succeeded : Nat
  total : Nat
  failures : List ReplicaFailure
  deriving DecidableEq, Repr

namespace Summary

/-- The summary of no calls. -/
def empty : Summary := ⟨0, 0, []⟩

/-- The summary with one more call that succeeded. -/
def recordSuccess (summary : Summary) : Summary :=
  { summary with succeeded := summary.succeeded + 1, total := summary.total + 1 }

/-- The summary with one more call that failed. -/
def recordFailure (summary : Summary) (id : ReplicaId) (error : CallError) : Summary :=
  { summary with
    total := summary.total + 1
    failures := summary.failures ++ [⟨id.text, error⟩] }

/-- The summary of the calls of both. -/
def merge (first second : Summary) : Summary where
  succeeded := first.succeeded + second.succeeded
  total := first.total + second.total
  failures := first.failures ++ second.failures

/-- Whether every call succeeded. -/
def isComplete (summary : Summary) : Bool := summary.succeeded = summary.total

/-- The text of a summary. -/
def text (summary : Summary) : String :=
  toString summary.succeeded ++ "/" ++ toString summary.total ++ " replicas"

theorem merge_empty (summary : Summary) : summary.merge empty = summary := by
  simp [merge, empty]

theorem merge_assoc (a b c : Summary) : (a.merge b).merge c = a.merge (b.merge c) := by
  simp [merge, Nat.add_assoc]

end Summary

end TableStore
