import TableStore.ReplicatedTable.Basic

/-!
# Writes to replicated tables

A write is routed to the partitions that it touches.  Before any replica is called, every replica
of all these partitions must be alive; then each of them is called.  A call that fails is listed
in the summary and keeps no other call from being made.

Under a layout by columns, row number `i` means the same row in every partition.  An insertion
therefore adds a row to every partition.  The condition of an update or removal is looked up in
one partition, the driver, and the positions that it answers decide which rows of the other
partitions are changed.
-/

namespace TableStore.ReplicatedTable

/-- What came of calls on the replicas of a partition: the summary, and the answers in the order
of the calls. -/
structure FanOut (kind : ReplyKind) where
  summary : Summary
  answers : List kind.Value

/-- Makes a call on replicas one after another. -/
def callAll {kind : ReplyKind} (registry : Registry) (call : NodeCall kind) :
    List Replica → FileSystem → FanOut kind × FileSystem
  | [], files => (⟨.empty, []⟩, files)
  | replica :: rest, files =>
    match registry.call replica.id call files with
    | (.error e, files) =>
      let (fanOut, files) := callAll registry call rest files
      ({ fanOut with summary := (Summary.empty.recordFailure replica.id e).merge fanOut.summary },
        files)
    | (.ok answer, files) =>
      let (fanOut, files) := callAll registry call rest files
      (⟨Summary.empty.recordSuccess.merge fanOut.summary, answer :: fanOut.answers⟩, files)

/-- Makes a call on every replica of a partition. -/
def fanOut {kind : ReplyKind} (t : ReplicatedTable) (partition : Nat) (call : NodeCall kind)
    (cluster : Cluster) : FanOut kind × Cluster :=
  let (result, files) := callAll cluster.registry call (t.replicas partition) cluster.files
  (result, { cluster with files })

/-- Makes a call of its own on every replica of each partition, in the order given. -/
def fanOutEach {kind : ReplyKind} (t : ReplicatedTable) :
    List (Nat × NodeCall kind) → Cluster → Summary × Cluster
  | [], cluster => (.empty, cluster)
  | (partition, call) :: rest, cluster =>
    let (result, cluster) := t.fanOut partition call cluster
    let (summary, cluster) := fanOutEach t rest cluster
    (result.summary.merge summary, cluster)

/-- The condition of an operation that cannot do without one. -/
def requiredCondition (operation : Operation) : Except Error Predicate :=
  match operation.condition with
  | some condition => .ok condition
  | none =>
    .error (.invalidOperation (operation.kind.text ++ " on " ++ operation.table ++
      " needs a where clause"))

/-! ## Insertion -/

/-- Adds one row. -/
def insert (t : ReplicatedTable) (operation : Operation) (cluster : Cluster) :
    Except Error Summary × Cluster :=
  match t.router.routeInsert operation.columns operation.values with
  | .error e => (.error e, cluster)
  | .ok slices =>
    match t.checkAllAlive (slices.map ColumnSlice.partition) with
    | .error e => (.error e, cluster)
    | .ok () =>
      let calls := slices.map fun slice =>
        (slice.partition, NodeCall.insert slice.columns slice.values)
      let (summary, cluster) := t.fanOutEach calls cluster
      (.ok summary, cluster)

/-! ## Updates -/

/-- The partitions that an update touches, in ascending order: the driver, and those that receive
assignments. -/
def updateTargets (t : ReplicatedTable) (driver : Nat) (slices : List ColumnSlice) : List Nat :=
  t.router.partitions.filter fun partition =>
    partition = driver ∨ partition ∈ slices.map ColumnSlice.partition

/-- Makes a call on the driver, and then on other partitions with the positions that the first
answer of the driver gives.  Without positions the others are left alone. -/
def propagate (t : ReplicatedTable) (driver : Nat) (call : NodeCall .positions)
    (others : List Nat → List (Nat × NodeCall .count)) (cluster : Cluster) : Summary × Cluster :=
  let (result, cluster) := t.fanOut driver call cluster
  let positions := result.answers.head?.getD []
  if positions = [] then (result.summary, cluster)
  else
    let (summary, cluster) := t.fanOutEach (others positions) cluster
    (result.summary.merge summary, cluster)

/-- Assigns values under a layout by columns. -/
def updateColumns (t : ReplicatedTable) (driver : Nat) (condition : Predicate)
    (slices : List ColumnSlice) (cluster : Cluster) : Except Error Summary × Cluster :=
  match t.checkAllAlive (t.updateTargets driver slices) with
  | .error e => (.error e, cluster)
  | .ok () =>
    let own := (slices.find? fun slice => slice.partition = driver).getD ⟨driver, [], []⟩
    let others := slices.filter fun slice => slice.partition ≠ driver
    let (summary, cluster) := t.propagate driver (.update own.columns own.values condition)
      (fun positions => others.map fun slice =>
        (slice.partition, .updateAt positions slice.columns slice.values)) cluster
    (.ok summary, cluster)

/-- Assigns values in the rows that satisfy the operation's condition. -/
def update (t : ReplicatedTable) (operation : Operation) (cluster : Cluster) :
    Except Error Summary × Cluster :=
  match requiredCondition operation with
  | .error e => (.error e, cluster)
  | .ok condition =>
    match t.router.routePredicate condition with
    | .error e => (.error e, cluster)
    | .ok driver =>
      match t.router.layout.kind with
      | .vertical =>
        match t.router.splitAssignments operation.columns operation.values with
        | .error e => (.error e, cluster)
        | .ok slices => t.updateColumns driver condition slices cluster
      | _ =>
        match t.checkAlive driver with
        | .error e => (.error e, cluster)
        | .ok () =>
          let (result, cluster) := t.fanOut driver
            (.update operation.columns operation.values condition) cluster
          (.ok result.summary, cluster)

/-! ## Removal -/

/-- Removes the rows that satisfy the operation's condition. -/
def delete (t : ReplicatedTable) (operation : Operation) (cluster : Cluster) :
    Except Error Summary × Cluster :=
  match requiredCondition operation with
  | .error e => (.error e, cluster)
  | .ok condition =>
    match t.router.routePredicate condition with
    | .error e => (.error e, cluster)
    | .ok driver =>
      match t.router.layout.kind with
      | .vertical =>
        match t.checkAllAlive t.router.partitions with
        | .error e => (.error e, cluster)
        | .ok () =>
          let others := t.router.partitions.filter fun partition => partition ≠ driver
          let (summary, cluster) := t.propagate driver (.delete condition)
            (fun positions => others.map fun partition => (partition, .deleteAt positions)) cluster
          (.ok summary, cluster)
      | _ =>
        match t.checkAlive driver with
        | .error e => (.error e, cluster)
        | .ok () =>
          let (result, cluster) := t.fanOut driver (.delete condition) cluster
          (.ok result.summary, cluster)

/-- Carries out a write according to its kind.  A selection writes nothing. -/
def write (t : ReplicatedTable) (operation : Operation) (cluster : Cluster) :
    Except Error Summary × Cluster :=
  match operation.kind with
  | .insert => t.insert operation cluster
  | .update => t.update operation cluster
  | .delete => t.delete operation cluster
  | .select => (.ok .empty, cluster)

end TableStore.ReplicatedTable
