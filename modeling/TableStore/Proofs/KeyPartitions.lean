import TableStore.Proofs.KeyedRows
import TableStore.Proofs.Reads

/-!
# Tables split by key

Under a layout by key every store holds whole rows.  If an operation finds rows by the key, its
write is one call on the partition that its key is sent to (`keyedPlan_plan?`).  That call does to
the rows of the partition what the operation does to all rows, and no other partition has rows that
are concerned.  So every partition keeps holding the rows that are sent there (`write_shares`).

A table that is not split is the case of one partition that every key is sent to, so both kinds of
tables are treated at once (`HoldsRows`).  `Shares` says which rows a replica holds.
-/

namespace TableStore

open RecordStore (fileText)
open Row (IsKeyed)

/-! ## Calls on whole rows -/

namespace NodeCall

theorem onRows_update_lines (columns : Option (List String)) (names values : List String)
    (condition : Predicate) (rows : List String) :
    ((NodeCall.update names values condition).onRows columns rows).2 = rows.map fun line =>
      if Row.satisfies columns condition line then Row.assign columns (names.zip values) line
      else line := by
  have hassign : Row.assignAt columns (names.zip values)
      (Row.positionsOf (Row.satisfies columns condition) rows) (rows.map id) = _ :=
    Row.assignAt_positionsOf columns (names.zip values) id
  rw [List.map_id] at hassign
  exact hassign

theorem onRows_delete_lines (columns : Option (List String)) (condition : Predicate)
    (rows : List String) : ((NodeCall.delete condition).onRows columns rows).2 =
      rows.filter fun line => !Row.satisfies columns condition line := by
  have hremove : Row.removeAt (Row.positionsOf (Row.satisfies columns condition) rows)
      (rows.map id) = _ := Row.removeAt_positionsOf id
  rw [List.map_id, List.map_id] at hremove
  exact hremove

end NodeCall

namespace ReplicatedTable

variable {t : ReplicatedTable} {operation : Operation} {key : String} {plan : Plan}

/-! ## Plans -/

/-- A table whose stores hold whole rows. -/
structure HoldsRows (t : ReplicatedTable) : Prop where
  kind : t.router.layout.kind ≠ .vertical
  columns : ∀ columns ∈ t.table.columns,
    columns.Nodup ∧ ∀ column ∈ columns, isField column = true

/-- An insertion goes where a condition with its key is looked up. -/
theorem routeInsert_ok (hkind : t.router.layout.kind ≠ .vertical) (key : String)
    {columns values : List String} {value : String} (hvalue : values.head? = some value)
    {slices : List ColumnSlice}
    (h : t.router.routeInsert columns values = .ok slices) :
    ∃ partition, t.router.routePredicate ⟨key, value⟩ = .ok partition ∧
      slices = [⟨partition, columns, values⟩] := by
  unfold Router.routeInsert at h
  split at h
  · next hnone =>
    obtain rfl : _ = slices := by simpa using h
    exact ⟨0, by simp [Router.routePredicate, hnone], rfl⟩
  · next hhorizontal =>
    rw [hvalue] at h
    cases hpartition : t.router.partitionForKey value with
    | error e => simp [hpartition, Except.map] at h
    | ok partition =>
      obtain rfl : _ = slices := by simpa [hpartition, Except.map] using h
      exact ⟨partition, by simpa [Router.routePredicate, hhorizontal] using hpartition, rfl⟩
  · next hvertical => exact absurd hvertical hkind

/-- What the plan of an operation that finds rows by a key is. -/
structure KeyedPlan (t : ReplicatedTable) (key : String) (operation : Operation) (plan : Plan)
    (value : String) (partition : Nat) (call : AnyCall) : Prop where
  keyValue : operation.keyValue? = some value
  routed : t.router.routePredicate ⟨key, value⟩ = .ok partition
  called : ∀ positions, plan.called positions = [(partition, call)]
  onRows : ∀ columns rows, (call.2.onRows columns rows).2 = operation.applyLines columns rows

theorem keyedPlan_insert (hkind : t.router.layout.kind ≠ .vertical)
    (haccepted : operation.Accepted t.table.columns) (hfinds : operation.FindsBy key)
    (hinsert : operation.kind = .insert) (h : t.insertPlan operation = .ok plan) :
    ∃ value partition call, t.KeyedPlan key operation plan value partition call := by
  obtain ⟨-, value, -, -, -, hvalue⟩ := hfinds.columns_values haccepted hinsert
  unfold insertPlan at h
  cases hslices : t.router.routeInsert operation.columns operation.values with
  | error e => simp [hslices, Except.map] at h
  | ok slices =>
    have hhead : operation.values.head? = some value := by
      simpa [Operation.keyValue?, hinsert] using hvalue
    obtain ⟨partition, hrouted, rfl⟩ := routeInsert_ok hkind key hhead hslices
    obtain rfl : _ = plan := by simpa [hslices, Except.map] using h
    refine ⟨value, partition, ⟨_, .insert operation.columns operation.values⟩, hvalue, hrouted,
      fun positions => rfl, fun columns rows => ?_⟩
    simp [Operation.applyLines, hinsert, NodeCall.onRows]

/-- A driven plan without other calls is one call. -/
theorem called_driven_nil (checked : List Nat) (driver : Nat) (call : NodeCall .positions)
    (positions : List Nat) :
    (Plan.driven checked driver call fun _ => []).called positions = [(driver, ⟨_, call⟩)] := by
  simp [Plan.called, anyCalls]

theorem keyedPlan_update (hkind : t.router.layout.kind ≠ .vertical)
    (hfinds : operation.FindsBy key) (hupdate : operation.kind = .update) {condition : Predicate}
    {driver : Nat} (hroute : t.routeCondition operation = .ok (condition, driver))
    (h : t.updatePlan operation condition driver = .ok plan) :
    ∃ value partition call, t.KeyedPlan key operation plan value partition call := by
  obtain ⟨hcondition, hdriver⟩ := routeCondition_ok hroute
  obtain ⟨rfl, hvalue⟩ := hfinds.condition (by rw [hupdate]; rfl) hcondition
  unfold updatePlan at h
  split at h
  · next hvertical => exact absurd hvertical hkind
  · obtain rfl : _ = plan := by simpa using h
    refine ⟨condition.value, driver, _, hvalue, hdriver, called_driven_nil _ _ _,
      fun columns rows => ?_⟩
    simp [Operation.applyLines, hupdate, hcondition, NodeCall.onRows_update_lines]

theorem keyedPlan_delete (hkind : t.router.layout.kind ≠ .vertical)
    (hfinds : operation.FindsBy key) (hdelete : operation.kind = .delete) {condition : Predicate}
    {driver : Nat} (hroute : t.routeCondition operation = .ok (condition, driver)) :
    ∃ value partition call,
      t.KeyedPlan key operation (t.deletePlan condition driver) value partition call := by
  obtain ⟨hcondition, hdriver⟩ := routeCondition_ok hroute
  obtain ⟨rfl, hvalue⟩ := hfinds.condition (by rw [hdelete]; rfl) hcondition
  unfold deletePlan
  split
  · next hvertical => exact absurd hvertical hkind
  · refine ⟨condition.value, driver, _, hvalue, hdriver, called_driven_nil _ _ _,
      fun columns rows => ?_⟩
    simp [Operation.applyLines, hdelete, hcondition, NodeCall.onRows_delete_lines]

/-- **A write that finds rows by a key is one call**, on the partition that its key is sent to. -/
theorem keyedPlan_plan? (hkind : t.router.layout.kind ≠ .vertical)
    (haccepted : operation.Accepted t.table.columns) (hfinds : operation.FindsBy key)
    (h : t.plan? operation = .ok plan) :
    (operation.kind = .select ∧ ∀ positions, plan.called positions = []) ∨
      ∃ value partition call, t.KeyedPlan key operation plan value partition call := by
  unfold plan? at h
  split at h
  · next hinsert => exact Or.inr (keyedPlan_insert hkind haccepted hfinds hinsert h)
  · next hupdate =>
    split at h
    · simp at h
    · next condition driver hroute =>
      exact Or.inr (keyedPlan_update hkind hfinds hupdate hroute h)
  · next hdelete =>
    cases hroute : t.routeCondition operation with
    | error e => simp [hroute, Except.map] at h
    | ok routed =>
      obtain ⟨condition, driver⟩ := routed
      obtain rfl : t.deletePlan condition driver = plan := by
        simpa [hroute, Except.map] using h
      exact Or.inr (keyedPlan_delete hkind hfinds hdelete hroute)
  · next hselect =>
    obtain rfl : _ = plan := by simpa using h
    exact Or.inl ⟨hselect, fun positions => rfl⟩

/-! ## Writes -/

/-- Whether the key of a row is sent to a partition. -/
def owns (t : ReplicatedTable) (key : String) (partition : Nat) (line : String) : Bool :=
  (Row.key? t.table.columns key line).any fun value =>
    t.router.routePredicate ⟨key, value⟩ = .ok partition

/-- Every replica holds the rows whose key is sent to its partition. -/
def Shares (t : ReplicatedTable) (key : String) (held : ReplicaId → String)
    (rows : List String) : Prop :=
  ∀ partition, ∀ node ∈ t.nodes partition,
    held node.id = fileText t.table.columns (rows.filter (t.owns key partition))

/-- Every row has a key that is sent to a partition. -/
def Placed (t : ReplicatedTable) (key : String) (rows : List String) : Prop :=
  ∀ row ∈ rows, ∃ value, IsKeyed t.table.columns key value row ∧
    ∃ partition ∈ t.router.partitions, t.router.routePredicate ⟨key, value⟩ = .ok partition

theorem storeColumns_of_holdsRows (h : t.HoldsRows) (partition : Nat) :
    storeColumns t.table t.router partition = t.table.columns := by
  unfold storeColumns
  split
  · next hvertical => exact absurd hvertical h.kind
  · rfl

variable {held : ReplicaId → String} {rows : List String}

/-- What a call makes of a file of whole rows. -/
theorem perform_rows (ht : t.Deployed) (hholds : t.HoldsRows)
    (hrows : ∀ row ∈ rows, RecordStore.IsRow row) {partition : Nat} {node : StorageNode}
    (hnode : node ∈ t.nodes partition) {kind : ReplyKind} (call : NodeCall kind) :
    call.perform node.store (fileText t.table.columns rows) =
      some ((call.onRows t.table.columns rows).1,
        fileText t.table.columns (call.onRows t.table.columns rows).2) := by
  have hcolumns : node.store.columns = t.table.columns := by
    rw [ht.columns partition node hnode, storeColumns_of_holdsRows hholds]
  rw [← hcolumns]
  refine RecordStore.perform_fileText call (fun columns hmem => ?_) hrows
  rw [hcolumns] at hmem
  exact isLine_header (hholds.columns columns hmem).2

/-- What a call makes of the file of a store that holds some of the rows. -/
theorem perform_lines (ht : t.Deployed) (hholds : t.HoldsRows) (hplaced : t.Placed key rows)
    {partition : Nat} {node : StorageNode} (hnode : node ∈ t.nodes partition) {kind : ReplyKind}
    (call : NodeCall kind) (part : String → Bool) :
    call.perform node.store (fileText t.table.columns (rows.filter part)) =
      some ((call.onRows t.table.columns (rows.filter part)).1,
        fileText t.table.columns (call.onRows t.table.columns (rows.filter part)).2) := by
  refine perform_rows ht hholds (fun row hrow => ?_) hnode call
  obtain ⟨value, hkeyed, -⟩ := hplaced row (List.mem_filter.1 hrow).1
  exact Row.isRow_of_isKeyed hkeyed

/-- **The step.**  A write that reaches all replicas changes the shares as it changes the rows. -/
theorem write_shares (ht : t.Deployed) (hholds : t.HoldsRows)
    (haccepted : operation.Accepted t.table.columns) (hkeyed : operation.KeyedBy key)
    {cluster cluster' : Cluster} {summary : Summary} (hs : t.Serves held cluster)
    (hplaced : t.Placed key rows) (hshares : t.Shares key held rows)
    (hreached : ∀ partition, ∀ node ∈ t.nodes partition, cluster.registry.reaches node.id = true)
    (h : t.write operation cluster = (.ok summary, cluster')) (hf : summary.Faultless) :
    cluster'.registry = cluster.registry ∧
      t.Placed key (operation.applyLines t.table.columns rows) ∧ ∃ held', t.Serves held' cluster' ∧
        t.Shares key held' (operation.applyLines t.table.columns rows) := by
  obtain ⟨hregistry, plan, positions, held', hplan, -, -, -, -, hs', hcarried⟩ :=
    write_spec ht hs h hf
  have hnodup : ∀ columns ∈ t.table.columns, columns.Nodup := fun columns hcolumns =>
    (hholds.columns columns hcolumns).1
  rcases keyedPlan_plan? hholds.kind haccepted hkeyed.findsBy hplan with
    ⟨hselect, hcalled⟩ | ⟨value, target, call, hone⟩
  · have happly : operation.applyLines t.table.columns rows = rows := by
      simp [Operation.applyLines, hselect]
    rw [happly]
    refine ⟨hregistry, hplaced, held', hs', fun partition node hnode => ?_⟩
    rw [hcarried.untouched node.id (by simp [hcalled])]
    exact hshares partition node hnode
  · refine ⟨hregistry, ?_, held', hs', fun partition node hnode => ?_⟩
    · refine Operation.isKeyed_applyLines haccepted hnodup hkeyed (fun new hnew => ?_) hplaced
      rw [hone.keyValue] at hnew
      obtain rfl : value = new := Option.some.inj hnew
      exact ⟨target, mem_partitions_of_routePredicate ht hone.routed, hone.routed⟩
    · have hfilter := Operation.filter_applyLines haccepted hnodup hkeyed
        (fun row hrow => (hplaced row hrow).imp fun _ hrow => hrow.1)
        fun value => t.router.routePredicate ⟨key, value⟩ = .ok partition
      rw [hone.keyValue, Option.all_some, hone.routed] at hfilter
      have hheld := hshares partition node hnode
      by_cases heq : target = partition
      · subst heq
        obtain ⟨answer, hperform⟩ := hcarried.performed (target, call) (by simp [hone.called]) node
          hnode (hreached target node hnode)
        rw [hheld, perform_lines ht hholds hplaced hnode, hone.onRows] at hperform
        rw [← (Prod.mk.inj (Option.some.inj hperform)).2]
        exact congrArg _ (hfilter.trans (if_pos (by simp))).symm
      · rw [hcarried.untouched node.id (by
          simp [hone.called, ht.partition_eq hnode, Ne.symm heq]), hheld]
        exact congrArg _ (hfilter.trans (if_neg (by simpa using heq))).symm

/-! ## Reads -/

/-- A store reads the rows of its partition. -/
theorem select_shares (ht : t.Deployed) (hholds : t.HoldsRows) (hplaced : t.Placed key rows)
    (hshares : t.Shares key held rows) {partition : Nat} {node : StorageNode}
    (hnode : node ∈ t.nodes partition) : ∃ text,
      NodeCall.select.perform node.store (held node.id) =
        some (rows.filter (t.owns key partition), text) := by
  rw [hshares partition node hnode, perform_lines ht hholds hplaced hnode]
  exact ⟨_, rfl⟩

theorem owns_of_isKeyed {value row : String} (h : IsKeyed t.table.columns key value row)
    (partition : Nat) :
    t.owns key partition row = decide (t.router.routePredicate ⟨key, value⟩ = .ok partition) := by
  rw [owns, Row.key?_of_isKeyed h, Option.any_some]

/-- The one partition of a table that is not split owns all rows. -/
theorem filter_owns_of_none (hkind : t.router.layout.kind = .none) (hplaced : t.Placed key rows) :
    rows.filter (t.owns key 0) = rows := by
  refine List.filter_eq_self.2 fun row hrow => ?_
  obtain ⟨value, hkeyed, -⟩ := hplaced row hrow
  simp [owns_of_isKeyed hkeyed, Router.routePredicate, hkind]

/-- Every row is in one partition, and only there. -/
theorem perm_owns (hplaced : t.Placed key rows) :
    (t.router.partitions.flatMap fun partition =>
      rows.filter (t.owns key partition)).Perm rows := by
  refine perm_flatMap_filter List.nodup_range (fun row hrow => ?_) fun row hrow first second => ?_
  · obtain ⟨value, hkeyed, partition, hpartition, hrouted⟩ := hplaced row hrow
    exact ⟨partition, hpartition, by simp [owns_of_isKeyed hkeyed, hrouted]⟩
  · obtain ⟨value, hkeyed, -⟩ := hplaced row hrow
    rw [owns_of_isKeyed hkeyed, owns_of_isKeyed hkeyed, decide_eq_true_eq, decide_eq_true_eq]
    intro hfirst hsecond
    exact Except.ok.inj (hfirst.symm.trans hsecond)

end ReplicatedTable

end TableStore
