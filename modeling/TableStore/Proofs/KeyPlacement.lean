import TableStore.Proofs.KeyPartitions

/-!
# Rows lie where their keys are sent

Under a layout by key, an update assigns values where it finds its rows and moves none of them.
So a row can only be trusted to lie in the partition that its key is sent to as long as updates
give the key no value that is sent elsewhere (`Operation.Stays`).

* `Router.Places` says that a row has a key that is sent to a partition.  `places_applyLines` is
  the step for the rows of one partition.
* `rows_lie_by_key` is the result for runs.  Nothing is asked of the network: calls may be lost or
  be carried out twice, and replicas may come and go.  Calls may fail on files as well, but an
  insertion that fails while its row is being written must have written nothing of it
  (`FileSystem.WritesWhole`).  A part of a row need not have a key, and the next row that is
  inserted is taken for the rest of it.
* `rows_can_lie_elsewhere` shows what becomes of a row whose key is assigned without that care.
-/

namespace TableStore

open RecordStore (fileText)
open Row (IsKeyed)

/-! ## The rows of one partition -/

/-- Whether a row has a key that is sent to the partition. -/
def Router.Places (router : Router) (columns : List String) (key : String) (partition : Nat)
    (row : String) : Prop :=
  ∃ value, IsKeyed (some columns) key value row ∧ router.partitionForKey value = .ok partition

namespace Operation

/-- Whether an operation finds rows by a key and leaves them in their partitions: the last value
that an update assigns to the key is sent where the value of its condition is sent. -/
structure Stays (operation : Operation) (router : Router) (key : String) : Prop where
  finds : operation.FindsBy key
  stays : operation.kind = .update → ∀ condition ∈ operation.condition,
    ∀ value ∈ LogicalRow.lastAssigned? (operation.columns.zip operation.values) key,
      ∀ partition ∈ router.partitions, router.partitionForKey condition.value = .ok partition →
        router.partitionForKey value = .ok partition

instance (operation : Operation) (router : Router) (key : String) :
    Decidable (operation.Stays router key) :=
  decidable_of_iff (operation.FindsBy key ∧ (operation.kind = .update →
    ∀ condition ∈ operation.condition,
      ∀ value ∈ LogicalRow.lastAssigned? (operation.columns.zip operation.values) key,
        ∀ partition ∈ router.partitions, router.partitionForKey condition.value = .ok partition →
          router.partitionForKey value = .ok partition))
    ⟨fun h => ⟨h.1, h.2⟩, fun h => ⟨h.finds, h.stays⟩⟩

variable {operation : Operation} {router : Router} {columns : List String} {key value : String}
  {partition : Nat} {rows : List String}

/-- An insertion adds a row to the partition that its key is sent to. -/
theorem places_insert (haccepted : operation.Accepted (some columns))
    (hfinds : operation.FindsBy key) (hkind : operation.kind = .insert)
    (hvalue : operation.keyValue? = some value)
    (hrouted : router.partitionForKey value = .ok partition) :
    router.Places columns key partition
      (Row.compose (some columns) operation.columns operation.values) := by
  obtain ⟨names, first, values, hnames, hvalues, hfirst⟩ :=
    hfinds.columns_values haccepted hkind
  obtain rfl : first = value := by
    rw [hfirst] at hvalue
    exact Option.some.inj hvalue
  have hmem : key ∈ columns := (haccepted.known columns rfl).1 key (by simp [hnames])
  have hfields : ∀ field ∈ first :: values, isField field = true := by
    intro field hfield
    exact haccepted.isField_value (hvalues ▸ hfield)
  refine ⟨first, ?_, hrouted⟩
  rw [hnames, hvalues]
  exact Row.isKeyed_compose_fields hmem hfields

/-- An update leaves a row of the partition that its condition is sent to where it is. -/
theorem places_assign (hnodup : columns.Nodup) (haccepted : operation.Accepted (some columns))
    (hstays : operation.Stays router key) (hkind : operation.kind = .update)
    {condition : Predicate} (hcondition : operation.condition = some condition)
    (hpartition : partition ∈ router.partitions)
    (hrouted : router.partitionForKey condition.value = .ok partition) {row : String}
    (hrow : router.Places columns key partition row) :
    router.Places columns key partition
      (Row.assign (some columns) (operation.columns.zip operation.values) row) := by
  obtain ⟨old, hold, hsent⟩ := hrow
  have hvalues : ∀ field ∈ operation.columns.zip operation.values, isField field.2 = true :=
    fun field hfield => haccepted.isField_value (List.of_mem_zip hfield).2
  have hkeyed := Row.isKeyed_assign_fields hnodup hvalues hold
  refine ⟨_, hkeyed, ?_⟩
  cases hlast : LogicalRow.lastAssigned? (operation.columns.zip operation.values) key with
  | none => exact hsent
  | some new => exact hstays.stays hkind condition hcondition new hlast partition hpartition hrouted

/-- **An operation whose key is sent to a partition keeps the rows of the partition placed.** -/
theorem places_applyLines (hnodup : columns.Nodup)
    (haccepted : operation.Accepted (some columns)) (hstays : operation.Stays router key)
    (hpartition : partition ∈ router.partitions) (hvalue : operation.keyValue? = some value)
    (hrouted : router.partitionForKey value = .ok partition)
    (hrows : ∀ row ∈ rows, router.Places columns key partition row) :
    ∀ row ∈ operation.applyLines (some columns) rows,
      router.Places columns key partition row := by
  intro row hrow
  unfold applyLines at hrow
  split at hrow
  · next hkind =>
    rcases List.mem_append.1 hrow with hrow | hrow
    · exact hrows row hrow
    · rw [List.mem_singleton.1 hrow]
      exact places_insert haccepted hstays.finds hkind hvalue hrouted
  · next condition hkind hcondition =>
    obtain ⟨old, hold, rfl⟩ := List.mem_map.1 hrow
    obtain ⟨-, hkey⟩ := hstays.finds.condition (by rw [hkind]; rfl) hcondition
    obtain rfl : value = condition.value := Option.some.inj (hvalue.symm.trans hkey)
    split
    · exact places_assign hnodup haccepted hstays hkind hcondition hpartition hrouted
        (hrows old hold)
    · exact hrows old hold
  · exact hrows row (List.mem_filter.1 hrow).1
  · exact hrows row hrow

end Operation

/-! ## Files of placed rows -/

namespace ReplicatedTable

variable {t : ReplicatedTable} {operation : Operation} {columns : List String} {key : String}
  {partition : Nat}

/-- Whether a text is that of a file all of whose rows are placed in a partition. -/
def PlacedText (t : ReplicatedTable) (columns : List String) (key : String) (partition : Nat)
    (text : String) : Prop :=
  ∃ rows, text = fileText (some columns) rows ∧
    ∀ row ∈ rows, t.router.Places columns key partition row

/-- What an operation plans for a partition keeps the rows of its files placed. -/
theorem placedText_of_makes (ht : t.Deployed) (hholds : t.HoldsRows)
    (hkind : t.router.layout.kind = .horizontal) (hcolumns : t.table.columns = some columns)
    (haccepted : operation.Accepted t.table.columns) (hstays : operation.Stays t.router key)
    {node : StorageNode} (hnode : node ∈ t.nodes partition) {call : AnyCall}
    (hplans : t.Plans operation (partition, call)) {text text' : String}
    (htext : t.PlacedText columns key partition text)
    (hmakes : call.2.Makes node.store text text') :
    t.PlacedText columns key partition text' := by
  obtain ⟨plan, positions, hplan, hmem⟩ := hplans
  obtain ⟨rows, rfl, hrows⟩ := htext
  rcases keyedPlan_plan? hholds.kind haccepted hstays.finds hplan with
    ⟨-, hcalled⟩ | ⟨value, target, planned, hone⟩
  · simp [hcalled] at hmem
  · obtain ⟨rfl, rfl⟩ : partition = target ∧ call = planned := by
      simpa [hone.called] using hmem
    have hrouted : t.router.partitionForKey value = .ok partition := by
      simpa [Router.routePredicate, hkind] using hone.routed
    have hlines : ∀ row ∈ rows, RecordStore.IsRow row := by
      intro row hrow
      obtain ⟨_, hkeyed, -⟩ := hrows row hrow
      exact Row.isRow_of_isKeyed hkeyed
    obtain ⟨answer, hperform⟩ := hmakes
    rw [← hcolumns, perform_rows ht hholds hlines hnode, hone.onRows] at hperform
    obtain ⟨-, rfl⟩ := Prod.mk.inj (Option.some.inj hperform)
    rw [hcolumns] at haccepted ⊢
    refine ⟨_, rfl, Operation.places_applyLines (hholds.columns columns hcolumns).1 haccepted
      hstays (mem_partitions_of_routePredicate ht hone.routed) hone.keyValue hrouted hrows⟩

/-! ## Conditions -/

/-- Updates and removals with a condition are single calls on a partition, and each of them changes
the rows there that satisfy it. -/
def LooksUp (t : ReplicatedTable) (condition : Predicate) (partition : Nat) : Prop :=
  ∀ operation : Operation, operation.kind.needsCondition = true →
    operation.condition = some condition → ∃ plan call, t.plan? operation = .ok plan ∧
      (∀ positions, plan.called positions = [(partition, call)]) ∧
      ∀ columns rows, (call.2.onRows columns rows).2 = operation.applyLines columns rows

/-- A condition is looked up in the partition that it is routed to. -/
theorem looksUp_of_routePredicate (hkind : t.router.layout.kind ≠ .vertical)
    {condition : Predicate} (h : t.router.routePredicate condition = .ok partition) :
    t.LooksUp condition partition := by
  intro operation hneeds hcondition
  have hroute : t.routeCondition operation = .ok (condition, partition) := by
    simp [routeCondition, requiredCondition, hcondition, h, Except.map]
  have hfinds : operation.FindsBy condition.column := by
    unfold Operation.FindsBy
    cases hop : operation.kind <;> simp_all [OperationKind.needsCondition]
  have hone : ∀ {plan value target call},
      t.KeyedPlan condition.column operation plan value target call →
        (∀ positions, plan.called positions = [(partition, call)]) ∧
          ∀ columns rows, (call.2.onRows columns rows).2 = operation.applyLines columns rows := by
    intro plan value target call hplan
    have hvalue := (hfinds.condition hneeds hcondition).2
    obtain rfl : value = condition.value := Option.some.inj (hplan.keyValue.symm.trans hvalue)
    obtain rfl : target = partition := Except.ok.inj (hplan.routed.symm.trans h)
    exact ⟨hplan.called, hplan.onRows⟩
  cases hop : operation.kind with
  | insert => simp [hop, OperationKind.needsCondition] at hneeds
  | select => simp [hop, OperationKind.needsCondition] at hneeds
  | update =>
    cases hplan : t.updatePlan operation condition partition with
    | error e =>
      unfold updatePlan at hplan
      split at hplan
      · next hvertical => exact absurd hvertical hkind
      · simp at hplan
    | ok plan =>
      obtain ⟨value, target, call, hkeyed⟩ := keyedPlan_update hkind hfinds hop hroute hplan
      exact ⟨plan, call, by simp only [plan?, hop, hroute, hplan], hone hkeyed⟩
  | delete =>
    obtain ⟨value, target, call, hkeyed⟩ := keyedPlan_delete hkind hfinds hop hroute
    exact ⟨_, call, by simp only [plan?, hop, hroute, Except.map], hone hkeyed⟩

end ReplicatedTable

/-! ## Runs -/

namespace LiveTable

variable {live : LiveTable} {columns : List String} {key : String} {action : Action}

/-- What is asked of the steps of a run: writes are accepted, and their rows stay in their
partitions. -/
def StaysBy (key : String) (live : LiveTable) : Action → Prop
  | .write operation =>
    operation.validate live.table.table = .ok () ∧ operation.Stays live.table.router key
  | _ => True

instance (key : String) (live : LiveTable) : ∀ action, Decidable (live.StaysBy key action)
  | .write _ => inferInstanceAs (Decidable (_ ∧ _))
  | .select | .stop _ _ | .start _ _ | .beat => inferInstanceAs (Decidable True)

/-- A table whose files hold placed rows. -/
structure Placing (live : LiveTable) (columns : List String) (key : String) : Prop where
  deployed : live.table.Deployed
  holdsRows : live.table.HoldsRows
  byKey : live.table.router.layout.kind = .horizontal
  sql : live.table.table.columns = some columns
  known : live.table.KnownTo live.cluster.registry
  whole : live.cluster.files.WritesWhole
  placed : ∀ partition, ∀ node ∈ live.table.nodes partition, ∃ text,
    live.cluster.files.Holds node.store.path text ∧
      live.table.PlacedText columns key partition text

/-- Files stay placed whatever comes of a write. -/
theorem placing_write (h : live.Placing columns key) {operation : Operation}
    (hstays : live.StaysBy key (.write operation)) :
    (live.act (.write operation)).Placing columns key := by
  obtain ⟨hvalid, hstays⟩ := hstays
  have heffect := ReplicatedTable.write_effect h.deployed operation h.known
  refine ⟨h.deployed, h.holdsRows, h.byKey, h.sql, knownTo_act h.deployed h.known _,
    h.whole.of_faults heffect.spares.faults, fun partition node hnode => ?_⟩
  obtain ⟨text, hheld, hplaced⟩ := h.placed partition node hnode
  obtain ⟨text', hheld', hbecomes⟩ := heffect.becomes h.deployed hnode hheld
    fun call _ _ => NodeCall.not_tears_of_writesWhole call.2 node.store h.whole
  refine ⟨text', hheld', hbecomes.invariant (fun call hplans text text' htext hmakes => ?_) hplaced⟩
  exact ReplicatedTable.placedText_of_makes h.deployed h.holdsRows h.byKey h.sql
    (Operation.accepted_of_validate hvalid) hstays hnode hplans htext hmakes

theorem placing_act (h : live.Placing columns key) (hstays : live.StaysBy key action) :
    (live.act action).Placing columns key := by
  by_cases hwrite : ∃ operation, action = .write operation
  · obtain ⟨operation, rfl⟩ := hwrite
    exact placing_write h hstays
  · have hfiles : (live.act action).cluster.files = live.cluster.files :=
      files_act_of_not_write fun operation heq => hwrite ⟨operation, heq⟩
    obtain ⟨htable, hrouter, hnodes⟩ := sameTable_act live action
    refine ⟨deployed_act h.deployed action, ⟨?_, ?_⟩, ?_, ?_, knownTo_act h.deployed h.known action,
      hfiles ▸ h.whole, ?_⟩
    · rw [hrouter]
      exact h.holdsRows.kind
    · rw [htable]
      exact h.holdsRows.columns
    · rw [hrouter]
      exact h.byKey
    · rw [htable]
      exact h.sql
    · intro partition node hnode
      rw [hnodes partition] at hnode
      obtain ⟨text, hheld, rows, htext, hrows⟩ := h.placed partition node hnode
      refine ⟨text, hfiles ▸ hheld, rows, htext, fun row hrow => ?_⟩
      rw [hrouter]
      exact hrows row hrow

/-- The files of a new table hold no rows. -/
theorem placing_created {c : Coordinator} {request : CreateRequest}
    (hwhole : c.cluster.files.WritesWhole) (h : created c request = .ok live)
    (hkind : request.layout.kind = .horizontal) (hcolumns : request.table.columns = some columns)
    (key : String) : live.Placing columns key := by
  obtain ⟨hvalid, hcreate⟩ := created_ok h
  have hcreated := ReplicatedTable.create_ok hcreate
  have hspares := ReplicatedTable.spares_create request.table request.replicaCount request.layout
    c.settings c.cluster
  rw [hcreate] at hspares
  have hkind' : live.table.router.layout.kind = .horizontal := by
    rw [hcreated.router]
    exact hkind
  have hholds : live.table.HoldsRows := by
    refine ⟨by simp [hkind'], fun names hnames => ?_⟩
    rw [hcreated.table] at hnames
    exact ((TableDef.validate_ok hvalid).2 names hnames).2
  have hcolumns' : live.table.table.columns = some columns := by
    rw [hcreated.table]
    exact hcolumns
  refine ⟨hcreated.deployed, hholds, hkind', hcolumns', hcreated.keeps.registered,
    hwhole.of_faults hspares.faults, fun partition node hnode => ?_⟩
  refine ⟨_, hcreated.keeps.holds partition node hnode, [], ?_, by simp⟩
  rw [ReplicatedTable.newText, ReplicatedTable.storeColumns_of_holdsRows hholds, hcolumns']
  rfl

/-- **Rows lie where their keys are sent.**  In every reachable state each row that a replica
stores has a key that is sent to the partition of the replica, so an update or removal of the rows
with this key is a call on this partition, and the row satisfies its condition.  Of the files it is
asked that nothing of a row is written when the writing fails. -/
theorem rows_lie_by_key {c : Coordinator} {request : CreateRequest}
    (hwhole : c.cluster.files.WritesWhole) (hcreated : created c request = .ok live)
    (hkind : request.layout.kind = .horizontal)
    (hcolumns : request.table.columns = some columns) {actions : List Action}
    (hstays : Throughout act (StaysBy key) live actions) (partition : Nat) :
    ∀ replica ∈ (run act live actions).table.replicas partition, ∃ rows,
      replica.node.store.HasRows (run act live actions).cluster.files rows ∧
      ∀ row ∈ rows, ∃ value, Row.key? (some columns) key row = some value ∧
        (run act live actions).table.router.partitionForKey value = .ok partition ∧
        (run act live actions).table.LooksUp ⟨key, value⟩ partition ∧
        Row.satisfies (some columns) ⟨key, value⟩ row = true := by
  have hinit := placing_created hwhole hcreated hkind hcolumns key
  have hstep : ∀ (live : LiveTable) action, live.Placing columns key → live.StaysBy key action →
      (live.act action).Placing columns key := fun _ _ h hstays => placing_act h hstays
  have hplacing := hstays.invariant hstep hinit
  intro replica hreplica
  have hnode : replica.node ∈ (run act live actions).table.nodes partition :=
    List.mem_map_of_mem hreplica
  obtain ⟨text, hheld, rows, rfl, hrows⟩ := hplacing.placed partition replica.node hnode
  have hstore : replica.node.store.columns = some columns := by
    rw [hplacing.deployed.columns partition replica.node hnode,
      ReplicatedTable.storeColumns_of_holdsRows hplacing.holdsRows, hplacing.sql]
  rw [← hstore] at hheld
  refine ⟨rows, ⟨_, _, hheld, RecordStore.parse?_fileText ?_ ?_⟩, ?_⟩
  · intro names hnames
    rw [hstore, ← hplacing.sql] at hnames
    exact isLine_header (hplacing.holdsRows.columns names hnames).2
  · intro row hrow
    obtain ⟨value, hkeyed, -⟩ := hrows row hrow
    exact Row.isRow_of_isKeyed hkeyed
  · intro row hrow
    obtain ⟨value, hkeyed, hsent⟩ := hrows row hrow
    have hrouted : (run act live actions).table.router.routePredicate ⟨key, value⟩ =
        .ok partition := by
      simpa [Router.routePredicate, hplacing.byKey] using hsent
    exact ⟨value, Row.key?_of_isKeyed hkeyed, hsent,
      ReplicatedTable.looksUp_of_routePredicate (by simp [hplacing.byKey]) hrouted,
      (Row.satisfies_of_isKeyed hkeyed rfl).2 rfl⟩

/-- Items in two partitions with two replicas each. -/
def shelves : CreateRequest :=
  ⟨⟨"items", .sql, some ["id", "name"]⟩, 2, .byKey 2⟩

/-- A row is given another key of its partition while a replica is away. -/
def relabelling : List Action :=
  [.write (.insertion "items" ["id", "name"] ["1", "Alice"]), .stop 1 1,
    .write (.insertion "items" ["id", "id"] ["2", "3"]),
    .write (.assignment "items" ["id", "name", "id"] ["4", "Bob", "'7'"] ⟨"id", "1"⟩), .beat,
    .start 1 1]

/-- One replica keeps the old key and the other one the new key, and both belong where they
are. -/
theorem rows_lie_by_key_shelves :
    emptyCoordinator.cluster.files.WritesWhole ∧
      ∃ live, created emptyCoordinator shelves = .ok live ∧
        Throughout act (StaysBy "id") live relabelling ∧
        ∀ replica ∈ (run act live relabelling).table.replicas 1, ∃ rows,
          replica.node.store.HasRows (run act live relabelling).cluster.files rows ∧
          ∀ row ∈ rows, ∃ value, Row.key? (some ["id", "name"]) "id" row = some value ∧
            (run act live relabelling).table.router.partitionForKey value = .ok 1 ∧
            (run act live relabelling).table.LooksUp ⟨"id", value⟩ 1 ∧
            Row.satisfies (some ["id", "name"]) ⟨"id", value⟩ row = true := by
  obtain ⟨live, hcreated, hstays⟩ := exists_of_test (created emptyCoordinator shelves)
    (fun live => Throughout act (StaysBy "id") live relabelling) (by decide +kernel)
  have hwhole : emptyCoordinator.cluster.files.WritesWhole := by decide
  exact ⟨hwhole, live, hcreated, hstays, rows_lie_by_key hwhole hcreated rfl rfl hstays 1⟩

/-! ## Rows that lie elsewhere -/

/-- What is asked of the steps of a run: writes are accepted and find rows by a key, and the values
that updates give to the key are sent to some partition. -/
def FindsBy (key : String) (live : LiveTable) : Action → Prop
  | .write operation => operation.validate live.table.table = .ok () ∧ operation.FindsBy key ∧
      ∀ field ∈ operation.columns.zip operation.values, field.1 = key →
        (live.table.router.partitionForKey field.2).isOk = true
  | _ => True

instance (key : String) (live : LiveTable) : ∀ action, Decidable (live.FindsBy key action)
  | .write _ => inferInstanceAs (Decidable (_ ∧ _ ∧ ∀ _ ∈ _, _ → _))
  | .select | .stop _ _ | .start _ _ | .beat => inferInstanceAs (Decidable True)

/-- A row is given a key of the other partition. -/
def removal : List Action :=
  [.write (.insertion "items" ["id", "name"] ["1", "Alice"]),
    .write (.assignment "items" ["id"] ["2"] ⟨"id", "1"⟩)]

/-- **Rows can lie where their keys are not sent**, if an update assigns the key.  Here the row
with the key 2 lies in partition 1. -/
theorem rows_can_lie_elsewhere :
    ¬ ∀ (c : Coordinator) (request : CreateRequest) (columns : List String) (key : String)
        (live : LiveTable) (actions : List Action),
      c.cluster.registry.Responds → c.cluster.files.Readable → created c request = .ok live →
      request.layout.kind = .horizontal → request.table.columns = some columns →
      Throughout act (FindsBy key) live actions →
      ∀ partition, ∀ replica ∈ (run act live actions).table.replicas partition,
        ∀ rows, replica.node.store.select (run act live actions).cluster.files = .ok rows →
          ∀ row ∈ rows, ∃ value, Row.key? (some columns) key row = some value ∧
            (run act live actions).table.router.partitionForKey value = .ok partition := by
  intro h
  obtain ⟨live, hcreated, hfinds, replica, hreplica, hselect, hsent⟩ :=
    exists_of_test (created emptyCoordinator shelves)
      (fun live => Throughout act (FindsBy "id") live removal ∧
        ∃ replica ∈ (run act live removal).table.replicas 1,
          replica.node.store.select (run act live removal).cluster.files = .ok ["2,Alice,"] ∧
          (run act live removal).table.router.partitionForKey "2" = .ok 0) (by decide +kernel)
  obtain ⟨value, hvalue, helsewhere⟩ := h emptyCoordinator shelves ["id", "name"] "id" live removal
    (by trivial) (by decide) hcreated rfl rfl hfinds 1 replica hreplica _ hselect "2,Alice,"
    (by simp)
  have hkey : Row.key? (some ["id", "name"]) "id" "2,Alice," = some "2" := by decide +kernel
  obtain rfl : "2" = value := Option.some.inj (hkey.symm.trans hvalue)
  rw [hsent] at helsewhere
  exact absurd (Except.ok.inj helsewhere) (by decide)

end LiveTable

end TableStore
