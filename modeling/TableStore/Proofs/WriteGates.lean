import TableStore.Proofs.KeyedRows
import TableStore.Proofs.Runs

/-!
# When writes are refused

A write is refused if the last heartbeat round found a replica down that the write would reach,
whatever has become of the replica since.

* `DownAt` is what the last round has left in the table.  Checks fail at the first partition with
  such a replica and name its first one (`checkAllAlive_error`).
* `Targets` says which partitions a write would reach, by what it does and by the layout.  They are
  the ones that its plan checks, in ascending order (`checks_plan?`).
* `Watched seen` is the invariant of runs: the replicas that are down are those that were missing
  in the registry `seen` at the last round.
* `write_gate` puts them together.  A heartbeat is tried once only, so the result is about networks
  that answer the first attempt at a call (`Registry.Responds`).
-/

namespace TableStore

namespace ReplicatedTable

variable {t : ReplicatedTable} {operation : Operation} {partition : Nat} {partitions : List Nat}
  {e : Error}

/-! ## Replicas that are down -/

/-- The last heartbeat round has found a replica down. -/
def DownAt (t : ReplicatedTable) (partition replica : Nat) : Prop :=
  ∃ found, t.replica? partition replica = some found ∧ found.alive = false

theorem checkAllAlive_ok (h : t.checkAllAlive partitions = .ok ()) (hmem : partition ∈ partitions)
    (replica : Nat) : ¬ t.DownAt partition replica := by
  rintro ⟨found, hfound, hdown⟩
  have halive := alive_of_checkAllAlive h hmem found (List.mem_of_getElem? hfound)
  simp [hdown] at halive

theorem checkAlive_ok (h : t.checkAlive partition = .ok ()) (replica : Nat) :
    ¬ t.DownAt partition replica := by
  rw [← checkAllAlive_singleton] at h
  exact checkAllAlive_ok h (List.mem_singleton.2 rfl) replica

/-- The check of a partition names its first replica that is down. -/
theorem checkAlive_error (h : t.checkAlive partition = .error e) :
    ∃ replica found, t.replica? partition replica = some found ∧ found.alive = false ∧
      e = .cannotWrite partition found.id.text ∧
      ∀ other, t.DownAt partition other → replica ≤ other := by
  unfold checkAlive at h
  split at h
  · simp at h
  · next found hfind =>
    obtain ⟨hdown, replica, hlt, hfound, hbefore⟩ := List.find?_eq_some_iff_getElem.1 hfind
    obtain rfl : .cannotWrite partition found.id.text = e := by simpa using h
    have hget : t.replica? partition replica = some found :=
      List.getElem?_eq_some_iff.2 ⟨hlt, hfound⟩
    refine ⟨replica, found, hget, by simpa using hdown, rfl, ?_⟩
    rintro other ⟨down, hother, hdead⟩
    by_contra hless
    obtain ⟨hother, rfl⟩ := List.getElem?_eq_some_iff.1 hother
    have halive := hbefore other (Nat.lt_of_not_le hless)
    simp [hdead] at halive

/-- The check of several partitions in ascending order names the first replica that is down. -/
theorem checkAllAlive_error (hsorted : partitions.Pairwise (· < ·))
    (h : t.checkAllAlive partitions = .error e) :
    ∃ partition ∈ partitions, ∃ replica found, t.replica? partition replica = some found ∧
      found.alive = false ∧ e = .cannotWrite partition found.id.text ∧
      ∀ partition' ∈ partitions, ∀ replica', t.DownAt partition' replica' →
        partition < partition' ∨ partition = partition' ∧ replica ≤ replica' := by
  induction partitions with
  | nil => simp [checkAllAlive] at h
  | cons first rest ih =>
    obtain ⟨hfirst, hsorted⟩ := List.pairwise_cons.1 hsorted
    rw [checkAllAlive] at h
    cases hcheck : t.checkAlive first with
    | error e' =>
      obtain rfl : e' = e := by simpa [hcheck] using h
      obtain ⟨replica, found, hget, hdown, herror, hleast⟩ := checkAlive_error hcheck
      refine ⟨first, List.mem_cons_self, replica, found, hget, hdown, herror, ?_⟩
      intro partition' hpartition' replica' hdown'
      rcases List.mem_cons.1 hpartition' with rfl | hlater
      · exact Or.inr ⟨rfl, hleast replica' hdown'⟩
      · exact Or.inl (hfirst partition' hlater)
    | ok _ =>
      obtain ⟨partition, hmem, replica, found, hget, hdown, herror, hleast⟩ :=
        ih hsorted (by simpa [hcheck] using h)
      refine ⟨partition, List.mem_cons_of_mem _ hmem, replica, found, hget, hdown, herror, ?_⟩
      intro partition' hpartition' replica' hdown'
      rcases List.mem_cons.1 hpartition' with rfl | hlater
      · exact absurd hdown' (checkAlive_ok hcheck replica')
      · exact hleast partition' hlater replica' hdown'

/-! ## The partitions of a write -/

/-- The routing of a write succeeds. -/
def Routes (t : ReplicatedTable) (operation : Operation) : Prop :=
  match operation.kind with
  | .insert => (t.router.routeInsert operation.columns operation.values).isOk = true
  | .update => ∃ condition ∈ operation.condition,
      (t.router.routePredicate condition).isOk = true ∧ (t.router.layout.kind = .vertical →
        (t.router.splitAssignments operation.columns operation.values).isOk = true)
  | .delete => ∃ condition ∈ operation.condition,
      (t.router.routePredicate condition).isOk = true
  | .select => False

instance (t : ReplicatedTable) : ∀ operation : Operation, Decidable (t.Routes operation)
  | ⟨.insert, _, _, _, _⟩ => inferInstanceAs (Decidable (_ = true))
  | ⟨.update, _, _, _, _⟩ => inferInstanceAs (Decidable (∃ _ ∈ _, _ ∧ (_ → _)))
  | ⟨.delete, _, _, _, _⟩ => inferInstanceAs (Decidable (∃ _ ∈ _, _))
  | ⟨.select, _, _, _, _⟩ => inferInstanceAs (Decidable False)

/-- A group of columns holds the column of an update's condition or one that the update assigns. -/
def Concerns (operation : Operation) (names : List String) : Prop :=
  (∃ condition ∈ operation.condition, condition.column ∈ names) ∨
    ∃ field ∈ operation.columns.zip operation.values, field.1 ∈ names

/-- The partitions that a write would reach: the only one without a layout, the one of the key
under a layout by key, and all of them under a layout by columns, but for an update only those
whose columns it reads or assigns. -/
def Targets (t : ReplicatedTable) (operation : Operation) (partition : Nat) : Prop :=
  match t.router.layout.kind with
  | .none => partition = 0
  | .horizontal => ∃ key ∈ operation.keyValue?, t.router.partitionForKey key = .ok partition
  | .vertical => partition < t.router.partitionCount ∧ (operation.kind = .update →
      ∃ names ∈ t.router.group partition, Concerns operation names)

/-- A plan checks the partitions that a write would reach, in ascending order. -/
structure Checks (t : ReplicatedTable) (operation : Operation) (plan : Plan) : Prop where
  sorted : plan.checked.Pairwise (· < ·)
  mem_iff : ∀ partition, partition ∈ plan.checked ↔ t.Targets operation partition

theorem exists_of_isOk {ε α : Type} {reply : Except ε α} (h : reply.isOk = true) :
    ∃ value, reply = .ok value := by
  cases reply with
  | error e => simp [Except.isOk, Except.toBool] at h
  | ok value => exact ⟨value, rfl⟩

theorem sorted_partitions (router : Router) : router.partitions.Pairwise (· < ·) :=
  List.pairwise_lt_range

/-- Where rows are not split, a write concerns one partition. -/
theorem targets_iff_eq (hkind : t.router.layout.kind ≠ .vertical) {target : Nat}
    (hnone : t.router.layout.kind = .none → target = 0)
    (hkey : t.router.layout.kind = .horizontal →
      ∃ key, operation.keyValue? = some key ∧ t.router.partitionForKey key = .ok target) :
    t.Targets operation partition ↔ partition = target := by
  unfold Targets
  split
  · next h => rw [hnone h]
  · next h =>
    obtain ⟨key, hvalue, hrouted⟩ := hkey h
    simp only [hvalue, Option.mem_some_iff, exists_eq_left', hrouted, Except.ok.injEq]
    exact eq_comm
  · next h => exact absurd h hkind

theorem checks_insertPlan (hinsert : operation.kind = .insert)
    (h : (t.router.routeInsert operation.columns operation.values).isOk = true) :
    ∃ plan, t.insertPlan operation = .ok plan ∧ t.Checks operation plan := by
  obtain ⟨slices, hslices⟩ := exists_of_isOk h
  refine ⟨_, by rw [insertPlan, hslices]; rfl, ?_⟩
  have hchecked : (Plan.each (slices.map fun slice => (slice.partition,
      NodeCall.insert slice.columns slice.values))).checked =
        slices.map ColumnSlice.partition := by simp [Plan.checked, Function.comp_def]
  unfold Router.routeInsert at hslices
  split at hslices
  · next hkind =>
    obtain rfl : _ = slices := by simpa using hslices
    refine ⟨by rw [hchecked]; simp, fun partition => ?_⟩
    rw [hchecked, targets_iff_eq (by simp [hkind]) (fun _ => rfl) (by simp [hkind])]
    simp
  · next hkind =>
    split at hslices
    · simp at hslices
    · next key hhead =>
      obtain ⟨target, htarget⟩ : ∃ target, t.router.partitionForKey key = .ok target := by
        cases hkey : t.router.partitionForKey key with
        | error e => simp [hkey, Except.map] at hslices
        | ok target => exact ⟨target, rfl⟩
      obtain rfl : _ = slices := by simpa [htarget, Except.map] using hslices
      have hvalue : operation.keyValue? = some key := by
        simp [Operation.keyValue?, hinsert, hhead]
      refine ⟨by rw [hchecked]; simp, fun partition => ?_⟩
      rw [hchecked, targets_iff_eq (by simp [hkind]) (by simp [hkind])
        fun _ => ⟨key, hvalue, htarget⟩]
      simp
  · next hkind =>
    have hall : slices.map ColumnSlice.partition = t.router.partitions := by
      rw [Router.slices_ok hslices, map_partition_ofFields]
    refine ⟨by rw [hchecked, hall]; exact sorted_partitions _, fun partition => ?_⟩
    rw [hchecked, hall, Router.partitions, List.mem_range]
    simp [Targets, hkind, hinsert]

/-- The partition of a condition under a layout that does not split rows. -/
theorem checks_single {condition : Predicate} {driver : Nat} {call : NodeCall .positions}
    (hneeds : operation.kind = .update ∨ operation.kind = .delete)
    (hcondition : operation.condition = some condition)
    (hdriver : t.router.routePredicate condition = .ok driver)
    (hkind : t.router.layout.kind ≠ .vertical) :
    t.Checks operation (.driven [driver] driver call fun _ => []) := by
  refine ⟨by simp [Plan.checked], fun partition => ?_⟩
  have hvalue : operation.keyValue? = some condition.value := by
    rcases hneeds with h | h <;> simp [Operation.keyValue?, h, hcondition]
  unfold Router.routePredicate at hdriver
  rw [targets_iff_eq hkind, Plan.checked, List.mem_singleton]
  · intro h
    rw [h] at hdriver
    exact (Except.ok.inj hdriver).symm
  · intro h
    rw [h] at hdriver
    exact ⟨condition.value, hvalue, hdriver⟩

/-- An update concerns the group of its condition and those with assignments. -/
theorem mem_updateTargets (ht : t.Deployed) (hkind : t.router.layout.kind = .vertical)
    (hupdate : operation.kind = .update) {condition : Predicate} {driver : Nat}
    {slices : List ColumnSlice} (hcondition : operation.condition = some condition)
    (hdriver : t.router.routePredicate condition = .ok driver)
    (hslices : t.router.splitAssignments operation.columns operation.values = .ok slices) :
    partition ∈ t.updateTargets driver slices ↔ t.Targets operation partition := by
  obtain ⟨-, columns, groups, -, hgroups, -, hshares⟩ := Layout.check_vertical ht.layout hkind
  have hgroup : ∀ column, t.router.groupOf? column = some partition ↔
      ∃ names ∈ t.router.group partition, column ∈ names := by
    intro column
    rw [Router.groupOf?_eq_some hgroups hshares.nodup, Router.group_eq hgroups]
    simp only [Option.mem_def]
  have hown : partition = driver ↔ t.router.groupOf? condition.column = some partition := by
    simp only [Router.routePredicate, hkind, Router.partitionOfColumn] at hdriver
    cases hfound : t.router.groupOf? condition.column with
    | none => simp [hfound] at hdriver
    | some group =>
      obtain rfl : group = driver := by simpa [hfound] using hdriver
      simp only [Option.some.injEq]
      exact eq_comm
  have hconcerns : (∃ names ∈ t.router.group partition, Concerns operation names) ↔
      partition = driver ∨ ∃ field ∈ operation.columns.zip operation.values,
        t.router.groupOf? field.1 = some partition := by
    simp only [Concerns, hcondition, Option.mem_some_iff, exists_eq_left', hown, hgroup]
    constructor
    · rintro ⟨names, hnames, hcolumn | ⟨field, hfield, hcolumn⟩⟩
      · exact Or.inl ⟨names, hnames, hcolumn⟩
      · exact Or.inr ⟨field, hfield, names, hnames, hcolumn⟩
    · rintro (⟨names, hnames, hcolumn⟩ | ⟨field, hfield, names, hnames, hcolumn⟩)
      · exact ⟨names, hnames, Or.inl hcolumn⟩
      · exact ⟨names, hnames, Or.inr ⟨field, hfield, hcolumn⟩⟩
  simp only [updateTargets, List.mem_filter, Router.partitions, List.mem_range, decide_eq_true_eq,
    Router.mem_splitAssignments hslices, Targets, hkind, hupdate, forall_const, hconcerns]
  constructor
  · rintro ⟨hlt, hown | ⟨-, hassigned⟩⟩
    · exact ⟨hlt, Or.inl hown⟩
    · exact ⟨hlt, Or.inr hassigned⟩
  · rintro ⟨hlt, hown | hassigned⟩
    · exact ⟨hlt, Or.inl hown⟩
    · exact ⟨hlt, Or.inr ⟨hlt, hassigned⟩⟩

theorem checks_updatePlan (ht : t.Deployed) (hupdate : operation.kind = .update)
    {condition : Predicate} {driver : Nat} (hcondition : operation.condition = some condition)
    (hdriver : t.router.routePredicate condition = .ok driver)
    (hsplit : t.router.layout.kind = .vertical →
      (t.router.splitAssignments operation.columns operation.values).isOk = true) :
    ∃ plan, t.updatePlan operation condition driver = .ok plan ∧ t.Checks operation plan := by
  unfold updatePlan
  split
  · next hkind =>
    obtain ⟨slices, hslices⟩ := exists_of_isOk (hsplit hkind)
    have hsorted : (t.updateTargets driver slices).Pairwise (· < ·) :=
      (sorted_partitions _).sublist List.filter_sublist
    refine ⟨.driven (t.updateTargets driver slices) driver _ _, by rw [hslices]; rfl, hsorted,
      fun partition => ?_⟩
    exact mem_updateTargets ht hkind hupdate hcondition hdriver hslices
  · next hkind =>
    exact ⟨_, rfl, checks_single (Or.inl hupdate) hcondition hdriver fun h => hkind h⟩

theorem checks_deletePlan (hdelete : operation.kind = .delete) {condition : Predicate}
    {driver : Nat} (hcondition : operation.condition = some condition)
    (hdriver : t.router.routePredicate condition = .ok driver) :
    t.Checks operation (t.deletePlan condition driver) := by
  unfold deletePlan
  split
  · next hkind =>
    refine ⟨sorted_partitions _, fun partition => ?_⟩
    rw [Plan.checked, Router.partitions, List.mem_range]
    simp [Targets, hkind, hdelete]
  · next hkind => exact checks_single (Or.inr hdelete) hcondition hdriver fun h => hkind h

theorem routeCondition_of {condition : Predicate} {driver : Nat}
    (hcondition : operation.condition = some condition)
    (hdriver : t.router.routePredicate condition = .ok driver) :
    t.routeCondition operation = .ok (condition, driver) := by
  simp [routeCondition, requiredCondition, hcondition, hdriver, Except.map]

/-- **The plan of a write checks the partitions that it would reach.** -/
theorem checks_plan? (ht : t.Deployed) (h : t.Routes operation) :
    ∃ plan, t.plan? operation = .ok plan ∧ t.Checks operation plan := by
  unfold Routes at h
  unfold plan?
  cases hkind : operation.kind with
  | insert =>
    simp only [hkind] at h ⊢
    exact checks_insertPlan hkind h
  | update =>
    simp only [hkind] at h ⊢
    obtain ⟨condition, hcondition, hdriver, hsplit⟩ := h
    obtain ⟨driver, hdriver⟩ := exists_of_isOk hdriver
    rw [routeCondition_of hcondition hdriver]
    exact checks_updatePlan ht hkind hcondition hdriver hsplit
  | delete =>
    simp only [hkind] at h ⊢
    obtain ⟨condition, hcondition, hdriver⟩ := h
    obtain ⟨driver, hdriver⟩ := exists_of_isOk hdriver
    rw [routeCondition_of hcondition hdriver]
    exact ⟨_, rfl, checks_deletePlan hkind hcondition hdriver⟩
  | select => simp [hkind] at h

/-- A write that has a plan is routed. -/
theorem routes_of_plan? {plan : Plan} (hkind : operation.kind ≠ .select)
    (h : t.plan? operation = .ok plan) : t.Routes operation := by
  have hisOk : ∀ {α : Type} {value : α} {reply : Except Error α}, reply = .ok value →
      reply.isOk = true := by
    rintro α value reply rfl
    rfl
  unfold plan? at h
  unfold Routes
  cases hoperation : operation.kind with
  | insert =>
    simp only [hoperation, insertPlan] at h ⊢
    cases hslices : t.router.routeInsert operation.columns operation.values with
    | error e => simp [hslices, Except.map] at h
    | ok slices => rfl
  | update =>
    simp only [hoperation] at h ⊢
    split at h
    · simp at h
    · next condition driver hroute =>
      obtain ⟨hcondition, hdriver⟩ := routeCondition_ok hroute
      refine ⟨condition, hcondition, hisOk hdriver, fun hvertical => ?_⟩
      simp only [updatePlan, hvertical] at h
      cases hslices : t.router.splitAssignments operation.columns operation.values with
      | error e => simp [hslices, Except.map] at h
      | ok slices => rfl
  | delete =>
    simp only [hoperation] at h ⊢
    cases hroute : t.routeCondition operation with
    | error e => simp [hroute, Except.map] at h
    | ok routed =>
      obtain ⟨hcondition, hdriver⟩ := routeCondition_ok hroute
      exact ⟨routed.1, hcondition, hisOk hdriver⟩
  | select => exact absurd hoperation hkind

theorem registry_fanOutEach (t : ReplicatedTable) {kind : ReplyKind}
    (calls : List (Nat × NodeCall kind)) (cluster : Cluster) :
    (t.fanOutEach calls cluster).2.registry = cluster.registry := by
  induction calls generalizing cluster with
  | nil => rfl
  | cons call rest ih => exact ih (t.fanOut call.1 call.2 cluster).2

/-- Writes leave the registry as it is. -/
theorem registry_write (t : ReplicatedTable) (operation : Operation) (cluster : Cluster) :
    (t.write operation cluster).2.registry = cluster.registry := by
  rw [write_eq_plan]
  cases t.plan? operation with
  | error e => rfl
  | ok plan =>
    simp only [follow]
    cases t.checkAllAlive plan.checked with
    | error e => rfl
    | ok _ =>
      cases plan with
      | each calls => exact registry_fanOutEach t calls cluster
      | driven checked driver call others =>
        simp only [Plan.carryOut, propagate]
        split
        · rfl
        · exact registry_fanOutEach t _ _

/-- A write would reach existing partitions only. -/
theorem lt_of_targets (ht : t.Deployed) (h : t.Targets operation partition) :
    partition < t.router.partitionCount := by
  unfold Targets at h
  split at h
  · next hkind =>
    have hone : t.router.partitionCount = 1 := Layout.check_none ht.layout hkind
    omega
  · obtain ⟨key, -, hrouted⟩ := h
    exact Router.lt_of_partitionForKey (Layout.partitionCount_pos ht.layout) hrouted
  · exact h.1

/-- A write that is routed is refused if and only if a replica is down that it would reach, and
the refusal names the first one. -/
theorem write_refused (ht : t.Deployed) (hroutes : t.Routes operation) (cluster : Cluster) :
    ((t.write operation cluster).1.isOk = true ∧
      ∀ partition replica, t.Targets operation partition → ¬ t.DownAt partition replica) ∨
    ∃ partition replica found, (t.write operation cluster).1 =
        .error (.cannotWrite partition found.id.text) ∧
      t.Targets operation partition ∧ t.replica? partition replica = some found ∧
      found.alive = false ∧
      ∀ partition' replica', t.Targets operation partition' → t.DownAt partition' replica' →
        partition < partition' ∨ partition = partition' ∧ replica ≤ replica' := by
  obtain ⟨plan, hplan, hchecks⟩ := checks_plan? ht hroutes
  rw [write_eq_plan, hplan]
  simp only [follow]
  cases hcheck : t.checkAllAlive plan.checked with
  | ok _ =>
    refine Or.inl ⟨rfl, fun partition replica htarget => ?_⟩
    exact checkAllAlive_ok hcheck ((hchecks.mem_iff partition).2 htarget) replica
  | error e =>
    obtain ⟨partition, hmem, replica, found, hfound, hdown, rfl, hleast⟩ :=
      checkAllAlive_error hchecks.sorted hcheck
    refine Or.inr ⟨partition, replica, found, rfl, (hchecks.mem_iff partition).1 hmem, hfound,
      hdown, fun partition' replica' htarget => ?_⟩
    exact hleast partition' ((hchecks.mem_iff partition').2 htarget) replica'

end ReplicatedTable

/-! ## Runs -/

/-- A replica was not registered when the registry was looked at.  Nothing is missing before the
first look. -/
def Missing (seen : Option Registry) (id : ReplicaId) : Prop :=
  ∃ registry ∈ seen, registry.reaches id = false

namespace LiveTable

variable {live : LiveTable} {table : TableDef} {count : Nat} {seen : Option Registry}

/-- What a step looks at: a heartbeat round asks for all replicas in the registry, and no other
step does. -/
def looksAt? (live : LiveTable) : Action → Option Registry
  | .beat => some live.cluster.registry
  | _ => none

/-- The registry at the last heartbeat round of a run, if there is one. -/
def lastRound (live : LiveTable) : List Action → Option Registry
  | [] => none
  | action :: rest => (lastRound (live.act action) rest).or (live.looksAt? action)

/-- The replicas that count as down are those that were missing at the last round. -/
structure Watched (live : LiveTable) (table : TableDef) (count : Nat) (seen : Option Registry) :
    Prop where
  table_eq : live.table.table = table
  deployed : live.table.Deployed
  ids : ∀ partition, (live.table.nodes partition).map StorageNode.id =
    if partition < live.table.router.partitionCount
    then ReplicatedTable.replicaIds table count partition else []
  responds : live.cluster.registry.Responds
  down : ∀ partition, ∀ replica ∈ live.table.replicas partition,
    replica.alive = false ↔ Missing seen replica.id

/-- Only heartbeat rounds change what a table remembers of its replicas. -/
theorem table_act {action : Action} (h : action ≠ .beat) :
    (live.act action).table = live.table := by
  cases action with
  | write operation => rfl
  | select => rfl
  | stop partition replica =>
    simp only [act]
    cases live.table.stop partition replica live.cluster.registry <;> rfl
  | start partition replica =>
    simp only [act]
    cases live.table.start partition replica live.cluster.registry <;> rfl
  | beat => exact absurd rfl h

theorem responds_act (h : live.cluster.registry.Responds) (action : Action) :
    (live.act action).cluster.registry.Responds := by
  cases action with
  | write operation =>
    rw [act, ReplicatedTable.registry_write]
    exact h
  | select => exact h
  | stop partition replica =>
    simp only [act]
    cases hstop : live.table.stop partition replica live.cluster.registry with
    | error e => exact h
    | ok registry =>
      obtain ⟨node, -, rfl⟩ := ReplicatedTable.stop_ok hstop
      exact (Registry.responds_unregister _ _).2 h
  | start partition replica =>
    simp only [act]
    cases hstart : live.table.start partition replica live.cluster.registry with
    | error e => exact h
    | ok registry =>
      obtain ⟨node, -, rfl⟩ := ReplicatedTable.start_ok hstart
      exact (Registry.responds_register _ _).2 h
  | beat => exact h

/-- After a round the replicas are down that are missing now. -/
theorem down_beat (ht : live.table.Deployed) (hresponds : live.cluster.registry.Responds)
    {partition : Nat} {replica : Replica}
    (h : replica ∈ (live.act .beat).table.replicas partition) :
    replica.alive = false ↔ Missing (some live.cluster.registry) replica.id := by
  have hnode := List.mem_map_of_mem (f := Replica.node) h
  rw [act, ReplicatedTable.replicas_beat] at h
  obtain ⟨before, hbefore, rfl⟩ := List.mem_map.1 h
  have hvalid : before.node.id.IsValid :=
    ht.isValid (List.mem_map_of_mem (f := Replica.node) hbefore)
  have halive : (before.beat live.cluster).alive = true ↔
      live.cluster.registry.Responds ∧ live.cluster.registry.reaches before.id = true :=
    ReplicatedTable.alive_beat hvalid
  simp only [hresponds, true_and] at halive
  rw [← Bool.not_eq_true, halive, Missing]
  simp [Replica.beat, Replica.id]

theorem watched_act (h : live.Watched table count seen) (action : Action) :
    (live.act action).Watched table count ((live.looksAt? action).or seen) := by
  have hsame := sameTable_act live action
  refine ⟨hsame.table.trans h.table_eq, deployed_act h.deployed action, ?_,
    responds_act h.responds action, ?_⟩
  · intro partition
    rw [hsame.nodes, hsame.router]
    exact h.ids partition
  · intro partition replica hreplica
    by_cases hbeat : action = .beat
    · subst hbeat
      exact down_beat h.deployed h.responds hreplica
    · rw [table_act hbeat] at hreplica
      have hnone : live.looksAt? action = none := by
        cases action with
        | beat => exact absurd rfl hbeat
        | _ => rfl
      rw [hnone]
      exact h.down partition replica hreplica

theorem watched_run (h : live.Watched table count seen) (actions : List Action) :
    (run act live actions).Watched table count ((lastRound live actions).or seen) := by
  induction actions generalizing live seen with
  | nil => exact h
  | cons action rest ih =>
    rw [lastRound, Option.or_assoc]
    exact ih (watched_act h action)

/-- A table is watched from its creation on. -/
theorem watched_launched {layout : Layout} {settings : ReplicationSettings} {cluster : Cluster}
    (hresponds : cluster.registry.Responds)
    (h : launched table count layout settings cluster = .ok live) :
    live.Watched table count none := by
  have hcreate := launched_ok h
  have hcreated := ReplicatedTable.create_ok hcreate
  have hspares := ReplicatedTable.spares_create table count layout settings cluster
  rw [hcreate] at hspares
  have hresponds' : live.cluster.registry.Responds := hspares.responds.2 hresponds
  refine ⟨hcreated.table, hcreated.deployed, ?_, hresponds', ?_⟩
  · have hids := hcreated.ids
    rwa [hcreated.table] at hids
  · intro partition replica hreplica
    simp [(hcreated.alive partition replica hreplica).2 hresponds', Missing]

/-- A watched table has as many replicas of each partition as it was created with. -/
theorem Watched.replica?_id (h : live.Watched table count seen) {partition : Nat}
    (hlt : partition < live.table.router.partitionCount) (replica : Nat) :
    (live.table.replica? partition replica).map Replica.id =
      if replica < count then some (.ofTable table partition replica) else none := by
  have hids : (live.table.replicas partition).map Replica.id =
      ReplicatedTable.replicaIds table count partition := by
    have hnodes := h.ids partition
    rw [if_pos hlt, ReplicatedTable.nodes, List.map_map] at hnodes
    exact hnodes
  rw [ReplicatedTable.replica?, ← List.getElem?_map, hids, ReplicatedTable.replicaIds,
    List.getElem?_map]
  by_cases hreplica : replica < count
  · simp [hreplica]
  · simp [hreplica]

/-- The replicas of a watched table that are down. -/
theorem Watched.downAt_iff (h : live.Watched table count seen) {partition : Nat}
    (hlt : partition < live.table.router.partitionCount) (replica : Nat) :
    live.table.DownAt partition replica ↔
      replica < count ∧ Missing seen (.ofTable table partition replica) := by
  have hid := h.replica?_id hlt replica
  constructor
  · rintro ⟨found, hfound, hdown⟩
    rw [hfound, Option.map_some] at hid
    split at hid
    · next hreplica =>
      obtain hid : found.id = _ := Option.some.inj hid
      rw [← hid]
      exact ⟨hreplica, (h.down partition found (List.mem_of_getElem? hfound)).1 hdown⟩
    · simp at hid
  · rintro ⟨hreplica, hmissing⟩
    rw [if_pos hreplica] at hid
    obtain ⟨found, hfound, hid⟩ := Option.map_eq_some_iff.1 hid
    rw [← hid] at hmissing
    exact ⟨found, hfound, (h.down partition found (List.mem_of_getElem? hfound)).2 hmissing⟩

/-- What a write is answered. -/
def reply (live : LiveTable) (operation : Operation) : Except Error Summary :=
  (live.table.write operation live.cluster).1

/-- A replica stands in the way of a write: it is one of the `count` replicas of a partition that
the write would reach, and it was missing when the registry was looked at. -/
def Blocks (live : LiveTable) (count : Nat) (seen : Option Registry) (operation : Operation)
    (partition replica : Nat) : Prop :=
  live.table.Targets operation partition ∧ replica < count ∧
    Missing seen (.ofTable live.table.table partition replica)

theorem Watched.blocks_iff (h : live.Watched table count seen) {operation : Operation}
    {partition replica : Nat} : live.Blocks count seen operation partition replica ↔
      live.table.Targets operation partition ∧ live.table.DownAt partition replica := by
  refine and_congr_right fun htarget => ?_
  have hlt := ReplicatedTable.lt_of_targets h.deployed htarget
  rw [h.downAt_iff hlt, h.table_eq]

/-- **Writes are refused exactly because of the last heartbeat round.**  After any run a write that
is routed is refused if and only if a replica that it would reach was not registered at the last
round; the refusal names the first such partition and its first such replica.  Nothing but a
heartbeat round changes the reported states. -/
theorem write_gate {layout : Layout} {settings : ReplicationSettings} {cluster : Cluster}
    (hresponds : cluster.registry.Responds)
    (hlaunched : launched table count layout settings cluster = .ok live) (actions : List Action)
    {operation : Operation} (hroutes : (run act live actions).table.Routes operation) :
    ((∃ partition id,
        (run act live actions).reply operation = .error (.cannotWrite partition id)) ↔
      ∃ partition replica, (run act live actions).Blocks count (lastRound live actions) operation
        partition replica) ∧
    (∀ partition id,
      (run act live actions).reply operation = .error (.cannotWrite partition id) →
        ∃ replica, id = (ReplicaId.ofTable table partition replica).text ∧
          (run act live actions).Blocks count (lastRound live actions) operation
            partition replica ∧
          ∀ partition' replica', (run act live actions).Blocks count (lastRound live actions)
              operation partition' replica' →
            partition < partition' ∨ partition = partition' ∧ replica ≤ replica') ∧
    ∀ action, action ≠ .beat → ((run act live actions).act action).table.status =
      (run act live actions).table.status := by
  have hwatched := watched_run (watched_launched hresponds hlaunched) actions
  rw [Option.or_none] at hwatched
  generalize run act live actions = now at hroutes hwatched
  generalize lastRound live actions = seen at hwatched
  refine ⟨?_, ?_, fun action hnot => by rw [table_act hnot]⟩
  all_goals
    simp only [hwatched.blocks_iff]
    rcases ReplicatedTable.write_refused hwatched.deployed hroutes now.cluster with
      ⟨hok, hnone⟩ | ⟨partition, replica, found, hrefused, htarget, hfound, hdown, hleast⟩
  · constructor
    · rintro ⟨partition, id, hrefused⟩
      rw [reply] at hrefused
      simp [hrefused, Except.isOk, Except.toBool] at hok
    · rintro ⟨partition, replica, htarget, hdown⟩
      exact absurd hdown (hnone partition replica htarget)
  · exact iff_of_true ⟨partition, _, hrefused⟩ ⟨partition, replica, htarget, found, hfound, hdown⟩
  · intro partition id hrefused
    rw [reply] at hrefused
    simp [hrefused, Except.isOk, Except.toBool] at hok
  · intro partition' id hrefused'
    rw [reply, hrefused] at hrefused'
    obtain ⟨rfl, rfl⟩ : partition = partition' ∧ found.id.text = id := by simpa using hrefused'
    have hlt := ReplicatedTable.lt_of_targets hwatched.deployed htarget
    have hid := hwatched.replica?_id hlt replica
    rw [hfound, Option.map_some] at hid
    split at hid
    · exact ⟨replica, congrArg ReplicaId.text (Option.some.inj hid),
        ⟨htarget, found, hfound, hdown⟩, fun partition' replica' hblocks =>
          hleast partition' replica' hblocks.1 hblocks.2⟩
    · simp at hid

/-- A table with a partition for each of its columns. -/
def grades : TableDef := ⟨"grades", .sql, some ["id", "name", "mark"]⟩

/-- A heartbeat round finds two replicas stopped, and one of them is started after it. -/
def maintenance : List Action :=
  [.write (.insertion "grades" ["id", "name", "mark"] ["1", "Alice", "A"]), .stop 1 1, .stop 2 0,
    .beat, .start 2 0, .select]

/-- The replica that was started is taken for stopped until the next round, and the one that is
still stopped stores no column that the update is about. -/
theorem write_gate_maintenance :
    ∃ live, launched grades 2 (.byColumns [["id"], ["name"], ["mark"]]) ⟨["data"], 1000⟩
        ⟨.direct, .empty⟩ = .ok live ∧
      (run act live maintenance).table.Routes (.assignment "grades" ["mark"] ["B"] ⟨"id", "1"⟩) ∧
      (run act live maintenance).reply (.assignment "grades" ["mark"] ["B"] ⟨"id", "1"⟩) =
        .error (.cannotWrite 2 "grades-SQL-2-0") ∧
      ∃ replica, "grades-SQL-2-0" = (ReplicaId.ofTable grades 2 replica).text ∧
        (run act live maintenance).Blocks 2 (lastRound live maintenance)
          (.assignment "grades" ["mark"] ["B"] ⟨"id", "1"⟩) 2 replica ∧
        ∀ partition' replica', (run act live maintenance).Blocks 2 (lastRound live maintenance)
            (.assignment "grades" ["mark"] ["B"] ⟨"id", "1"⟩) partition' replica' →
          2 < partition' ∨ 2 = partition' ∧ replica ≤ replica' := by
  obtain ⟨live, hlaunched, hroutes, hrefused⟩ := exists_of_test
    (launched grades 2 (.byColumns [["id"], ["name"], ["mark"]]) ⟨["data"], 1000⟩
      ⟨.direct, .empty⟩)
    (fun live =>
      (run act live maintenance).table.Routes (.assignment "grades" ["mark"] ["B"] ⟨"id", "1"⟩) ∧
      (run act live maintenance).reply (.assignment "grades" ["mark"] ["B"] ⟨"id", "1"⟩) =
        .error (.cannotWrite 2 "grades-SQL-2-0")) (by decide)
  have hgate := write_gate (by trivial) hlaunched maintenance hroutes
  exact ⟨live, hlaunched, hroutes, hrefused, hgate.2.1 2 _ hrefused⟩

end LiveTable

end TableStore
