import TableStore.Proofs.Deployment
import TableStore.Proofs.Routing
import TableStore.ReplicatedTable.Write

/-!
# Writes as plans

Every write, whatever it does and whatever the layout is, follows one of two plans: calls on
partitions that do not depend on each other, or a call on one partition whose answer decides the
calls on others.  `write_eq_plan` says that a write is its plan, carried out after the replicas of
all partitions concerned were found alive; proofs about writes go by plans from there on.

`Plan.Fits` collects what the calls of a plan have in common: no partition is called twice, none
is called whose replicas were not checked, and the partitions called do not depend on positions.
-/

namespace TableStore

/-- The calls of one write. -/
inductive Plan
  /-- Calls on partitions, in order. -/
  | each (calls : List (Nat × NodeCall .done))
  /-- A call on the driver, and calls on others with the positions that it answers.  Before that
  the replicas of the partitions `checked` are looked at. -/
  | driven (checked : List Nat) (driver : Nat) (call : NodeCall .positions)
      (others : List Nat → List (Nat × NodeCall .count))

namespace Plan

/-- The partitions all of whose replicas must be alive. -/
def checked : Plan → List Nat
  | each calls => calls.map Prod.fst
  | driven checked _ _ _ => checked

/-- Makes the calls of a plan. -/
def carryOut (t : ReplicatedTable) (cluster : Cluster) : Plan → Summary × Cluster
  | each calls => t.fanOutEach calls cluster
  | driven _ driver call others => t.propagate driver call others cluster

/-- No partition is called twice or without a check, and positions do not decide which ones are
called with them. -/
def Fits : Plan → Prop
  | each calls => (calls.map Prod.fst).Nodup
  | driven checked driver _ others => driver ∈ checked ∧ ∀ positions,
      ((others positions).map Prod.fst).Nodup ∧
        (∀ partition ∈ (others positions).map Prod.fst, partition ∈ checked ∧ partition ≠ driver) ∧
          (others positions).map Prod.fst = (others []).map Prod.fst

end Plan

namespace ReplicatedTable

variable {t : ReplicatedTable} {operation : Operation}

/-! ## The plan of a write -/

/-- The plan of an insertion. -/
def insertPlan (t : ReplicatedTable) (operation : Operation) : Except Error Plan :=
  (t.router.routeInsert operation.columns operation.values).map fun slices =>
    .each (slices.map fun slice => (slice.partition, .insert slice.columns slice.values))

/-- The plan of an update whose condition is looked up in the driver. -/
def updatePlan (t : ReplicatedTable) (operation : Operation) (condition : Predicate)
    (driver : Nat) : Except Error Plan :=
  match t.router.layout.kind with
  | .vertical =>
    (t.router.splitAssignments operation.columns operation.values).map fun slices =>
      let own := (slices.find? fun slice => slice.partition = driver).getD ⟨driver, [], []⟩
      let others := slices.filter fun slice => slice.partition ≠ driver
      .driven (t.updateTargets driver slices) driver (.update own.columns own.values condition)
        fun positions => others.map fun slice =>
          (slice.partition, .updateAt positions slice.columns slice.values)
  | _ =>
    .ok (.driven [driver] driver (.update operation.columns operation.values condition)
      fun _ => [])

/-- The plan of a removal whose condition is looked up in the driver. -/
def deletePlan (t : ReplicatedTable) (condition : Predicate) (driver : Nat) : Plan :=
  match t.router.layout.kind with
  | .vertical =>
    .driven t.router.partitions driver (.delete condition) fun positions =>
      (t.router.partitions.filter fun partition => partition ≠ driver).map fun partition =>
        (partition, .deleteAt positions)
  | _ => .driven [driver] driver (.delete condition) fun _ => []

/-- The condition of an update or removal, and the partition that it is looked up in. -/
def routeCondition (t : ReplicatedTable) (operation : Operation) :
    Except Error (Predicate × Nat) :=
  match requiredCondition operation with
  | .error e => .error e
  | .ok condition => (t.router.routePredicate condition).map fun driver => (condition, driver)

/-- The plan of a write.  A selection has the plan without calls. -/
def plan? (t : ReplicatedTable) (operation : Operation) : Except Error Plan :=
  match operation.kind with
  | .insert => t.insertPlan operation
  | .update =>
    match t.routeCondition operation with
    | .error e => .error e
    | .ok (condition, driver) => t.updatePlan operation condition driver
  | .delete =>
    (t.routeCondition operation).map fun (condition, driver) => t.deletePlan condition driver
  | .select => .ok (.each [])

/-- What becomes of a plan. -/
def follow (t : ReplicatedTable) (cluster : Cluster) : Except Error Plan →
    Except Error Summary × Cluster
  | .error e => (.error e, cluster)
  | .ok plan =>
    match t.checkAllAlive plan.checked with
    | .error e => (.error e, cluster)
    | .ok () => ((.ok (plan.carryOut t cluster).1), (plan.carryOut t cluster).2)

/-! ## Writes follow their plans -/

theorem checkAllAlive_singleton (t : ReplicatedTable) (partition : Nat) :
    t.checkAllAlive [partition] = t.checkAlive partition := by
  simp only [checkAllAlive]
  cases t.checkAlive partition <;> rfl

/-- Without calls on others, a driven plan is the call on the driver. -/
theorem propagate_nil (t : ReplicatedTable) (driver : Nat) (call : NodeCall .positions)
    (cluster : Cluster) : t.propagate driver call (fun _ => []) cluster =
      ((t.fanOut driver call cluster).1.summary, (t.fanOut driver call cluster).2) := by
  simp only [propagate, fanOutEach, Summary.merge_empty, ite_self]

theorem insert_eq_plan (t : ReplicatedTable) (operation : Operation) (cluster : Cluster) :
    t.insert operation cluster = t.follow cluster (t.insertPlan operation) := by
  unfold insert insertPlan
  cases t.router.routeInsert operation.columns operation.values with
  | error e => rfl
  | ok slices =>
    have hchecked : (slices.map fun slice => (slice.partition,
        NodeCall.insert slice.columns slice.values)).map Prod.fst =
          slices.map ColumnSlice.partition := by simp [Function.comp_def]
    simp only [Except.map, follow, Plan.checked, hchecked]
    cases t.checkAllAlive (slices.map ColumnSlice.partition) <;> rfl

theorem update_eq_plan (t : ReplicatedTable) (operation : Operation) (cluster : Cluster) :
    t.update operation cluster = t.follow cluster (match t.routeCondition operation with
      | .error e => .error e
      | .ok (condition, driver) => t.updatePlan operation condition driver) := by
  unfold update routeCondition
  cases requiredCondition operation with
  | error e => rfl
  | ok condition =>
    simp only
    cases t.router.routePredicate condition with
    | error e => rfl
    | ok driver =>
      have hone : (match t.checkAlive driver with
          | .error e => (.error e, cluster)
          | .ok () => (.ok (t.fanOut driver
              (.update operation.columns operation.values condition) cluster).1.summary,
            (t.fanOut driver (.update operation.columns operation.values condition) cluster).2)) =
          t.follow cluster (.ok (.driven [driver] driver
            (.update operation.columns operation.values condition) fun _ => [])) := by
        simp only [follow, Plan.checked, checkAllAlive_singleton, Plan.carryOut, propagate_nil]
      simp only [Except.map, updatePlan]
      cases t.router.layout.kind with
      | none => exact hone
      | horizontal => exact hone
      | vertical =>
        simp only
        cases t.router.splitAssignments operation.columns operation.values with
        | error e => rfl
        | ok slices =>
          simp only [updateColumns, follow, Plan.checked]
          cases t.checkAllAlive (t.updateTargets driver slices) <;> rfl

theorem delete_eq_plan (t : ReplicatedTable) (operation : Operation) (cluster : Cluster) :
    t.delete operation cluster = t.follow cluster ((t.routeCondition operation).map
      fun (condition, driver) => t.deletePlan condition driver) := by
  unfold delete routeCondition
  cases requiredCondition operation with
  | error e => rfl
  | ok condition =>
    simp only
    cases t.router.routePredicate condition with
    | error e => rfl
    | ok driver =>
      have hone : (match t.checkAlive driver with
          | .error e => (.error e, cluster)
          | .ok () => (.ok (t.fanOut driver (.delete condition) cluster).1.summary,
            (t.fanOut driver (.delete condition) cluster).2)) =
          t.follow cluster (.ok (.driven [driver] driver (.delete condition) fun _ => [])) := by
        simp only [follow, Plan.checked, checkAllAlive_singleton, Plan.carryOut, propagate_nil]
      simp only [Except.map, deletePlan]
      cases t.router.layout.kind with
      | none => exact hone
      | horizontal => exact hone
      | vertical =>
        simp only [follow, Plan.checked]
        cases t.checkAllAlive t.router.partitions <;> rfl

/-- **A write is its plan.** -/
theorem write_eq_plan (t : ReplicatedTable) (operation : Operation) (cluster : Cluster) :
    t.write operation cluster = t.follow cluster (t.plan? operation) := by
  unfold write plan?
  cases operation.kind with
  | insert => exact insert_eq_plan t operation cluster
  | update => exact update_eq_plan t operation cluster
  | delete => exact delete_eq_plan t operation cluster
  | select => rfl

/-! ## Plans fit -/

/-- Replicas of checked partitions are alive. -/
theorem alive_of_checkAllAlive {partitions : List Nat} (h : t.checkAllAlive partitions = .ok ())
    {partition : Nat} (hmem : partition ∈ partitions) :
    ∀ replica ∈ t.replicas partition, replica.alive = true := by
  induction partitions with
  | nil => simp at hmem
  | cons first rest ih =>
    simp only [checkAllAlive] at h
    cases hfirst : t.checkAlive first with
    | error e => simp [hfirst] at h
    | ok _ =>
      simp only [hfirst] at h
      rcases List.mem_cons.1 hmem with rfl | hmem
      · unfold checkAlive at hfirst
        split at hfirst
        · next hnone => simpa [List.find?_eq_none] using hnone
        · simp at hfirst
      · exact ih h hmem

theorem map_partition_ofFields (router : Router) (columns values : List String)
    (partitions : List Nat) :
    (partitions.map fun partition => ColumnSlice.ofFields partition
      (router.fieldsOf columns values partition)).map ColumnSlice.partition = partitions := by
  rw [List.map_map]
  exact List.map_id _

/-- An insertion adds to every partition once at most. -/
theorem nodup_routeInsert {columns values : List String} {slices : List ColumnSlice}
    (h : t.router.routeInsert columns values = .ok slices) :
    (slices.map ColumnSlice.partition).Nodup := by
  unfold Router.routeInsert at h
  split at h
  · obtain rfl : _ = slices := by simpa using h
    simp
  · split at h
    · simp at h
    · next key _ =>
      cases hkey : t.router.partitionForKey key with
      | error e => simp [hkey, Except.map] at h
      | ok partition =>
        obtain rfl : _ = slices := by simpa [hkey, Except.map] using h
        simp
  · rw [Router.slices_ok h, map_partition_ofFields]
    exact List.nodup_range

theorem fits_insertPlan {plan : Plan} (h : t.insertPlan operation = .ok plan) : plan.Fits := by
  unfold insertPlan at h
  cases hslices : t.router.routeInsert operation.columns operation.values with
  | error e => simp [hslices, Except.map] at h
  | ok slices =>
    obtain rfl : _ = plan := by simpa [hslices, Except.map] using h
    have hnodup := nodup_routeInsert hslices
    simpa [Plan.Fits, Function.comp_def] using hnodup

/-- The partition of a condition is one of the table's. -/
theorem mem_partitions_of_routePredicate (ht : t.Deployed) {condition : Predicate} {driver : Nat}
    (h : t.router.routePredicate condition = .ok driver) : driver ∈ t.router.partitions := by
  have hpos : 0 < t.router.partitionCount := Layout.partitionCount_pos ht.layout
  rw [Router.partitions, List.mem_range]
  unfold Router.routePredicate at h
  split at h
  · obtain rfl : 0 = driver := by simpa using h
    exact hpos
  · exact Router.lt_of_partitionForKey hpos h
  · next hkind =>
    obtain ⟨-, columns, groups, -, hgroups, hlength, -⟩ :=
      Layout.check_vertical ht.layout hkind
    unfold Router.partitionOfColumn at h
    cases hgroup : t.router.groupOf? condition.column with
    | none => simp [hgroup] at h
    | some group =>
      obtain rfl : group = driver := by simpa [hgroup] using h
      obtain ⟨names, hnames, -⟩ := Router.mem_of_groupOf? hgroups hgroup
      have hlt := (List.getElem?_eq_some_iff.1 hnames).1
      rwa [hlength] at hlt

theorem fits_single (driver : Nat) (call : NodeCall .positions) :
    (Plan.driven [driver] driver call fun _ => []).Fits :=
  ⟨List.mem_singleton.2 rfl, fun _ => ⟨List.nodup_nil, by simp, rfl⟩⟩

theorem fits_updatePlan (ht : t.Deployed) {condition : Predicate} {driver : Nat} {plan : Plan}
    (hdriver : t.router.routePredicate condition = .ok driver)
    (h : t.updatePlan operation condition driver = .ok plan) : plan.Fits := by
  unfold updatePlan at h
  split at h
  · next hkind =>
    cases hslices : t.router.splitAssignments operation.columns operation.values with
    | error e => simp [hslices, Except.map] at h
    | ok slices =>
      obtain rfl : _ = plan := by simpa [hslices, Except.map] using h
      have hsub : (slices.map ColumnSlice.partition).Sublist t.router.partitions := by
        rw [Router.splitAssignments_ok hslices]
        have := (List.filter_sublist (p := fun part : ColumnSlice => part.columns ≠ [])
          (l := t.router.partitions.map fun partition => ColumnSlice.ofFields partition
            (t.router.fieldsOf operation.columns operation.values partition))).map
              ColumnSlice.partition
        rwa [map_partition_ofFields] at this
      refine ⟨?_, fun positions => ?_⟩
      · simpa [updateTargets] using mem_partitions_of_routePredicate ht hdriver
      · simp only [List.map_map, Function.comp_def]
        refine ⟨(hsub.nodup List.nodup_range).sublist (List.filter_sublist.map _), ?_, trivial⟩
        intro partition hpartition
        obtain ⟨slice, hslice, rfl⟩ := List.mem_map.1 hpartition
        obtain ⟨hslice, hne⟩ := List.mem_filter.1 hslice
        have hmem := List.mem_map_of_mem (f := ColumnSlice.partition) hslice
        exact ⟨List.mem_filter.2 ⟨hsub.subset hmem, by simp [hmem]⟩, by simpa using hne⟩
  all_goals
    obtain rfl : _ = plan := by simpa using h
    exact fits_single driver _

theorem fits_deletePlan (ht : t.Deployed) {condition : Predicate} {driver : Nat}
    (hdriver : t.router.routePredicate condition = .ok driver) :
    (t.deletePlan condition driver).Fits := by
  unfold deletePlan
  split
  · next hkind =>
    refine ⟨mem_partitions_of_routePredicate ht hdriver, fun positions => ?_⟩
    simp only [List.map_map, Function.comp_def, List.map_id']
    refine ⟨List.nodup_range.sublist List.filter_sublist, fun partition hpartition => ?_, trivial⟩
    obtain ⟨hmem, hne⟩ := List.mem_filter.1 hpartition
    exact ⟨hmem, by simpa using hne⟩
  · exact fits_single driver _

theorem routeCondition_ok {condition : Predicate} {driver : Nat}
    (h : t.routeCondition operation = .ok (condition, driver)) :
    operation.condition = some condition ∧ t.router.routePredicate condition = .ok driver := by
  unfold routeCondition requiredCondition at h
  cases hcondition : operation.condition with
  | none => simp [hcondition] at h
  | some found =>
    simp only [hcondition] at h
    cases hdriver : t.router.routePredicate found with
    | error e => simp [hdriver, Except.map] at h
    | ok other =>
      obtain ⟨rfl, rfl⟩ : found = condition ∧ other = driver := by
        simpa [hdriver, Except.map] using h
      exact ⟨rfl, hdriver⟩

/-- **The plan of every write fits.** -/
theorem fits_plan? (ht : t.Deployed) {plan : Plan} (h : t.plan? operation = .ok plan) :
    plan.Fits := by
  unfold plan? at h
  split at h
  · exact fits_insertPlan h
  · split at h
    · simp at h
    · next condition driver hroute => exact fits_updatePlan ht (routeCondition_ok hroute).2 h
  · cases hroute : t.routeCondition operation with
    | error e => simp [hroute, Except.map] at h
    | ok routed =>
      obtain rfl : _ = plan := by simpa [hroute, Except.map] using h
      exact fits_deletePlan ht (routeCondition_ok hroute).2
  · obtain rfl : _ = plan := by simpa using h
    exact List.nodup_nil

end ReplicatedTable

end TableStore
