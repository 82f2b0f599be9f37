import TableStore.Proofs.CallSequences
import TableStore.Proofs.SharedTables
import TableStore.Proofs.WriteGates

/-!
# Summaries tell what happened

Whatever has happened to a table and its files, the summary of a write accounts for every replica
that the write calls.

* `InCallOrder` says which partitions a write calls, and in which order.  Every plan keeps to it
  (`inCallOrder_of_plan?`).
* `Accounts` says what a summary tells: how many replicas were called, which ones failed and why
  they are listed, and what has become of the file of every replica.
* `InProcess` lists the states that a table whose nodes are called directly can be in.  Replicas
  may be stopped, and from outside files may be changed and actions on them made to fail.
* `summary_accounts` puts them together.  Every call comes to what it would come to alone
  (`makeCalls_spec`), so the summary can be read off the state before the write.

A store that is unable to carry out a call leaves its file as it was.  A disk can also fail after a
store has begun to add a row to its file.  Then the replica is listed as well, and its file contains
what was there and so much of the row as was written (`Task.begun?`).
-/

namespace TableStore

open FileSystem (Confined)

/-! ## The order of the calls -/

namespace ReplicatedTable

variable {t : ReplicatedTable} {operation : Operation}

/-- The partitions that a write calls, in the order of the calls.  An insertion calls the ones that
it concerns in ascending order.  An update or removal first calls the one that its condition is
looked up in, and then, if that one answers positions, the others in ascending order. -/
def InCallOrder (t : ReplicatedTable) (operation : Operation) (positions partitions : List Nat) :
    Prop :=
  match operation.kind with
  | .insert => partitions.Pairwise (· < ·) ∧
      ∀ partition, partition ∈ partitions ↔ t.Targets operation partition
  | .update | .delete => ∃ condition driver others, operation.condition = some condition ∧
      t.router.routePredicate condition = .ok driver ∧ partitions = driver :: others ∧
      others.Pairwise (· < ·) ∧ ∀ partition, partition ∈ others ↔
        positions ≠ [] ∧ partition ≠ driver ∧ t.Targets operation partition
  | .select => partitions = []

/-- Behind its driver, a plan calls the other partitions that it has checked, in ascending
order. -/
def Trails (driver : Nat) : Plan → Prop
  | .each _ => False
  | .driven checked first _ others => first = driver ∧ ∀ positions : List Nat,
      ((others positions).map Prod.fst).Pairwise (· < ·) ∧
        ∀ partition, partition ∈ (others positions).map Prod.fst ↔
          partition ∈ checked ∧ partition ≠ driver

theorem trails_single (driver : Nat) (call : NodeCall .positions) :
    Trails driver (.driven [driver] driver call fun _ => []) := by
  refine ⟨rfl, fun positions => ⟨List.Pairwise.nil, fun partition => ?_⟩⟩
  simp

theorem trails_updatePlan {condition : Predicate} {driver : Nat} {plan : Plan}
    (h : t.updatePlan operation condition driver = .ok plan) : Trails driver plan := by
  unfold updatePlan at h
  split at h
  · cases hslices : t.router.splitAssignments operation.columns operation.values with
    | error e => simp [hslices, Except.map] at h
    | ok slices =>
      obtain rfl : _ = plan := by simpa [hslices, Except.map] using h
      have hsub : (slices.map ColumnSlice.partition).Sublist t.router.partitions := by
        rw [Router.splitAssignments_ok hslices]
        have hfilter := (List.filter_sublist (p := fun part : ColumnSlice => part.columns ≠ [])
          (l := t.router.partitions.map fun partition => ColumnSlice.ofFields partition
            (t.router.fieldsOf operation.columns operation.values partition))).map
              ColumnSlice.partition
        rwa [map_partition_ofFields] at hfilter
      refine ⟨rfl, fun positions => ?_⟩
      simp only [List.map_map, Function.comp_def]
      refine ⟨((sorted_partitions _).sublist hsub).sublist (List.filter_sublist.map _), ?_⟩
      intro partition
      simp only [List.mem_map, List.mem_filter, updateTargets, decide_eq_true_eq,
        Bool.not_eq_eq_eq_not, Bool.not_true, decide_eq_false_iff_not]
      constructor
      · rintro ⟨slice, ⟨hslice, hne⟩, rfl⟩
        have hmem : slice.partition ∈ slices.map ColumnSlice.partition :=
          List.mem_map_of_mem hslice
        exact ⟨⟨hsub.subset hmem, Or.inr ⟨slice, hslice, rfl⟩⟩, hne⟩
      · rintro ⟨⟨-, hown | ⟨slice, hslice, rfl⟩⟩, hne⟩
        · exact absurd hown hne
        · exact ⟨slice, ⟨hslice, hne⟩, rfl⟩
  all_goals
    obtain rfl : _ = plan := by simpa using h
    exact trails_single driver _

theorem trails_deletePlan (t : ReplicatedTable) (condition : Predicate) (driver : Nat) :
    Trails driver (t.deletePlan condition driver) := by
  unfold deletePlan
  split
  · refine ⟨rfl, fun positions => ?_⟩
    simp only [List.map_map, Function.comp_def, List.map_id']
    exact ⟨(sorted_partitions _).sublist List.filter_sublist, fun partition => by simp⟩
  · exact trails_single driver _

/-- The plan of an update or removal. -/
theorem trails_plan? {plan : Plan} (hkind : operation.kind = .update ∨ operation.kind = .delete)
    (h : t.plan? operation = .ok plan) : ∃ condition driver,
      operation.condition = some condition ∧ t.router.routePredicate condition = .ok driver ∧
        Trails driver plan := by
  unfold plan? at h
  rcases hkind with hkind | hkind <;> simp only [hkind] at h
  · split at h
    · simp at h
    · next condition driver hroute =>
      obtain ⟨hcondition, hdriver⟩ := routeCondition_ok hroute
      exact ⟨condition, driver, hcondition, hdriver, trails_updatePlan h⟩
  · cases hroute : t.routeCondition operation with
    | error e => simp [hroute, Except.map] at h
    | ok routed =>
      obtain rfl : _ = plan := by simpa [hroute, Except.map] using h
      obtain ⟨hcondition, hdriver⟩ := routeCondition_ok hroute
      exact ⟨routed.1, routed.2, hcondition, hdriver, trails_deletePlan t routed.1 routed.2⟩

/-- **Every plan calls partitions in their order.** -/
theorem inCallOrder_of_plan? (ht : t.Deployed) {plan : Plan} (h : t.plan? operation = .ok plan)
    (positions : List Nat) :
    t.InCallOrder operation positions ((plan.called positions).map Prod.fst) := by
  have hchecks : operation.kind ≠ .select → t.Checks operation plan := by
    intro hkind
    obtain ⟨found, hfound, hchecks⟩ := checks_plan? ht (routes_of_plan? hkind h)
    rw [h] at hfound
    exact Except.ok.inj hfound ▸ hchecks
  have hdriven : operation.kind = .update ∨ operation.kind = .delete →
      ∃ condition driver others, operation.condition = some condition ∧
        t.router.routePredicate condition = .ok driver ∧
        (plan.called positions).map Prod.fst = driver :: others ∧ others.Pairwise (· < ·) ∧
        ∀ partition, partition ∈ others ↔
          positions ≠ [] ∧ partition ≠ driver ∧ t.Targets operation partition := by
    intro hkind
    have hmem := (hchecks (by rcases hkind with hkind | hkind <;> simp [hkind])).mem_iff
    obtain ⟨condition, driver, hcondition, hdriver, htrails⟩ := trails_plan? hkind h
    cases plan with
    | each calls => exact htrails.elim
    | driven checked first call others =>
      obtain ⟨rfl, htrails⟩ := htrails
      obtain ⟨hsorted, hothers⟩ := htrails positions
      refine ⟨condition, first, _, hcondition, hdriver, rfl, ?_, fun partition => ?_⟩
      · split
        · exact List.Pairwise.nil
        · rw [map_fst_anyCalls]
          exact hsorted
      · rw [← hmem partition]
        split
        · next hnil => simp [hnil]
        · next hpositions =>
          rw [map_fst_anyCalls, hothers partition]
          simp only [Plan.checked]
          exact ⟨fun hboth => ⟨hpositions, hboth.2, hboth.1⟩, fun hall => ⟨hall.2.2, hall.2.1⟩⟩
  unfold InCallOrder
  split
  · next hkind =>
    have hchecks := hchecks (by simp [hkind])
    unfold plan? at h
    simp only [hkind] at h
    unfold insertPlan at h
    cases hslices : t.router.routeInsert operation.columns operation.values with
    | error e => simp [hslices, Except.map] at h
    | ok slices =>
      obtain rfl : _ = plan := by simpa [hslices, Except.map] using h
      rw [Plan.called, map_fst_anyCalls]
      exact ⟨hchecks.sorted, hchecks.mem_iff⟩
  · next hkind => exact hdriven (Or.inl hkind)
  · next hkind => exact hdriven (Or.inr hkind)
  · next hkind =>
    unfold plan? at h
    simp only [hkind] at h
    obtain rfl : _ = plan := by simpa using h
    rfl

end ReplicatedTable

/-! ## What a summary accounts for -/

namespace Task

/-- No node is registered for the replica, or its store cannot carry out the call. -/
def Fails (cluster : Cluster) (task : Task) : Prop :=
  cluster.registry.get? task.id = none ∨
    ∃ e, (task.node.run task.call.2 cluster.files).1 = .error e

variable {dir : Path} {cluster : Cluster} {task : Task}

/-- What the replica's file contains after a call that has begun to write a row and fails. -/
def begun? (cluster : Cluster) (task : Task) : Option ByteArray :=
  if cluster.registry.reaches task.id = true then task.call.2.begun? task.node.store cluster.files
  else none

/-- A call that fails has an error.  It leaves the replica's file, unless it had begun to write a
row. -/
theorem Fit.find_of_fails (hfit : task.Fit dir cluster.registry) (h : task.Fails cluster) :
    (task.error? cluster).isSome = true ∧ (task.begun? cluster = none →
      (task.alone cluster).2.find task.node.store.path =
        cluster.files.find task.node.store.path) := by
  rcases hfit.leads.call_cases task.call.2 with ⟨-, hcall⟩ | ⟨hsome, hcall⟩
  · rw [error?, alone, id, hcall]
    exact ⟨rfl, fun _ => rfl⟩
  · rcases h with hnone | ⟨e, he⟩
    · rw [id, hsome] at hnone
      simp at hnone
    · rw [error?, alone, id, hcall, StorageNode.answer_eq, he]
      refine ⟨rfl, fun hbegun => hfit.livesIn.find_run_of_error ?_ (Prod.ext he rfl)⟩
      rwa [begun?, Registry.reaches, id, hsome, Option.isSome_some, if_pos rfl] at hbegun

/-- A call that has begun to write a row, and has a content to show for it, fails and leaves that
content. -/
theorem Fit.find_of_begun (hfit : task.Fit dir cluster.registry) {content : ByteArray}
    (h : task.begun? cluster = some content) : task.Fails cluster ∧
      (task.alone cluster).2.find task.node.store.path = .ok (some (.file content)) := by
  unfold begun? at h
  split at h
  · next hreached =>
    obtain ⟨herror, hfile⟩ := StorageNode.run_of_begun h
    rcases hfit.leads.call_cases task.call.2 with ⟨hnone, -⟩ | ⟨-, hcall⟩
    · simp [Registry.reaches, id, hnone] at hreached
    · rw [alone, id, hcall, StorageNode.answer_eq]
      exact ⟨Or.inr herror, hfile⟩
  · simp at h

/-- A call that does not fail is carried out by the replica's node. -/
theorem Fit.run_of_not_fails (hfit : task.Fit dir cluster.registry) (h : ¬ task.Fails cluster) :
    task.error? cluster = none ∧ (task.alone cluster).2 =
      (task.node.run task.call.2 cluster.files).2 := by
  obtain ⟨hregistered, hok⟩ := not_or.1 h
  rcases hfit.leads.call_cases task.call.2 with ⟨hnone, -⟩ | ⟨-, hcall⟩
  · exact absurd hnone hregistered
  · cases hreply : (task.node.run task.call.2 cluster.files).1 with
    | error e => exact absurd ⟨e, hreply⟩ hok
    | ok value =>
      rw [error?, alone, id, hcall, StorageNode.answer_eq, hreply]
      exact ⟨rfl, rfl⟩

/-- Exactly the calls that fail have an error. -/
theorem Fit.isSome_error?_iff (hfit : task.Fit dir cluster.registry) :
    (task.error? cluster).isSome = true ↔ task.Fails cluster := by
  constructor
  · intro herror
    by_contra h
    rw [(hfit.run_of_not_fails h).1] at herror
    simp at herror
  · intro h
    exact (hfit.find_of_fails h).1

/-- A call that does not fail makes of the text of the replica's file what it performs on texts. -/
theorem Fit.perform_of_not_fails (hfit : task.Fit dir cluster.registry)
    (h : ¬ task.Fails cluster) (hintact : cluster.files.Intact) {text : String}
    (hfind : cluster.files.find task.node.store.path = .ok (some (.file text.toUTF8))) :
    ∃ value text', task.call.2.perform task.node.store text = some (value, text') ∧
      (task.alone cluster).2.find task.node.store.path = .ok (some (.file text'.toUTF8)) := by
  have hisName := ReplicaId.isName_fileName task.node.id
  have hheld := FileSystem.contains_of_find hfind
  cases hreply : (task.node.run task.call.2 cluster.files).1 with
  | error e => exact absurd (Or.inr ⟨e, hreply⟩) h
  | ok value =>
    obtain ⟨text', hperform, hheld'⟩ := RecordStore.run_ok_of_holds hfit.livesIn.getLast? hisName
      hheld hintact (Prod.ext hreply rfl)
    refine ⟨value, text', hperform, ?_⟩
    rw [(hfit.run_of_not_fails h).2]
    exact hheld'.find

end Task

/-- What the summary of a write tells, where the write has made `calls` on partitions with `count`
replicas each. -/
structure Accounts (t : ReplicatedTable) (count : Nat) (calls : List (Nat × AnyCall))
    (cluster : Cluster) (summary : Summary) (cluster' : Cluster) : Prop where
  /-- The replicas of a partition are called in the order of their numbers. -/
  replicas : ∀ partition ∈ calls.map Prod.fst,
    t.idsOf partition = ReplicatedTable.replicaIds t.table count partition
  total : summary.total = count * calls.length
  balanced : summary.succeeded + summary.failures.length = summary.total
  /-- Failures are listed in the order of the calls. -/
  ordered : (summary.failures.map ReplicaFailure.replica).Sublist
    ((t.tasks calls).map fun task => task.id.text)
  distinct : (summary.failures.map ReplicaFailure.replica).Nodup
  listed : ∀ task ∈ t.tasks calls,
    task.id.text ∈ summary.failures.map ReplicaFailure.replica ↔ task.Fails cluster
  /-- A call that fails without having begun to write a row leaves its replica's file. -/
  unchanged : ∀ task ∈ t.tasks calls, task.Fails cluster → task.begun? cluster = none →
    cluster'.files.find task.node.store.path = cluster.files.find task.node.store.path
  /-- A call that has begun to write a row and fails leaves what it has written. -/
  begun : ∀ task ∈ t.tasks calls, ∀ content, task.begun? cluster = some content →
    task.Fails cluster ∧
      cluster'.files.find task.node.store.path = .ok (some (.file content))
  /-- The file of every other replica is what its node makes of it. -/
  applied : ∀ task ∈ t.tasks calls, ¬ task.Fails cluster →
    cluster'.files.find task.node.store.path =
      (task.node.run task.call.2 cluster.files).2.find task.node.store.path
  /-- A file that held a text holds the text that the call makes of it. -/
  performed : ∀ task ∈ t.tasks calls, ¬ task.Fails cluster → cluster.files.Intact → ∀ text,
    cluster.files.find task.node.store.path = .ok (some (.file text.toUTF8)) →
      ∃ value text', task.call.2.perform task.node.store text = some (value, text') ∧
        cluster'.files.find task.node.store.path = .ok (some (.file text'.toUTF8))
  untouched : ∀ partition ∉ calls.map Prod.fst, ∀ node ∈ t.nodes partition,
    cluster'.files.find node.store.path = cluster.files.find node.store.path
  registry : cluster'.registry = cluster.registry

/-- The texts of replicas in a summary of calls, each made alone. -/
theorem replicas_summaryAlone (cluster : Cluster) (tasks : List Task) :
    (summaryAlone cluster tasks).failures.map ReplicaFailure.replica =
      (tasks.filter fun task => (task.error? cluster).isSome).map fun task => task.id.text := by
  induction tasks with
  | nil => rfl
  | cons task rest ih =>
    simp only [summaryAlone] at ih ⊢
    rw [List.filterMap_cons, List.filter_cons]
    cases task.error? cluster with
    | none => exact ih
    | some e => exact congrArg (task.id.text :: ·) ih

/-- Among calls on different replicas, such a summary lists those that have an error. -/
theorem mem_replicas_summaryAlone {cluster : Cluster} {tasks : List Task}
    (hdistinct : (tasks.map fun task => task.id.text).Nodup) {task : Task} (htask : task ∈ tasks) :
    task.id.text ∈ (summaryAlone cluster tasks).failures.map ReplicaFailure.replica ↔
      (task.error? cluster).isSome = true := by
  rw [replicas_summaryAlone]
  constructor
  · intro hmem
    obtain ⟨other, hother, htext⟩ := List.mem_map.1 hmem
    obtain ⟨hother, herror⟩ := List.mem_filter.1 hother
    obtain rfl := List.inj_on_of_nodup_map hdistinct hother htask htext
    exact herror
  · intro herror
    exact List.mem_map.2 ⟨task, List.mem_filter.2 ⟨htask, herror⟩, rfl⟩

/-- Such a summary counts every call once. -/
theorem balanced_summaryAlone (cluster : Cluster) (tasks : List Task) :
    (summaryAlone cluster tasks).Balanced := by
  induction tasks with
  | nil => rfl
  | cons task rest ih =>
    rw [summaryAlone_cons]
    refine Summary.Balanced.merge ?_ ih
    cases (task.alone cluster).1 <;> rfl

namespace ReplicatedTable

variable {t : ReplicatedTable} {dir : Path} {count : Nat} {cluster : Cluster}

/-- There are as many tasks as replicas in the partitions that are called. -/
theorem length_tasks {calls : List (Nat × AnyCall)}
    (hids : ∀ partition ∈ calls.map Prod.fst,
      t.idsOf partition = replicaIds t.table count partition) :
    (t.tasks calls).length = count * calls.length := by
  induction calls with
  | nil => simp [tasks]
  | cons call rest ih =>
    obtain ⟨hfirst, hrest⟩ := List.forall_mem_cons.1 hids
    have hlength := congrArg List.length hfirst
    simp only [idsOf, replicaIds, List.length_map, List.length_range] at hlength
    rw [tasks_cons, List.length_append, List.length_map, hlength, ih hrest, List.length_cons,
      Nat.mul_succ, Nat.add_comm]

/-- A write that keeps to the order calls partitions of the table only. -/
theorem lt_of_inCallOrder (ht : t.Deployed) {operation : Operation}
    {positions partitions : List Nat} (h : t.InCallOrder operation positions partitions) :
    ∀ partition ∈ partitions, partition < t.router.partitionCount := by
  intro partition hpartition
  unfold InCallOrder at h
  split at h
  · exact lt_of_targets ht ((h.2 partition).1 hpartition)
  case h_2 | h_3 =>
    obtain ⟨condition, driver, others, -, hdriver, rfl, -, hothers⟩ := h
    rcases List.mem_cons.1 hpartition with rfl | hpartition
    · exact List.mem_range.1 (mem_partitions_of_routePredicate ht hdriver)
    · exact lt_of_targets ht ((hothers partition).1 hpartition).2.2
  · rw [h] at hpartition
    simp at hpartition

/-- **The summary of calls accounts for them.** -/
theorem accounts_of_makeCalls (ht : t.Deployed) (hdirect : t.Direct dir cluster.registry)
    {calls : List (Nat × AnyCall)} (hnodup : (calls.map Prod.fst).Nodup)
    (hids : ∀ partition ∈ calls.map Prod.fst,
      t.idsOf partition = replicaIds t.table count partition)
    {summary : Summary} {files : FileSystem}
    (h : makeCalls cluster.registry (t.tasks calls) cluster.files = (summary, files)) :
    Accounts t count calls cluster summary { cluster with files } := by
  have hfit : ∀ task ∈ t.tasks calls, task.Fit dir cluster.registry := hdirect.fit ht
  have hdistinct : ((t.tasks calls).map Task.id).Nodup := by
    rw [map_id_tasks]
    exact nodup_flatMap_idsOf ht hnodup
  obtain ⟨hsummary, haside, hfiles⟩ := makeCalls_spec hfit hdistinct cluster.files
  rw [h] at hsummary haside hfiles
  simp only at hsummary haside hfiles
  subst hsummary
  have htexts : ((t.tasks calls).map fun task => task.id.text).Nodup := by
    have hmap := hdistinct.map fun _ _ heq => ReplicaId.text_injective heq
    rwa [List.map_map] at hmap
  have hordered : ((summaryAlone cluster (t.tasks calls)).failures.map
      ReplicaFailure.replica).Sublist ((t.tasks calls).map fun task => task.id.text) := by
    rw [replicas_summaryAlone]
    exact List.filter_sublist.map _
  exact {
    replicas := hids
    total := length_tasks hids
    balanced := balanced_summaryAlone cluster (t.tasks calls)
    ordered := hordered
    distinct := htexts.sublist hordered
    listed task htask :=
      (mem_replicas_summaryAlone htexts htask).trans (hfit task htask).isSome_error?_iff
    unchanged task htask hfails hnone := by
      rw [hfiles task htask]
      exact ((hfit task htask).find_of_fails hfails).2 hnone
    begun task htask content hbegun := by
      rw [hfiles task htask]
      exact (hfit task htask).find_of_begun hbegun
    applied task htask hok := by
      rw [hfiles task htask, ((hfit task htask).run_of_not_fails hok).2]
    performed task htask hok hintact text hfind := by
      rw [hfiles task htask]
      exact (hfit task htask).perform_of_not_fails hok hintact hfind
    untouched partition hout node hnode := by
      refine haside.find (hdirect.livesIn ht hnode) fun hmem => ?_
      rw [map_id_tasks] at hmem
      obtain ⟨called, hcalled, hid⟩ := List.mem_flatMap.1 hmem
      have hpartition := (mem_idsOf ht hid).1
      rw [ht.partition_eq hnode] at hpartition
      exact hout (hpartition ▸ hcalled)
    registry := rfl }

/-- **The summary of a write accounts for its calls.** -/
theorem write_accounts (ht : t.Deployed) (hdirect : t.Direct dir cluster.registry)
    (hids : ∀ partition < t.router.partitionCount,
      t.idsOf partition = replicaIds t.table count partition)
    {operation : Operation} {summary : Summary} {cluster' : Cluster}
    (h : t.write operation cluster = (.ok summary, cluster')) :
    ∃ plan, t.plan? operation = .ok plan ∧
      t.InCallOrder operation (plan.reported t cluster)
        ((plan.called (plan.reported t cluster)).map Prod.fst) ∧
      Accounts t count (plan.called (plan.reported t cluster)) cluster summary cluster' := by
  have hregistry := registry_write t operation cluster
  rcases write_cases t operation cluster with ⟨e, hwrite⟩ | ⟨plan, hplan, -, hwrite⟩
  · simp [hwrite] at h
  · have horder := inCallOrder_of_plan? ht hplan (plan.reported t cluster)
    obtain ⟨rfl, rfl⟩ : (plan.carryOut t cluster).1 = summary ∧
        (plan.carryOut t cluster).2 = cluster' := by simpa [hwrite] using h
    rw [hwrite] at hregistry
    have haccounts := accounts_of_makeCalls ht hdirect ((fits_plan? ht hplan).nodup_called _)
      (fun partition hcalled => hids partition (lt_of_inCallOrder ht horder partition hcalled))
      (Plan.carryOut_eq_makeCalls ht hdirect plan).symm
    have hcluster : { cluster with files := (plan.carryOut t cluster).2.files } =
        (plan.carryOut t cluster).2 := by
      rw [← hregistry]
    rw [hcluster] at haccounts
    exact ⟨plan, hplan, horder, haccounts⟩

end ReplicatedTable

/-! ## All states of a table -/

namespace ReplicatedTable

variable {t : ReplicatedTable} {dir : Path} {registry registry' : Registry}

/-- A table's nodes are still called directly where the registry leads to no other ones. -/
theorem Direct.withRegistry (h : t.Direct dir registry) (hdirect : registry'.IsDirect)
    (hsame : ∀ partition, ∀ node ∈ t.nodes partition,
      registry'.get? node.id = none ∨ registry'.get? node.id = registry.get? node.id) :
    t.Direct dir registry' where
  path := h.path
  leads partition node hnode := by
    refine ⟨hdirect, ?_⟩
    rcases hsame partition node hnode with hnone | hkept
    · exact Or.inl hnone
    · rw [hkept]
      exact (h.leads partition node hnode).registered

theorem Direct.stop (h : t.Direct dir registry) {partition replica : Nat}
    (hstop : t.stop partition replica registry = .ok registry') : t.Direct dir registry' := by
  obtain ⟨stopped, hstopped, rfl⟩ := stop_ok hstop
  refine h.withRegistry ((h.leads partition stopped ?_).direct.unregister _) ?_
  · exact hstopped
  · intro other node hnode
    rw [Registry.get?_unregister]
    split
    · exact Or.inl rfl
    · exact Or.inr rfl

theorem Direct.start (ht : t.Deployed) (h : t.Direct dir registry) {partition replica : Nat}
    (hstart : t.start partition replica registry = .ok registry') : t.Direct dir registry' where
  path := h.path
  leads other node hnode := by
    obtain ⟨started, hstarted, rfl⟩ := start_ok hstart
    have hleads := h.leads other node hnode
    refine ⟨hleads.direct.register started, ?_⟩
    rw [Registry.get?_register]
    split
    · next hid => exact Or.inr (by rw [ht.node_inj hnode hstarted hid])
    · exact hleads.registered

end ReplicatedTable

namespace LiveTable

/-- The states of a table whose nodes are called directly.  It was created, and since then it has
been used, and files and the registrations of other tables have changed from outside.  Replicas of
the table may have been unregistered, and actions on files may fail. -/
inductive InProcess (table : TableDef) (count : Nat) (layout : Layout)
    (settings : ReplicationSettings) : LiveTable → Prop
  | created {nodes : KeyMap ReplicaId StorageNode} {files : FileSystem} {live : LiveTable}
      (hlaunched : launched table count layout settings ⟨.inProcess nodes, files⟩ = .ok live) :
      InProcess table count layout settings live
  | used {live : LiveTable} (h : InProcess table count layout settings live) (action : Action) :
      InProcess table count layout settings (live.act action)
  | changed {live : LiveTable} (h : InProcess table count layout settings live)
      (cluster : Cluster) (hdirect : cluster.registry.IsDirect)
      (hids : ∀ id ∈ live.table.ids, cluster.registry.get? id = none ∨
        cluster.registry.get? id = live.cluster.registry.get? id) :
      InProcess table count layout settings ⟨live.table, cluster⟩

/-- What is true of a table in all these states. -/
structure Managed (count : Nat) (dir : Path) (live : LiveTable) : Prop where
  deployed : live.table.Deployed
  direct : live.table.Direct dir live.cluster.registry
  ids : ∀ partition < live.table.router.partitionCount,
    live.table.idsOf partition = ReplicatedTable.replicaIds live.table.table count partition

variable {table : TableDef} {count : Nat} {layout : Layout} {settings : ReplicationSettings}
  {live : LiveTable} {dir : Path}

theorem managed_launched {registry : Registry} {files : FileSystem} (hdirect : registry.IsDirect)
    (h : launched table count layout settings ⟨registry, files⟩ = .ok live) :
    live.Managed count settings.dataDir := by
  have hcreate := launched_ok h
  have hcreated := ReplicatedTable.create_ok hcreate
  have hregistry : live.cluster.registry.IsDirect := by
    rcases ReplicatedTable.create_cases hcreate with
      ⟨e, hfalse, -⟩ | ⟨created, -, ⟨e, hfalse, -⟩ | ⟨t, -, -, heq⟩⟩
    · simp at hfalse
    · simp at hfalse
    · rw [heq]
      exact hdirect.registerAll created
  refine ⟨hcreated.deployed, ⟨ReplicatedTable.path_of_create hcreate, ?_⟩, fun partition hlt => ?_⟩
  · intro partition node hnode
    exact ⟨hregistry, Or.inr (hcreated.registered partition node hnode)⟩
  · rw [ReplicatedTable.idsOf, hcreated.ids, if_pos hlt]

theorem Managed.act (h : live.Managed count dir) (action : Action) :
    (live.act action).Managed count dir := by
  have hsame := sameTable_act live action
  refine ⟨deployed_act h.deployed action, ?_, fun partition hlt => ?_⟩
  · cases action with
    | write operation =>
      have hregistry := ReplicatedTable.registry_write live.table operation live.cluster
      simp only [LiveTable.act, hregistry]
      exact h.direct
    | select => exact h.direct
    | stop partition replica =>
      simp only [LiveTable.act]
      cases hstop : live.table.stop partition replica live.cluster.registry with
      | error e => exact h.direct
      | ok registry => exact h.direct.stop hstop
    | start partition replica =>
      simp only [LiveTable.act]
      cases hstart : live.table.start partition replica live.cluster.registry with
      | error e => exact h.direct
      | ok registry => exact h.direct.start h.deployed hstart
    | beat =>
      refine ⟨fun partition node hnode => ?_, fun partition node hnode => ?_⟩
      · rw [hsame.nodes partition] at hnode
        exact h.direct.path partition node hnode
      · rw [hsame.nodes partition] at hnode
        exact h.direct.leads partition node hnode
  · rw [hsame.router] at hlt
    rw [ReplicatedTable.idsOf, hsame.nodes, hsame.table]
    exact h.ids partition hlt

theorem Managed.change (h : live.Managed count dir) {cluster : Cluster}
    (hdirect : cluster.registry.IsDirect)
    (hids : ∀ id ∈ live.table.ids, cluster.registry.get? id = none ∨
      cluster.registry.get? id = live.cluster.registry.get? id) :
    Managed count dir ⟨live.table, cluster⟩ where
  deployed := h.deployed
  direct := h.direct.withRegistry hdirect fun partition node hnode =>
    hids node.id (ReplicatedTable.mem_ids.2 ⟨partition, List.mem_map_of_mem hnode⟩)
  ids := h.ids

theorem InProcess.managed (h : InProcess table count layout settings live) :
    live.Managed count settings.dataDir := by
  induction h with
  | @created nodes files live hlaunched =>
    have hdirect : Registry.IsDirect (.inProcess nodes) := trivial
    exact managed_launched hdirect hlaunched
  | used _ action ih => exact ih.act action
  | changed _ cluster hdirect hids ih => exact ih.change hdirect hids

end LiveTable

end TableStore
