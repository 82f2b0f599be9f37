import TableStore.Proofs.Convergence
import TableStore.Proofs.Summaries
import TableStore.Proofs.WorkingStores

/-!
# Healthy tables

A table is healthy as long as none of its replicas is stopped and no action on files fails.  Every
write on a healthy table should be carried out by all replicas that it calls.  What can stand in
the way is the name of the temporary file for a rewrite, which is longer than the name of the
replica's file by 42 bytes (`RecordStore.utf8ByteSize_scratchName`).  The creation of a table does
not look at the length of its name.

* `HasRoom` says that the name of the temporary file is not too long and its path is free.  Then
  the store works, whatever is done with it later (`LivesIn.works`).
* `Healthy` is the invariant, and `Healthy.act` the step.
* `healthy_writes` is the result: with room for temporary files, all writes are complete.
* `writes_can_be_incomplete` is a table without room.  It is created and takes insertions, but
  fails to carry out updates.
-/

namespace TableStore

open FileSystem (Walkable)

/-! ## Room for temporary files -/

namespace StorageNode

variable {node : StorageNode} {files : FileSystem} {dir : Path}

/-- There is room for a temporary file: its name is not too long, and neither is its path, under
which there is no directory. -/
structure HasRoom (node : StorageNode) (files : FileSystem) : Prop where
  name : node.id.fileName.utf8ByteSize + 42 ≤ FileSystem.maxNameBytes
  path : Walkable (node.store.scratchPath files.scratch)
  free : files.isDirectory (node.store.scratchPath files.scratch) = false

instance (path : Path) : Decidable (Walkable path) :=
  inferInstanceAs (Decidable (_ ∧ _ ∧ ¬ (_ ∨ _)))

instance (node : StorageNode) (files : FileSystem) : Decidable (node.HasRoom files) :=
  decidable_of_iff (node.id.fileName.utf8ByteSize + 42 ≤ FileSystem.maxNameBytes ∧
      Walkable (node.store.scratchPath files.scratch) ∧
      files.isDirectory (node.store.scratchPath files.scratch) = false)
    ⟨fun ⟨hname, hpath, hfree⟩ => ⟨hname, hpath, hfree⟩,
      fun ⟨hname, hpath, hfree⟩ => ⟨hname, hpath, hfree⟩⟩

/-- Where there is room, the node's store works. -/
theorem LivesIn.works (hnode : node.LivesIn dir) (hfaultless : files.faults = []) {text : String}
    (hheld : files.Holds node.store.path text) (hroom : node.HasRoom files) :
    node.store.Works files := by
  have hisName := ReplicaId.isName_fileName node.id
  refine ⟨hfaultless, (FileSystem.openForWriting_isOk_iff hfaultless .create).2 ?_⟩
  obtain ⟨place, hwalk⟩ : ∃ place, files.walk (FileSystem.start dir) dir = .ok place := by
    obtain ⟨_, _, hlocate, -, -⟩ := hheld
    rw [hnode.path] at hlocate
    exact (FileSystem.made_of_locate hisName hlocate).walk
  have hlocate := (FileSystem.liesIn_scratchPath hnode.path hisName files.scratch).locate hwalk
    hroom.path
  refine ⟨place, _, hlocate, ?_, fun hdirectory => ?_⟩
  · rw [RecordStore.utf8ByteSize_scratchName]
    exact hroom.name
  · have hshort := hroom.name
    rw [← RecordStore.utf8ByteSize_scratchName files.scratch] at hshort
    have hfree := hroom.free
    rw [FileSystem.HasDirectory] at hdirectory
    simp [FileSystem.isDirectory, FileSystem.find, hlocate, FileSystem.lookUp, Location.place,
      hdirectory, Nat.not_lt.2 hshort] at hfree

end StorageNode

namespace ReplicatedTable

variable {t : ReplicatedTable} {dir : Path} {cluster cluster' : Cluster}

/-- A write leaves everything where it is but what lies under some names. -/
theorem confined_write (ht : t.Deployed) (hdirect : t.Direct dir cluster.registry)
    (operation : Operation) : ∃ names, FileSystem.Confined names cluster.files
      (t.write operation cluster).2.files := by
  rcases write_cases t operation cluster with ⟨e, hwrite⟩ | ⟨plan, hplan, -, hwrite⟩
  · rw [hwrite]
    exact ⟨[], .refl _ _⟩
  · have hdistinct := nodup_flatMap_idsOf ht
      ((fits_plan? ht hplan).nodup_called (plan.reported t cluster))
    rw [← map_id_tasks] at hdistinct
    obtain ⟨-, haside, -⟩ := makeCalls_spec (hdirect.fit ht) hdistinct cluster.files
    rw [← Plan.carryOut_eq_makeCalls ht hdirect plan] at haside
    rw [hwrite]
    exact ⟨_, haside.confined⟩

/-- A table with a single replica is created with one store, whose path ends with the name of the
replica's file. -/
theorem create_single {table : TableDef} (hname : table.hasValidName = true)
    {settings : ReplicationSettings} (hinterval : settings.heartbeatInterval ≠ 0)
    (cluster : Cluster) :
    create table 1 .single settings cluster =
      match cluster.files.createDirectories settings.dataDir with
      | (.error cause, files) => (.error (.io cause), { cluster with files })
      | (.ok (), files) =>
        match RecordStore.create (settings.dataDir.join [(ReplicaId.ofTable table 0 0).fileName])
            table.columns files with
        | (.error e, files) => (.error (.ofStore e), { cluster with files })
        | (.ok store, files) =>
          let node : StorageNode := ⟨.ofTable table 0 0, store⟩
          let cluster : Cluster := ⟨cluster.registry.register node, files⟩
          (.ok ((ofNodes table ⟨.single⟩ [node]).beat cluster), cluster) := by
  have hpath := ReplicaId.ofText_fileName (ReplicaId.isValid_of_hasValidName hname 0 0)
  have hcheck : checkCreation table 1 settings = .ok () := by
    simp [checkCreation, hname, hinterval]
  have hrouter : Router.create .single table = .ok ⟨.single⟩ := rfl
  have hids : (⟨.single⟩ : Router).partitions.flatMap (replicaIds table 1) =
      [ReplicaId.ofTable table 0 0] := rfl
  have hcolumns (partition : Nat) : storeColumns table ⟨.single⟩ partition = table.columns := rfl
  simp only [create, hcheck, hrouter, hids, hcolumns, createNodes, StorageNode.create, hpath]
  cases cluster.files.createDirectories settings.dataDir with
  | mk reply files =>
    cases reply with
    | error cause => rfl
    | ok =>
      simp only
      cases RecordStore.create (settings.dataDir.join [(ReplicaId.ofTable table 0 0).fileName])
          table.columns files with
      | mk reply files => cases reply <;> rfl

end ReplicatedTable

namespace LiveTable

variable {live : LiveTable} {count : Nat} {dir : Path}

/-! ## The invariant -/

/-- All replicas are registered and taken for alive, and their stores work and have their
headers. -/
structure Healthy (count : Nat) (dir : Path) (live : LiveTable) : Prop where
  managed : live.Managed count dir
  untroubled : live.Untroubled
  headed : ∀ partition, ∀ node ∈ live.table.nodes partition, ∃ text,
    live.cluster.files.Holds node.store.path text ∧ node.store.Headed text
  works : ∀ partition, ∀ node ∈ live.table.nodes partition, node.store.Works live.cluster.files

/-- No call on a healthy table fails. -/
theorem Healthy.not_fails (h : live.Healthy count dir) {calls : List (Nat × AnyCall)}
    {task : Task} (htask : task ∈ live.table.tasks calls) : ¬ task.Fails live.cluster := by
  obtain ⟨call, -, hnode, -⟩ := ReplicatedTable.mem_tasks.1 htask
  rintro (hnone | ⟨e, he⟩)
  · have hreached := h.untroubled.reached call.1 task.node hnode
    rw [Task.id] at hnone
    simp [Registry.reaches, hnone] at hreached
  · obtain ⟨text, hheld, hheaded⟩ := h.headed call.1 task.node hnode
    obtain ⟨value, text', hperform⟩ := RecordStore.perform_isSome hheaded task.call.2
    obtain ⟨files, hrun, -⟩ := RecordStore.run_of_works (h.works call.1 task.node hnode)
      (h.managed.deployed.paths call.1 task.node hnode) (ReplicaId.isName_fileName task.node.id)
      hheld hperform
    simp [hrun] at he

/-- A write on a healthy table that is not refused is complete. -/
theorem Healthy.isComplete (h : live.Healthy count dir) {operation : Operation}
    {summary : Summary} {cluster' : Cluster}
    (hwrite : live.table.write operation live.cluster = (.ok summary, cluster')) :
    summary.isComplete = true := by
  obtain ⟨plan, -, -, haccounts⟩ := ReplicatedTable.write_accounts h.managed.deployed
    h.managed.direct h.managed.ids hwrite
  have hnone : summary.failures = [] := by
    rw [List.eq_nil_iff_forall_not_mem]
    intro failure hfailure
    have hlisted : failure.replica ∈ summary.failures.map ReplicaFailure.replica :=
      List.mem_map_of_mem hfailure
    obtain ⟨task, htask, heq⟩ := List.mem_map.1 (haccounts.ordered.subset hlisted)
    exact h.not_fails htask ((haccounts.listed task htask).1 (heq ▸ hlisted))
  have hbalanced := haccounts.balanced
  rw [hnone, List.length_nil, Nat.add_zero] at hbalanced
  simpa [Summary.isComplete] using hbalanced

/-- A write keeps a table healthy. -/
theorem Healthy.write (h : live.Healthy count dir) (operation : Operation) :
    (live.act (.write operation)).Healthy count dir := by
  have ht := h.managed.deployed
  have hknown : live.table.KnownTo live.cluster.registry := fun partition node hnode =>
    (h.managed.direct.leads partition node hnode).registered
  have heffect := ReplicatedTable.write_effect ht operation hknown
  obtain ⟨names, hconfined⟩ := ReplicatedTable.confined_write ht h.managed.direct operation
  refine ⟨h.managed.act _, ⟨h.untroubled.alive, ?_⟩, ?_, ?_⟩ <;> intro partition node hnode
  · simp only [act, heffect.registry]
    exact h.untroubled.reached partition node hnode
  · have hwhole : live.cluster.files.WritesWhole := by
      simp [FileSystem.WritesWhole, (h.works partition node hnode).faultless]
    obtain ⟨text, hheld, hheaded⟩ := h.headed partition node hnode
    obtain ⟨text', hheld', hbecomes⟩ := heffect.becomes ht hnode hheld
      fun call _ _ => NodeCall.not_tears_of_writesWhole call.2 node.store hwhole
    refine ⟨text', hheld', hbecomes.invariant (fun call _ text text' hheaded hmakes => ?_) hheaded⟩
    obtain ⟨value, hperform⟩ := hmakes
    exact hheaded.perform hperform
  · exact (h.works partition node hnode).of_confined hconfined

/-- What is not a write and stops no replica keeps a table healthy. -/
theorem Healthy.act_of_not_write (h : live.Healthy count dir) {action : Action}
    (hwrite : ∀ operation, action ≠ .write operation)
    (hstop : ∀ partition replica, action ≠ .stop partition replica) :
    (live.act action).Healthy count dir := by
  have ht := h.managed.deployed
  have hmanaged := h.managed.act action
  cases action with
  | write operation => exact absurd rfl (hwrite operation)
  | stop partition replica => exact absurd rfl (hstop partition replica)
  | select => exact h
  | start partition replica =>
    simp only [act] at hmanaged ⊢
    cases hstart : live.table.start partition replica live.cluster.registry with
    | error e => exact h
    | ok registry =>
      rw [hstart] at hmanaged
      obtain ⟨started, hstarted, rfl⟩ := ReplicatedTable.start_ok hstart
      refine ⟨hmanaged, ⟨h.untroubled.alive, ?_⟩, h.headed, h.works⟩
      intro other node hnode
      have hreached := h.untroubled.reached other node hnode
      simp only [withRegistry, Registry.reaches, Registry.get?_register] at hreached ⊢
      split
      · rfl
      · exact hreached
  | beat =>
    have hnodes := (sameTable_act live .beat).nodes
    refine ⟨hmanaged, ⟨?_, ?_⟩, ?_, ?_⟩
    · intro partition replica hreplica
      simp only [act, ReplicatedTable.replicas_beat] at hreplica
      obtain ⟨before, hbefore, rfl⟩ := List.mem_map.1 hreplica
      have hnode : before.node ∈ live.table.nodes partition := List.mem_map_of_mem hbefore
      have hdirect := (h.managed.direct.leads partition before.node hnode).direct
      exact (ReplicatedTable.alive_beat (ht.isValid hnode)).2
        ⟨hdirect.responds, h.untroubled.reached partition before.node hnode⟩
    all_goals
      intro partition node hnode
      rw [hnodes partition] at hnode
    · exact h.untroubled.reached partition node hnode
    · exact h.headed partition node hnode
    · exact h.works partition node hnode

/-- **The step.**  A write on a healthy table is complete if it is not refused, and whatever does
not stop a replica keeps a table healthy. -/
theorem Healthy.act (h : live.Healthy count dir) {action : Action}
    (hstop : ∀ partition replica, action ≠ .stop partition replica) :
    live.CompletesWrites action ∧ (live.act action).Healthy count dir := by
  by_cases hwrite : ∃ operation, action = .write operation
  · obtain ⟨operation, rfl⟩ := hwrite
    refine ⟨fun summary hsummary => ?_, h.write operation⟩
    cases houtcome : live.table.write operation live.cluster with
    | mk reply cluster =>
      cases reply with
      | error e => simp [summary?, houtcome, Except.toOption] at hsummary
      | ok found =>
        obtain rfl : found = summary := by
          simpa [summary?, houtcome, Except.toOption] using hsummary
        exact h.isComplete houtcome
  · have hnot : ∀ operation, action ≠ .write operation :=
      fun operation heq => hwrite ⟨operation, heq⟩
    refine ⟨fun summary hsummary => ?_, h.act_of_not_write hnot hstop⟩
    cases action with
    | write operation => exact absurd rfl (hnot operation)
    | _ => simp [summary?] at hsummary

/-- A write on a healthy table is not refused if it is routed. -/
theorem Healthy.isOk (h : live.Healthy count dir) {operation : Operation}
    (hroutes : live.table.Routes operation) : (live.reply operation).isOk = true := by
  rcases ReplicatedTable.write_refused h.managed.deployed hroutes live.cluster with
    ⟨hok, -⟩ | ⟨partition, replica, found, -, -, hfound, hdown, -⟩
  · exact hok
  · have halive := h.untroubled.alive partition found (List.mem_of_getElem? hfound)
    simp [hdown] at halive

/-- A new table is healthy if there is room for temporary files. -/
theorem healthy_created {c : Coordinator} {request : CreateRequest}
    (hdirect : c.cluster.registry.IsDirect) (hfaultless : c.cluster.files.faults = [])
    (hcreated : created c request = .ok live)
    (hroom : ∀ partition, ∀ node ∈ live.table.nodes partition, node.HasRoom live.cluster.files) :
    live.Healthy request.replicaCount c.settings.dataDir := by
  obtain ⟨-, hcreate⟩ := created_ok hcreated
  have hlaunched : launched request.table request.replicaCount request.layout c.settings
      c.cluster = .ok live := by rw [launched, hcreate]
  have hmanaged := managed_launched hdirect hlaunched
  have hnew := ReplicatedTable.create_ok hcreate
  have hspares := ReplicatedTable.spares_create request.table request.replicaCount request.layout
    c.settings c.cluster
  rw [hcreate] at hspares
  have hnow : live.cluster.files.faults = [] := hspares.faults.trans hfaultless
  refine ⟨hmanaged, ⟨fun partition replica hreplica => ?_, fun partition node hnode => ?_⟩,
    fun partition node hnode => ⟨_, hnew.keeps.holds partition node hnode, ?_⟩,
    fun partition node hnode => ?_⟩
  · exact (hnew.alive partition replica hreplica).2 (hspares.responds.2 hdirect.responds)
  · simp [Registry.reaches, hnew.registered partition node hnode]
  · have hcolumns := hnew.deployed.columns partition node hnode
    rw [ReplicatedTable.newText, hnew.deployed.partition_eq hnode, ← hcolumns]
    exact RecordStore.headed_initialText node.store
  · exact (hmanaged.direct.livesIn hnew.deployed hnode).works hnow
      (hnew.keeps.holds partition node hnode) (hroom partition node hnode)

/-- **A healthy table serves every write**, if there is room for temporary files.  Without faults
and without stops, every write that is not refused is carried out by all replicas that it calls,
and no write is refused that is routed. -/
theorem healthy_writes {c : Coordinator} {request : CreateRequest}
    (hdirect : c.cluster.registry.IsDirect) (hfaultless : c.cluster.files.faults = [])
    (hcreated : created c request = .ok live)
    (hroom : ∀ partition, ∀ node ∈ live.table.nodes partition, node.HasRoom live.cluster.files)
    {actions : List Action} (hstop : ∀ partition replica, .stop partition replica ∉ actions) :
    Throughout act CompletesWrites live actions ∧
      ∀ operation, (run act live actions).table.Routes operation →
        ((run act live actions).reply operation).isOk = true := by
  have hinit : live.Healthy request.replicaCount c.settings.dataDir :=
    healthy_created hdirect hfaultless hcreated hroom
  clear hcreated hroom
  induction actions generalizing live with
  | nil => exact ⟨trivial, fun operation hroutes => hinit.isOk hroutes⟩
  | cons action rest ih =>
    obtain ⟨hcomplete, hnext⟩ := hinit.act fun partition replica heq =>
      hstop partition replica (heq ▸ List.mem_cons_self)
    obtain ⟨hrest, hserved⟩ := ih
      (fun partition replica hmem => hstop partition replica (List.mem_cons_of_mem _ hmem)) hnext
    exact ⟨⟨hcomplete, hrest⟩, hserved⟩

/-- A row is inserted into a table. -/
def firstRow (table : TableDef) : Operation := .insertion table.name ["id", "name"] ["1", "Ida"]

/-- The row is changed. -/
def correction (table : TableDef) : Operation :=
  .assignment table.name ["name"] ["Ola"] ⟨"id", "1"⟩

/-- Two groups of columns with two replicas each. -/
def crews : CreateRequest :=
  ⟨⟨"crews", .sql, some ["id", "name"]⟩, 2, .byColumns [["id"], ["name"]]⟩

/-- A short name leaves room. -/
theorem healthy_writes_crews : ∃ live, created emptyCoordinator crews = .ok live ∧
    Throughout act CompletesWrites live
      [.write (firstRow crews.table), .write (correction crews.table)] ∧
    ∀ operation, (run act live [.write (firstRow crews.table),
        .write (correction crews.table)]).table.Routes operation →
      ((run act live [.write (firstRow crews.table),
        .write (correction crews.table)]).reply operation).isOk = true := by
  obtain ⟨live, hcreated, htwo, hroom⟩ := exists_of_test (created emptyCoordinator crews)
    (fun live => live.table.router.partitionCount = 2 ∧ ∀ partition ∈ List.range 2,
      ∀ node ∈ live.table.nodes partition, node.HasRoom live.cluster.files) (by decide +kernel)
  have ht := (ReplicatedTable.create_ok (created_ok hcreated).2).deployed
  have hall : ∀ partition, ∀ node ∈ live.table.nodes partition,
      node.HasRoom live.cluster.files := by
    intro partition node hnode
    exact hroom partition (List.mem_range.2 (htwo ▸ ht.lt_partitionCount hnode)) node hnode
  exact ⟨live, hcreated, healthy_writes (by trivial) (by decide) hcreated hall (by simp)⟩

/-- A table of one replica, with a name of 202 bytes. -/
def longNamed : CreateRequest :=
  ⟨⟨String.ofList (List.replicate 202 'a'), .sql, some ["id", "name"]⟩, 1, .single⟩

/-- A replica leaves out the second one of two writes, though it is called. -/
def leavesOut (first second : Operation) (live : LiveTable) : Bool :=
  ((live.act (.write first)).summary? (.write second)).any fun summary => !summary.isComplete

theorem exists_of_any (outcome : Except Error LiveTable) (test : LiveTable → Bool)
    (h : outcome.toOption.any test = true) : ∃ live, outcome = .ok live ∧ test live = true := by
  cases outcome with
  | error e => simp [Except.toOption] at h
  | ok live => exact ⟨live, rfl, h⟩

theorem hasValidName_longNamed : longNamed.table.hasValidName = true := by
  have hname : longNamed.table.name.toList = List.replicate 202 'a' := String.toList_ofList
  rw [TableDef.hasValidName, hname]
  decide

/-- The table is created, and its replica leaves out an update. -/
theorem created_leavesOut : (created emptyCoordinator longNamed).toOption.any
    (leavesOut (firstRow longNamed.table) (correction longNamed.table)) = true := by
  have hvalid : longNamed.table.validate = .ok () := by
    rw [TableDef.validate, hasValidName_longNamed]
    rfl
  have hvacant : emptyCoordinator.tables.contains longNamed.table.key = false := rfl
  have hcount : longNamed.replicaCount = 1 := rfl
  have hlayout : longNamed.layout = .single := rfl
  have hinterval : emptyCoordinator.settings.heartbeatInterval ≠ 0 := by decide
  have hcreate := ReplicatedTable.create_single hasValidName_longNamed hinterval
    emptyCoordinator.cluster
  -- Long texts are slow to take apart, so the name and the path are not left to computation.
  rw [created, Coordinator.create, hvalid, hvacant, hcount, hlayout, hcreate]
  decide +kernel

/-- **Writes can be incomplete on a healthy table**, if its name leaves no room.  The table with a
name of 202 bytes is accepted, and so are its writes, but its only replica cannot carry out the
update. -/
theorem writes_can_be_incomplete :
    ¬ ∀ (c : Coordinator) (request : CreateRequest) (live : LiveTable)
        (operations : List Operation),
      c.cluster.registry.IsDirect → c.cluster.files.faults = [] → created c request = .ok live →
      (∀ operation ∈ operations, operation.validate request.table = .ok ()) →
      Throughout act CompletesWrites live (operations.map .write) := by
  intro h
  -- The table is known by what `leavesOut` says of it: written out, it would be computed once more.
  obtain ⟨live, hcreated, htest⟩ := exists_of_any (created emptyCoordinator longNamed)
    (leavesOut (firstRow longNamed.table) (correction longNamed.table)) created_leavesOut
  have haccepted : ∀ operation ∈ [firstRow longNamed.table, correction longNamed.table],
      operation.validate longNamed.table = .ok () := by decide
  obtain ⟨-, hcomplete, -⟩ := h emptyCoordinator longNamed live
    [firstRow longNamed.table, correction longNamed.table] (by trivial) (by decide) hcreated
    haccepted
  obtain ⟨summary, hsummary, hmissed⟩ := (Option.any_eq_true _ _).1 htest
  rw [hcomplete summary hsummary] at hmissed
  simp at hmissed

end LiveTable

end TableStore
