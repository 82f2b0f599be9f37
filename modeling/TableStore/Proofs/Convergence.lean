import TableStore.Proofs.Runs

/-!
# Replicas of a partition agree

A write is refused while one of the replicas that it would reach is down, and a replica is down
from the first heartbeat round after its stop to the first one after its start.  So if every stop
is noticed before the next write, every write reaches all replicas of a partition or none, and
replicas that held the same text do so afterwards (`carried_agree`).  Nothing is asked of the
texts: they may hold separators and line ends.

`replicas_converge` is the result for whole runs.
-/

namespace TableStore

namespace NodeCall

/-- What a call makes of a text depends on the columns of the store and not on its path. -/
theorem perform_congr {kind : ReplyKind} (call : NodeCall kind) {store store' : RecordStore}
    (h : store.columns = store'.columns) (text : String) :
    call.perform store text = call.perform store' text := by
  obtain ⟨path, columns⟩ := store
  obtain ⟨path', columns'⟩ := store'
  obtain rfl : columns = columns' := h
  cases call <;> rfl

end NodeCall

namespace ReplicatedTable

variable {t : ReplicatedTable} {held held' : ReplicaId → String}

/-- The replicas of every partition hold the same text. -/
def Agree (t : ReplicatedTable) (held : ReplicaId → String) : Prop :=
  ∀ partition, ∀ node ∈ t.nodes partition, ∀ node' ∈ t.nodes partition, held node.id = held node'.id

/-- The replicas of a new table agree. -/
theorem agree_newText (ht : t.Deployed) : t.Agree t.newText := by
  intro partition node hnode node' hnode'
  rw [newText, newText, ht.partition_eq hnode, ht.partition_eq hnode']

/-- A call does the same to replicas that agree. -/
theorem perform_of_agree (ht : t.Deployed) (hagree : t.Agree held) {partition : Nat}
    {node node' : StorageNode} (hnode : node ∈ t.nodes partition)
    (hnode' : node' ∈ t.nodes partition) {kind : ReplyKind} (call : NodeCall kind) :
    call.perform node.store (held node.id) = call.perform node'.store (held node'.id) := by
  have hcolumns : node.store.columns = node'.store.columns :=
    (ht.columns partition node hnode).trans (ht.columns partition node' hnode').symm
  rw [hagree partition node hnode node' hnode', NodeCall.perform_congr call hcolumns]

/-- Calls that reach all replicas of their partitions keep the agreement. -/
theorem carried_agree (ht : t.Deployed) {registry : Registry} {calls : List (Nat × AnyCall)}
    (hcarried : t.Carried registry calls held held')
    (hreached : ∀ call ∈ calls, ∀ node ∈ t.nodes call.1, registry.reaches node.id = true)
    (hagree : t.Agree held) : t.Agree held' := by
  intro partition node hnode node' hnode'
  by_cases hcalled : ∃ call ∈ calls, call.1 = partition
  · obtain ⟨call, hcall, rfl⟩ := hcalled
    obtain ⟨value, hvalue⟩ :=
      hcarried.performed call hcall node hnode (hreached call hcall node hnode)
    obtain ⟨value', hvalue'⟩ :=
      hcarried.performed call hcall node' hnode' (hreached call hcall node' hnode')
    rw [perform_of_agree ht hagree hnode hnode', hvalue'] at hvalue
    exact (Prod.mk.inj (Option.some.inj hvalue)).2.symm
  · have hout : partition ∉ calls.map Prod.fst := by
      rw [List.mem_map]
      exact hcalled
    rw [hcarried.untouched node.id (ht.partition_eq hnode ▸ hout),
      hcarried.untouched node'.id (ht.partition_eq hnode' ▸ hout)]
    exact hagree partition node hnode node' hnode'

/-- Every replica that is taken for alive is registered. -/
def Noticed (t : ReplicatedTable) (cluster : Cluster) : Prop :=
  ∀ replica ∈ t.allReplicas, replica.alive = true → cluster.registry.reaches replica.id = true

instance (t : ReplicatedTable) (cluster : Cluster) : Decidable (t.Noticed cluster) :=
  inferInstanceAs (Decidable (∀ _ ∈ _, _))

/-- A partition whose replicas are all taken for alive is reached as a whole. -/
theorem Noticed.reaches {cluster : Cluster} (h : t.Noticed cluster) {partition : Nat}
    (halive : ∀ replica ∈ t.replicas partition, replica.alive = true) :
    ∀ node ∈ t.nodes partition, cluster.registry.reaches node.id = true := by
  intro node hnode
  obtain ⟨replica, hreplica, rfl⟩ := List.mem_map.1 hnode
  refine h replica ?_ (halive replica hreplica)
  unfold replicas at hreplica
  cases hpartition : t.partitions[partition]? with
  | none => simp [hpartition] at hreplica
  | some found =>
    rw [hpartition] at hreplica
    exact List.mem_flatten.2 ⟨found, List.mem_of_getElem? hpartition, hreplica⟩

/-- A write that finds every stop noticed is complete and keeps the agreement. -/
theorem write_agree (ht : t.Deployed) {operation : Operation} {cluster cluster' : Cluster}
    {summary : Summary} (hs : t.Serves held cluster) (hagree : t.Agree held)
    (hnoticed : t.Noticed cluster)
    (h : t.write operation cluster = (.ok summary, cluster')) (hf : summary.Faultless) :
    summary.isComplete = true ∧ ∃ held', t.Serves held' cluster' ∧ t.Agree held' := by
  obtain ⟨-, plan, positions, held', -, hfits, halive, -, rfl, hs', hcarried⟩ :=
    write_spec ht hs h hf
  have hreached : ∀ call ∈ plan.called positions, ∀ node ∈ t.nodes call.1,
      cluster.registry.reaches node.id = true := fun call hcall =>
    hnoticed.reaches (halive _ (Plan.called_subset hfits positions call hcall))
  refine ⟨Registry.isComplete_summaryOf.2 fun id hid => ?_, held', hs',
    carried_agree ht hcarried hreached hagree⟩
  obtain ⟨call, hcall, hid⟩ := List.mem_flatMap.1 hid
  obtain ⟨node, hnode, rfl⟩ := List.mem_map.1 hid
  exact hreached call hcall node hnode

end ReplicatedTable

namespace LiveTable

/-- What is asked of the steps of a run: when a write is made, every stop has been noticed by a
heartbeat round, and the write does not fail on a registered replica. -/
def Gated (live : LiveTable) : Action → Prop
  | .write operation => live.table.Noticed live.cluster ∧
      ∀ summary ∈ live.summary? (.write operation), summary.Faultless
  | _ => True

instance (live : LiveTable) : ∀ action, Decidable (live.Gated action)
  | .write _ => inferInstanceAs (Decidable (_ ∧ ∀ _ ∈ _, _))
  | .select | .stop _ _ | .start _ _ | .beat => inferInstanceAs (Decidable True)

/-- A write that is not refused was carried out by every replica that it was meant for. -/
def CompletesWrites (live : LiveTable) (action : Action) : Prop :=
  ∀ summary ∈ live.summary? action, summary.isComplete = true

/-- The table is in service, and the replicas of every partition hold the same text. -/
def Agreeing (live : LiveTable) : Prop := ∃ held, live.InService held ∧ live.table.Agree held

variable {live : LiveTable} {action : Action}

theorem agreeing_act (hagree : live.Agreeing) (hgated : live.Gated action) :
    live.CompletesWrites action ∧ (live.act action).Agreeing := by
  obtain ⟨held, hservice, hagree⟩ := hagree
  by_cases hwrite : ∃ operation, action = .write operation
  · obtain ⟨operation, rfl⟩ := hwrite
    have hnoticed := hgated.1
    cases houtcome : live.table.write operation live.cluster with
    | mk reply cluster =>
      cases reply with
      | error e =>
        have herror : (live.table.write operation live.cluster).1 = .error e := by rw [houtcome]
        refine ⟨fun summary hsummary => ?_, ?_⟩
        · simp [summary?, herror, Except.toOption] at hsummary
        · rw [act_write_of_error herror]
          exact ⟨held, hservice, hagree⟩
      | ok summary =>
        have hfaultless : summary.Faultless := hgated.2 summary (by
          simp [summary?, houtcome, Except.toOption])
        obtain ⟨hcomplete, held', hs', hagree'⟩ := ReplicatedTable.write_agree hservice.deployed
          hservice.serves hagree hnoticed houtcome hfaultless
        refine ⟨fun other hother => ?_, held', ?_⟩
        · obtain rfl : summary = other := by
            simpa [summary?, houtcome, Except.toOption] using hother
          exact hcomplete
        · simp only [act, houtcome]
          exact ⟨⟨hservice.deployed, hs'⟩, hagree'⟩
  · have hother : ∀ operation, action ≠ .write operation :=
      fun operation heq => hwrite ⟨operation, heq⟩
    refine ⟨fun summary hsummary => ?_, held, hservice.act_of_not_write hother, ?_⟩
    · cases action with
      | write operation => exact absurd rfl (hother operation)
      | _ => simp [summary?] at hsummary
    · intro partition
      rw [(sameTable_act live action).nodes partition]
      exact hagree partition

/-- A new table has empty replicas. -/
theorem agreeing_launched {table : TableDef} {replicaCount : Nat} {layout : Layout}
    {settings : ReplicationSettings} {cluster : Cluster}
    (hresponds : cluster.registry.Responds) (hreads : cluster.files.Readable)
    (h : launched table replicaCount layout settings cluster = .ok live) : live.Agreeing := by
  have ht := (ReplicatedTable.create_ok (launched_ok h)).deployed
  have hs := ReplicatedTable.create_serves hresponds hreads (launched_ok h)
  exact ⟨_, ⟨ht, hs⟩, ReplicatedTable.agree_newText ht⟩

/-- **Replicas converge.**  If every stop is noticed before the next write and no file operation
fails, then every write that is not refused is complete, and at every point the files of all
replicas of a partition hold the same bytes. -/
theorem replicas_converge {table : TableDef} {replicaCount : Nat} {layout : Layout}
    {settings : ReplicationSettings} {cluster : Cluster}
    (hresponds : cluster.registry.Responds) (hreads : cluster.files.Readable)
    (hlaunched : launched table replicaCount layout settings cluster = .ok live)
    {actions : List Action} (hgated : Throughout act Gated live actions) :
    Throughout act CompletesWrites live actions ∧
      ∀ partition, ∃ content, ∀ replica ∈ (run act live actions).table.replicas partition,
        (run act live actions).cluster.files.find replica.node.store.path =
          .ok (some (.file content)) := by
  have hinit := agreeing_launched hresponds hreads hlaunched
  have hstep : ∀ (live : LiveTable) action, live.Agreeing → live.Gated action →
      (live.act action).Agreeing := fun _ _ hagree hgated => (agreeing_act hagree hgated).2
  refine ⟨hgated.of_invariant hstep (fun _ _ hagree hgated => (agreeing_act hagree hgated).1)
    hinit, fun partition => ?_⟩
  obtain ⟨held, hservice, hagree⟩ := hgated.invariant hstep hinit
  cases hreplicas : (run act live actions).table.replicas partition with
  | nil => exact ⟨ByteArray.empty, by simp⟩
  | cons first rest =>
    rw [← hreplicas]
    have hmem : ∀ replica ∈ (run act live actions).table.replicas partition,
        replica.node ∈ (run act live actions).table.nodes partition :=
      fun replica hreplica => List.mem_map_of_mem hreplica
    have hfirst := hmem first (hreplicas ▸ List.mem_cons_self)
    refine ⟨(held first.node.id).toUTF8, fun replica hreplica => ?_⟩
    have hnode := hmem replica hreplica
    rw [hagree partition first.node hfirst replica.node hnode]
    exact (hservice.serves.holds partition replica.node hnode).find

/-- A stop is noticed, a write is refused, and the replica comes back. -/
def outage : List Action :=
  [.write (.insertion "items" ["id", "a,b"] ["1", "x,y\nz"]), .stop 0 1, .beat,
    .write (.insertion "items" ["id"] ["2"]), .select, .start 0 1, .beat,
    .write (.assignment "items" ["a,b"] ["\n"] ⟨"id", "1"⟩)]

/-- Two groups of columns with two replicas each. -/
def items : Except Error LiveTable :=
  launched ⟨"items", .sql, some ["id", "a,b"]⟩ 2 (.byColumns [["id"], ["a,b"]])
    ⟨["data"], 1000⟩ ⟨.direct, .empty⟩

/-- The fields of this run hold separators and line ends. -/
theorem replicas_converge_outage :
    ∃ live, items = .ok live ∧
      Throughout act Gated live outage ∧ Throughout act CompletesWrites live outage ∧
        ∀ partition, ∃ content, ∀ replica ∈ (run act live outage).table.replicas partition,
          (run act live outage).cluster.files.find replica.node.store.path =
            .ok (some (.file content)) := by
  obtain ⟨live, hlaunched, hgated⟩ :=
    exists_of_test items (fun live => Throughout act Gated live outage) (by decide +kernel)
  exact ⟨live, hlaunched, hgated, replicas_converge (by trivial) (by decide) hlaunched hgated⟩

end LiveTable

end TableStore
