import TableStore.Proofs.Registrations
import TableStore.Proofs.Writes
import TableStore.ReplicatedTable.Read

/-!
# Two clusters side by side

A table does the same things in two clusters if their registries answer its calls alike.  What is
alike is left open: errors may have other texts in the second cluster (`relabel`), and the files of
both are related in some way that calls keep (`ready`).  The relation may depend on the replicas
that are still to be called, because a write calls each replica once at most.

* `Registry.Mirrors` says so of single calls.
* `write_mirrors`, `select_congr` and `beat_congr` are about writes, selections and heartbeat
  rounds.  They follow the definitions call by call.
* `create_mirrors` is about the creation of tables.  There whole clusters are related.
-/

namespace TableStore

/-! ## Other texts for errors -/

/-- The summary with its errors relabelled. -/
def Summary.relabel (relabel : CallError → CallError) (summary : Summary) : Summary :=
  { summary with
    failures := summary.failures.map fun failure => ⟨failure.replica, relabel failure.error⟩ }

theorem Summary.relabel_merge (relabel : CallError → CallError) (first second : Summary) :
    (first.merge second).relabel relabel =
      (first.relabel relabel).merge (second.relabel relabel) := by
  simp [Summary.relabel, Summary.merge]

/-- What came of calls, with its errors relabelled. -/
def ReplicatedTable.FanOut.relabel {kind : ReplyKind} (relabel : CallError → CallError)
    (fanOut : ReplicatedTable.FanOut kind) : ReplicatedTable.FanOut kind :=
  { fanOut with summary := fanOut.summary.relabel relabel }

/-- The partitions whose replicas a plan can call, in the order of the calls. -/
def Plan.reached : Plan → List Nat
  | each calls => calls.map Prod.fst
  | driven _ driver _ others => driver :: (others []).map Prod.fst

theorem Plan.Fits.nodup_reached {plan : Plan} (h : plan.Fits) : plan.reached.Nodup := by
  cases plan with
  | each calls => exact h
  | driven checked driver call others =>
    obtain ⟨hnodup, hothers, -⟩ := h.2 []
    exact List.nodup_cons.2 ⟨fun hmem => (hothers driver hmem).2 rfl, hnodup⟩

/-- Calls through the second registry come to the same as those through the first, but for the
texts of errors.  Calls are `good`, and answers can be `carried`; `ready ids` relates the files
while the replicas `ids` are still to be called. -/
structure Registry.Mirrors (first second : Registry) (relabel : CallError → CallError)
    (good : AnyCall → Prop) (carried : (kind : ReplyKind) → kind.Value → Prop)
    (ready : List ReplicaId → FileSystem → FileSystem → Prop) : Prop where
  call : ∀ {kind : ReplyKind} {call : NodeCall kind} {id : ReplicaId} {rest : List ReplicaId}
    {files files' : FileSystem}, good ⟨kind, call⟩ → ready (id :: rest) files files' →
    ∃ reply after after', first.call id call files = (reply, after) ∧
      second.call id call files' = (reply.mapError relabel, after') ∧ ready rest after after' ∧
      ∀ value, reply = .ok value → carried kind value
  done : ∀ {ids : List ReplicaId} {files files' : FileSystem},
    ready ids files files' → ready [] files files'

namespace ReplicatedTable

variable {t : ReplicatedTable} {first second : Registry} {relabel : CallError → CallError}
  {good : AnyCall → Prop} {carried : (kind : ReplyKind) → kind.Value → Prop}
  {ready : List ReplicaId → FileSystem → FileSystem → Prop}

/-! ## Writes -/

section

variable (h : first.Mirrors second relabel good carried ready)
include h

theorem callAll_mirrors {kind : ReplyKind} {call : NodeCall kind} (hgood : good ⟨kind, call⟩)
    {replicas : List Replica} {rest : List ReplicaId} {files files' : FileSystem}
    (hready : ready (replicas.map Replica.id ++ rest) files files') :
    ∃ result after after', callAll first call replicas files = (result, after) ∧
      callAll second call replicas files' = (result.relabel relabel, after') ∧
      ready rest after after' ∧ ∀ answer ∈ result.answers, carried kind answer := by
  induction replicas generalizing files files' with
  | nil => exact ⟨_, _, _, rfl, rfl, hready, by simp⟩
  | cons replica replicas ih =>
    obtain ⟨reply, after, after', hcall, hcall', hready', hcarried⟩ := h.call hgood hready
    obtain ⟨result, last, last', hrest, hrest', hready'', hanswers⟩ := ih hready'
    cases reply with
    | error e =>
      refine ⟨⟨(Summary.empty.recordFailure replica.id e).merge result.summary, result.answers⟩,
        last, last', ?_, ?_, hready'', hanswers⟩
      · simp only [callAll, hcall, hrest]
      · simp only [callAll, hcall', Except.mapError, hrest', FanOut.relabel, Summary.relabel_merge]
        rfl
    | ok answer =>
      refine ⟨⟨Summary.empty.recordSuccess.merge result.summary, answer :: result.answers⟩,
        last, last', ?_, ?_, hready'', List.forall_mem_cons.2 ⟨hcarried answer rfl, hanswers⟩⟩
      · simp only [callAll, hcall, hrest]
      · simp only [callAll, hcall', Except.mapError, hrest', FanOut.relabel, Summary.relabel_merge]
        rfl

theorem fanOut_mirrors {kind : ReplyKind} {call : NodeCall kind} (hgood : good ⟨kind, call⟩)
    {partition : Nat} {rest : List ReplicaId} {files files' : FileSystem}
    (hready : ready (t.idsOf partition ++ rest) files files') :
    ∃ result after after', t.fanOut partition call ⟨first, files⟩ = (result, ⟨first, after⟩) ∧
      t.fanOut partition call ⟨second, files'⟩ = (result.relabel relabel, ⟨second, after'⟩) ∧
      ready rest after after' ∧ ∀ answer ∈ result.answers, carried kind answer := by
  rw [← map_id_replicas] at hready
  obtain ⟨result, after, after', hcalls, hcalls', hready', hanswers⟩ :=
    callAll_mirrors h hgood hready
  refine ⟨result, after, after', ?_, ?_, hready', hanswers⟩
  · simp only [fanOut, hcalls]
  · simp only [fanOut, hcalls']

theorem fanOutEach_mirrors {kind : ReplyKind} {calls : List (Nat × NodeCall kind)}
    (hgood : ∀ call ∈ calls, good ⟨kind, call.2⟩) {rest : List ReplicaId}
    {files files' : FileSystem}
    (hready : ready ((calls.map Prod.fst).flatMap t.idsOf ++ rest) files files') :
    ∃ summary after after', t.fanOutEach calls ⟨first, files⟩ = (summary, ⟨first, after⟩) ∧
      t.fanOutEach calls ⟨second, files'⟩ = (summary.relabel relabel, ⟨second, after'⟩) ∧
      ready rest after after' := by
  induction calls generalizing files files' with
  | nil => exact ⟨_, _, _, rfl, rfl, hready⟩
  | cons call calls ih =>
    obtain ⟨hcall, hcalls⟩ := List.forall_mem_cons.1 hgood
    rw [List.map_cons, List.flatMap_cons, List.append_assoc] at hready
    obtain ⟨result, after, after', hfirst, hfirst', hready', -⟩ := fanOut_mirrors h hcall hready
    obtain ⟨summary, last, last', hrest, hrest', hready''⟩ := ih hcalls hready'
    refine ⟨result.summary.merge summary, last, last', ?_, ?_, hready''⟩
    · simp only [fanOutEach, hfirst, hrest]
    · simp only [fanOutEach, hfirst', hrest', FanOut.relabel, Summary.relabel_merge]

theorem carryOut_mirrors {plan : Plan} (hfits : plan.Fits)
    (hgood : ∀ positions, positions = [] ∨ carried .positions positions →
      ∀ call ∈ plan.called positions, good call.2)
    {files files' : FileSystem} (hready : ready (plan.reached.flatMap t.idsOf) files files') :
    ∃ summary after after', plan.carryOut t ⟨first, files⟩ = (summary, ⟨first, after⟩) ∧
      plan.carryOut t ⟨second, files'⟩ = (summary.relabel relabel, ⟨second, after'⟩) ∧
      ready [] after after' := by
  cases plan with
  | each calls =>
    have hcalls : ∀ call ∈ calls, good ⟨_, call.2⟩ := fun call hcall =>
      hgood [] (Or.inl rfl) _ (List.mem_map_of_mem hcall)
    rw [← List.append_nil ((Plan.each calls).reached.flatMap t.idsOf)] at hready
    exact fanOutEach_mirrors h hcalls hready
  | driven checked driver call others =>
    have hdriver : good ⟨_, call⟩ := hgood [] (Or.inl rfl) _ List.mem_cons_self
    rw [Plan.reached, List.flatMap_cons] at hready
    obtain ⟨result, after, after', hfirst, hfirst', hready', hanswers⟩ :=
      fanOut_mirrors h hdriver hready
    have hpositions : result.answers.head?.getD [] = [] ∨
        carried .positions (result.answers.head?.getD []) := by
      cases hhead : result.answers.head? with
      | none => exact Or.inl rfl
      | some positions => exact Or.inr (hanswers positions (List.mem_of_mem_head? hhead))
    simp only [Plan.carryOut, propagate, hfirst, hfirst', FanOut.relabel]
    generalize result.answers.head?.getD [] = positions at hpositions ⊢
    by_cases hnil : positions = []
    · simp only [if_pos hnil]
      exact ⟨_, after, after', rfl, rfl, h.done hready'⟩
    · simp only [if_neg hnil]
      have hothers : ∀ own ∈ others positions, good ⟨_, own.2⟩ := by
        intro own hown
        refine hgood positions hpositions (own.1, ⟨_, own.2⟩) ?_
        rw [Plan.called, if_neg hnil]
        exact List.mem_cons_of_mem _ (List.mem_map_of_mem hown)
      rw [← (hfits.2 positions).2.2,
        ← List.append_nil (((others positions).map Prod.fst).flatMap t.idsOf)] at hready'
      obtain ⟨summary, last, last', hrest, hrest', hready''⟩ :=
        fanOutEach_mirrors h hothers hready'
      refine ⟨result.summary.merge summary, last, last', ?_, ?_, hready''⟩
      · simp only [hrest]
      · simp only [hrest', Summary.relabel_merge]

/-- **A write does the same in both clusters.** -/
theorem write_mirrors (ht : t.Deployed) {operation : Operation}
    (hgood : ∀ plan positions, t.plan? operation = .ok plan →
      positions = [] ∨ carried .positions positions →
      ∀ call ∈ plan.called positions, good call.2)
    {files files' : FileSystem}
    (hready : ∀ partitions : List Nat, partitions.Nodup →
      ready (partitions.flatMap t.idsOf) files files') :
    ∃ reply after after', t.write operation ⟨first, files⟩ = (reply, ⟨first, after⟩) ∧
      t.write operation ⟨second, files'⟩ =
        (reply.map (Summary.relabel relabel), ⟨second, after'⟩) ∧ ready [] after after' := by
  have hidle := hready [] List.nodup_nil
  rw [write_eq_plan, write_eq_plan]
  cases hplan : t.plan? operation with
  | error e => exact ⟨_, files, files', rfl, rfl, hidle⟩
  | ok plan =>
    simp only [follow]
    cases t.checkAllAlive plan.checked with
    | error e => exact ⟨_, files, files', rfl, rfl, hidle⟩
    | ok _ =>
      have hfits := fits_plan? ht hplan
      obtain ⟨summary, after, after', hcarried, hcarried', hready'⟩ :=
        carryOut_mirrors h hfits (fun positions => hgood plan positions hplan)
          (hready _ hfits.nodup_reached)
      refine ⟨.ok summary, after, after', ?_, ?_, hready'⟩
      · simp only [hcarried]
      · simp only [hcarried', Except.map]

end

/-- A write keeps what calls on the replicas of its table keep. -/
theorem write_keeps (ht : t.Deployed) {P : FileSystem → Prop} {cluster : Cluster}
    (hcall : ∀ id ∈ t.ids, ∀ (kind : ReplyKind) (call : NodeCall kind) (files : FileSystem),
      P files → P (cluster.registry.call id call files).2)
    (hP : P cluster.files) (operation : Operation) :
    (t.write operation cluster).2.registry = cluster.registry ∧
      P (t.write operation cluster).2.files := by
  -- the write is compared with itself
  have hmirrors : cluster.registry.Mirrors cluster.registry id (fun _ => True) (fun _ _ => True)
      fun ids files files' => (∀ id ∈ ids, id ∈ t.ids) ∧ files' = files ∧ P files := by
    refine ⟨fun {kind call id rest files files'} _ hready => ?_,
      fun ⟨_, hfiles⟩ => ⟨by simp, hfiles⟩⟩
    obtain ⟨hids, rfl, hfiles⟩ := hready
    obtain ⟨hid, hrest⟩ := List.forall_mem_cons.1 hids
    have hafter := hcall id hid kind call files' hfiles
    generalize cluster.registry.call id call files' = outcome at hafter
    refine ⟨outcome.1, outcome.2, outcome.2, rfl, ?_, ⟨hrest, rfl, hafter⟩, fun _ _ => trivial⟩
    obtain ⟨reply, after⟩ := outcome
    cases reply <;> rfl
  have hready : ∀ partitions : List Nat, partitions.Nodup →
      (∀ id ∈ partitions.flatMap t.idsOf, id ∈ t.ids) ∧ cluster.files = cluster.files ∧
        P cluster.files := by
    refine fun partitions _ => ⟨fun id hid => ?_, rfl, hP⟩
    obtain ⟨partition, -, hid⟩ := List.mem_flatMap.1 hid
    exact mem_ids.2 ⟨partition, hid⟩
  obtain ⟨reply, after, after', hwrite, -, -, -, hfiles⟩ :=
    write_mirrors hmirrors ht (fun _ _ _ _ _ _ => trivial) hready
  have hcluster : t.write operation cluster = (reply, ⟨cluster.registry, after⟩) := hwrite
  rw [hcluster]
  exact ⟨rfl, hfiles⟩

/-! ## Selections and heartbeat rounds -/

section

variable {cluster cluster' : Cluster}

theorem mem_allReplicas_of_mem_replicas {partition : Nat} {replica : Replica}
    (h : replica ∈ t.replicas partition) : replica ∈ t.allReplicas := by
  unfold replicas at h
  cases hfound : t.partitions[partition]? with
  | none => simp [hfound] at h
  | some replicas =>
    rw [hfound] at h
    exact List.mem_flatten.2 ⟨replicas, List.mem_of_getElem? hfound, h⟩

theorem firstRows_congr {replicas : List Replica}
    (h : ∀ replica ∈ replicas, (cluster'.registry.call replica.id .select cluster'.files).1 =
      (cluster.registry.call replica.id .select cluster.files).1.mapError relabel) :
    firstRows cluster' replicas = firstRows cluster replicas := by
  induction replicas with
  | nil => rfl
  | cons replica rest ih =>
    obtain ⟨hcall, hrest⟩ := List.forall_mem_cons.1 h
    rw [firstRows, firstRows, hcall]
    cases (cluster.registry.call replica.id .select cluster.files).1 with
    | error e => exact ih hrest
    | ok rows => rfl

theorem readAll_congr (h : ∀ partition, t.readPartition cluster' partition =
    t.readPartition cluster partition) (partitions : List Nat) :
    t.readAll cluster' partitions = t.readAll cluster partitions := by
  induction partitions with
  | nil => rfl
  | cons partition rest ih => rw [readAll, readAll, h, ih]

/-- **A selection reads the same rows in both clusters.** -/
theorem select_congr
    (h : ∀ replica ∈ t.allReplicas, (cluster'.registry.call replica.id .select cluster'.files).1 =
      (cluster.registry.call replica.id .select cluster.files).1.mapError relabel) :
    t.select cluster' = t.select cluster := by
  have hpartition : ∀ partition, t.readPartition cluster' partition =
      t.readPartition cluster partition := by
    intro partition
    rw [readPartition, readPartition, firstRows_congr fun replica hreplica => h replica ?_]
    exact mem_allReplicas_of_mem_replicas (List.mem_filter.1 hreplica).1
  rw [select, select, readAll_congr hpartition]

/-- **A heartbeat round finds the same in both clusters.** -/
theorem beat_congr
    (h : ∀ replica ∈ t.allReplicas,
      (cluster'.registry.call replica.id .heartbeat cluster'.files).1.isOk =
        (cluster.registry.call replica.id .heartbeat cluster.files).1.isOk) :
    t.beat cluster' = t.beat cluster := by
  have hpartitions : (t.partitions.map fun replicas => replicas.map (Replica.beat cluster')) =
      t.partitions.map fun replicas => replicas.map (Replica.beat cluster) := by
    refine List.map_congr_left fun replicas hreplicas => ?_
    refine List.map_congr_left fun replica hreplica => ?_
    rw [Replica.beat, Replica.beat, h replica (List.mem_flatten.2 ⟨_, hreplicas, hreplica⟩)]
  rw [beat, beat, hpartitions]

end

/-! ## Creation -/

section

variable {K : Cluster → Cluster → Prop} {dataDir : Path}
  {columns : ReplicaId → Option (List String)}

/-- The node of a replica is created alike in related clusters, which stay related. -/
def CreatesAlike (K : Cluster → Cluster → Prop) (dataDir : Path)
    (columns : ReplicaId → Option (List String)) (id : ReplicaId) : Prop :=
  ∀ cluster cluster', K cluster cluster' → ∃ reply after after',
    StorageNode.create id dataDir (columns id) cluster.files = (reply, after) ∧
    StorageNode.create id dataDir (columns id) cluster'.files = (reply, after') ∧
    (∀ e, reply = .error e → K ⟨cluster.registry, after⟩ ⟨cluster'.registry, after'⟩) ∧
    ∀ node, reply = .ok node →
      K ⟨cluster.registry.register node, after⟩ ⟨cluster'.registry.register node, after'⟩

theorem createNodes_mirrors {ids : List ReplicaId}
    (hcreate : ∀ id ∈ ids, CreatesAlike K dataDir columns id) {cluster cluster' : Cluster}
    (hK : K cluster cluster') :
    ∃ reply after after', createNodes dataDir columns ids cluster = (reply, after) ∧
      createNodes dataDir columns ids cluster' = (reply, after') ∧ K after after' := by
  induction ids generalizing cluster cluster' with
  | nil => exact ⟨_, cluster, cluster', rfl, rfl, hK⟩
  | cons id rest ih =>
    obtain ⟨hid, hrest⟩ := List.forall_mem_cons.1 hcreate
    obtain ⟨reply, files, files', hfirst, hfirst', herror, hok⟩ := hid cluster cluster' hK
    cases reply with
    | error e =>
      exact ⟨_, _, _, by simp only [createNodes, hfirst]; rfl,
        by simp only [createNodes, hfirst'], herror e rfl⟩
    | ok node =>
      obtain ⟨others, after, after', hothers, hothers', hafter⟩ := ih hrest (hok node rfl)
      cases others with
      | error failure =>
        exact ⟨_, after, after', by simp only [createNodes, hfirst, hothers]; rfl,
          by simp only [createNodes, hfirst', hothers'], hafter⟩
      | ok nodes =>
        exact ⟨_, after, after', by simp only [createNodes, hfirst, hothers]; rfl,
          by simp only [createNodes, hfirst', hothers'], hafter⟩

/-- The nodes that are created have the identities asked for. -/
theorem mem_ids_of_createNodes {ids : List ReplicaId} {cluster after : Cluster}
    {nodes : List StorageNode} (h : createNodes dataDir columns ids cluster = (.ok nodes, after))
    {node : StorageNode} (hnode : node ∈ nodes) : node.id ∈ ids := by
  obtain ⟨created, -, -, ⟨e, hfalse⟩ | ⟨heq, hids⟩⟩ := registry_createNodes h
  · simp at hfalse
  · obtain rfl := Except.ok.inj heq
    exact hids ▸ List.mem_map_of_mem hnode

/-- Related clusters stay related when the same replicas are unregistered. -/
theorem unregisterAll_mirrors {ids : List ReplicaId}
    (hunregister : ∀ id ∈ ids, ∀ cluster cluster', K cluster cluster' →
      K { cluster with registry := cluster.registry.unregister id }
        { cluster' with registry := cluster'.registry.unregister id })
    {cluster cluster' : Cluster} (hK : K cluster cluster') :
    K { cluster with registry := ids.foldl Registry.unregister cluster.registry }
      { cluster' with registry := ids.foldl Registry.unregister cluster'.registry } := by
  induction ids generalizing cluster cluster' with
  | nil => exact hK
  | cons id rest ih =>
    obtain ⟨hid, hrest⟩ := List.forall_mem_cons.1 hunregister
    exact ih hrest (hid _ _ hK)

/-- **A table is created alike in both clusters.**  Either the request is refused in both; or the
directory cannot be made in both; or the nodes are created in related clusters. -/
theorem create_mirrors {table : TableDef} {count : Nat} {layout : Layout}
    {settings : ReplicationSettings} {cluster cluster' : Cluster}
    (hdirs : ∃ reply files files', cluster.files.createDirectories settings.dataDir =
        (reply, files) ∧ cluster'.files.createDirectories settings.dataDir = (reply, files') ∧
      (reply = .ok () → K ⟨cluster.registry, files⟩ ⟨cluster'.registry, files'⟩))
    (hcreate : table.hasValidName = true → ∀ partition replica,
      CreatesAlike K settings.dataDir
        (fun id => storeColumns table ⟨layout⟩ id.partition) (.ofTable table partition replica))
    (hunregister : ∀ partition replica cluster cluster', K cluster cluster' →
      K { cluster with
          registry := cluster.registry.unregister (.ofTable table partition replica) }
        { cluster' with
          registry := cluster'.registry.unregister (.ofTable table partition replica) })
    (hbeat : table.hasValidName = true → ∀ partition replica cluster cluster', K cluster cluster' →
      (cluster'.registry.call (.ofTable table partition replica) .heartbeat cluster'.files).1.isOk =
        (cluster.registry.call (.ofTable table partition replica) .heartbeat
          cluster.files).1.isOk) :
    (∃ e, create table count layout settings cluster = (.error e, cluster) ∧
      create table count layout settings cluster' = (.error e, cluster')) ∨
    (∃ cause files files',
      cluster.files.createDirectories settings.dataDir = (.error cause, files) ∧
      cluster'.files.createDirectories settings.dataDir = (.error cause, files') ∧
      create table count layout settings cluster = (.error (.io cause), { cluster with files }) ∧
      create table count layout settings cluster' =
        (.error (.io cause), ⟨cluster'.registry, files'⟩)) ∨
    ∃ reply after after', create table count layout settings cluster = (reply, after) ∧
      create table count layout settings cluster' = (reply, after') ∧ K after after' := by
  unfold create
  cases hcheck : checkCreation table count settings with
  | error e => exact Or.inl ⟨e, rfl, rfl⟩
  | ok _ =>
    cases hrouter : Router.create layout table with
    | error e => exact Or.inl ⟨e, rfl, rfl⟩
    | ok router =>
      obtain ⟨rfl, -⟩ := Router.check_of_create hrouter
      obtain ⟨-, hname⟩ := valid_of_checkCreation hcheck
      obtain ⟨reply, files, files', hmade, hmade', hK⟩ := hdirs
      refine Or.inr ?_
      simp only [hmade, hmade']
      cases reply with
      | error cause => exact Or.inl ⟨cause, files, files', rfl, rfl, rfl, rfl⟩
      | ok _ =>
        have hids : ∀ id ∈ (Router.partitions ⟨layout⟩).flatMap (replicaIds table count),
            CreatesAlike K settings.dataDir (fun id => storeColumns table ⟨layout⟩ id.partition)
              id := by
          intro id hid
          obtain ⟨partition, replica, rfl⟩ := exists_of_mem_replicaIds hid
          exact hcreate hname partition replica
        obtain ⟨reply, after, after', hnodes, hnodes', hafter⟩ := createNodes_mirrors hids (hK rfl)
        refine Or.inr ?_
        simp only [hnodes, hnodes']
        cases reply with
        | error failure =>
          obtain ⟨created, hbegins, -, ⟨e, heq⟩ | ⟨hfalse, -⟩⟩ := registry_createNodes hnodes
          · obtain rfl := Except.error.inj heq
            refine ⟨_, _, _, rfl, rfl, unregisterAll_mirrors (fun id hid => ?_) hafter⟩
            obtain ⟨partition, replica, rfl⟩ := exists_of_mem_replicaIds (hbegins.subset hid)
            exact hunregister partition replica
          · simp at hfalse
        | ok nodes =>
          refine ⟨_, after, after', rfl, ?_, hafter⟩
          rw [beat_congr fun replica hreplica => ?_]
          obtain ⟨number, hnode⟩ := exists_mem_nodes_of_mem_allReplicas hreplica
          obtain ⟨partition, number, hid⟩ :=
            exists_of_mem_replicaIds
              (mem_ids_of_createNodes hnodes (mem_of_mem_nodes_ofNodes hnode).1)
          rw [Replica.id, hid]
          exact (hbeat hname partition number after after' hafter).symm

end

end ReplicatedTable

end TableStore
