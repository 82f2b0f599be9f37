import TableStore.Proofs.Runs
import TableStore.Proofs.Transports

/-!
# Runs of tables over both transports

A `Fleet` is any number of tables over one registry and one file system.  A step creates a table,
is an action of one of them, drops one, or damages the files from outside.  What a step answers is
its `Reply`, and `View` is what can be seen of a fleet besides: tables with the liveness of their
replicas, files, and the number of registered nodes.

`Paired` relates a fleet whose nodes are called in the same process to one whose nodes are bound to
a host.  `step_paired` is the step, and `transports_agree` the result for runs: they see the same,
but for the text of store errors.
-/

namespace TableStore

/-! ## Clusters -/

/-- Clusters with the same files.  The nodes that the first one registers are bound to a host by
the second. -/
structure Cluster.Linked (direct remote : Cluster) : Prop where
  files : remote.files = direct.files
  hosts : direct.registry.Hosts remote.registry
  placed : direct.registry.Placed

namespace Cluster.Linked

variable {direct remote : Cluster} (h : direct.Linked remote)
include h

/-- A selection or heartbeat over the network is answered as in the process. -/
theorem call_eq {id : ReplicaId} (hvalid : id.IsValid) {kind : ReplyKind} {call : NodeCall kind}
    (hnone : call.positions = []) (hfits : ∀ value, kind.Fits value) :
    (remote.registry.call id call remote.files).1 =
      (direct.registry.call id call direct.files).1.mapError CallError.relayed := by
  have hcall : call.Fits := by simp [NodeCall.Fits, hnone]
  rw [h.files, h.hosts.call hvalid hcall fun value _ => hfits value]

theorem heartbeat_isOk {id : ReplicaId} (hvalid : id.IsValid) :
    (remote.registry.call id .heartbeat remote.files).1.isOk =
      (direct.registry.call id .heartbeat direct.files).1.isOk := by
  have hcall : (remote.registry.call id .heartbeat remote.files).1 =
      (direct.registry.call id .heartbeat direct.files).1.mapError CallError.relayed :=
    h.call_eq hvalid rfl fun _ => trivial
  rw [hcall]
  cases (direct.registry.call id .heartbeat direct.files).1 <;> rfl

theorem register {node : StorageNode} (hvalid : node.id.IsValid)
    (hlast : node.store.path.getLast? = some node.id.fileName) :
    Linked { direct with registry := direct.registry.register node }
      { remote with registry := remote.registry.register node } :=
  ⟨h.files, h.hosts.register node, h.placed.register hvalid hlast⟩

theorem unregister (id : ReplicaId) :
    Linked { direct with registry := direct.registry.unregister id }
      { remote with registry := remote.registry.unregister id } :=
  ⟨h.files, h.hosts.unregister id, h.placed.unregister id⟩

theorem withFiles (files : FileSystem) :
    Linked { direct with files } { remote with files } := ⟨rfl, h.hosts, h.placed⟩

end Cluster.Linked

namespace ReplicatedTable

/-- Nodes are created alike in linked clusters. -/
theorem createsAlike_of_linked {id : ReplicaId} (hvalid : id.IsValid) (dataDir : Path)
    (columns : ReplicaId → Option (List String)) :
    CreatesAlike Cluster.Linked dataDir columns id := by
  intro direct remote h
  cases hcreate : StorageNode.create id dataDir (columns id) direct.files with
  | mk reply files =>
    refine ⟨reply, files, files, rfl, h.files ▸ hcreate, fun _ _ => h.withFiles files, ?_⟩
    rintro node rfl
    obtain rfl := node_of_create hcreate
    exact (h.withFiles files).register hvalid (ReplicaId.getLast?_join_fileName hvalid dataDir)

/-- **A table is created alike in linked clusters**, and they stay linked. -/
theorem create_linked {direct remote : Cluster} (h : direct.Linked remote) (table : TableDef)
    (count : Nat) (layout : Layout) (settings : ReplicationSettings) :
    ∃ reply after after', create table count layout settings direct = (reply, after) ∧
      create table count layout settings remote = (reply, after') ∧ after.Linked after' := by
  have hvalid : table.hasValidName = true → ∀ partition replica,
      (ReplicaId.ofTable table partition replica).IsValid :=
    fun hname => ReplicaId.isValid_of_hasValidName hname
  cases hmade : direct.files.createDirectories settings.dataDir with
  | mk made files =>
    have hmade' : remote.files.createDirectories settings.dataDir = (made, files) := by
      rw [h.files, hmade]
    rcases create_mirrors ⟨made, files, files, hmade, hmade', fun _ => h.withFiles files⟩
        (fun hname partition replica =>
          createsAlike_of_linked (hvalid hname partition replica) settings.dataDir _)
        (fun partition replica _ _ hlinked => hlinked.unregister _)
        (fun hname partition replica _ _ hlinked =>
          hlinked.heartbeat_isOk (hvalid hname partition replica)) with
      ⟨e, hfirst, hsecond⟩ | ⟨cause, after, after', hfail, hfail', hfirst, hsecond⟩ | halike
    · exact ⟨_, _, _, hfirst, hsecond, h⟩
    · obtain rfl : files = after := congrArg Prod.snd (hmade.symm.trans hfail)
      obtain rfl : files = after' := congrArg Prod.snd (hmade'.symm.trans hfail')
      exact ⟨_, _, _, hfirst, hsecond, h.withFiles files⟩
    · exact halike

end ReplicatedTable

/-! ## Actions of one table -/

/-- The reply as it is over a network. -/
def Reply.relayed : Reply → Reply
  | summary result => .summary (result.map (Summary.relabel CallError.relayed))
  | reply => reply

namespace LiveTable

/-- What comes back from an action. -/
def replyTo (live : LiveTable) : Action → Reply
  | .write operation => .summary (live.table.write operation live.cluster).1
  | .select => .rows live.select
  | .stop partition replica =>
    .outcome ((live.table.stop partition replica live.cluster.registry).map fun _ => ())
  | .start partition replica =>
    .outcome ((live.table.start partition replica live.cluster.registry).map fun _ => ())
  | .beat => .silent

variable {t : ReplicatedTable} {direct remote : Cluster}

/-- **An action over the network** answers what it does in the process, changes the table in the
same way, and leaves the clusters linked. -/
theorem act_linked (ht : t.Deployed) (h : direct.Linked remote) (hroomy : direct.files.Roomy)
    (action : Action) :
    replyTo ⟨t, remote⟩ action = (replyTo ⟨t, direct⟩ action).relayed ∧
      (act ⟨t, remote⟩ action).table = (act ⟨t, direct⟩ action).table ∧
      (act ⟨t, direct⟩ action).cluster.Linked (act ⟨t, remote⟩ action).cluster := by
  have hvalid : ∀ replica ∈ t.allReplicas, replica.id.IsValid := by
    intro replica hreplica
    obtain ⟨partition, hnode⟩ := ReplicatedTable.exists_mem_nodes_of_mem_allReplicas hreplica
    exact ht.isValid hnode
  cases action with
  | write operation =>
    have hready : ∀ partitions : List Nat, partitions.Nodup →
        Ready direct.registry (partitions.flatMap t.idsOf) direct.files remote.files := by
      intro partitions hnodup
      refine ⟨h.files, ReplicatedTable.nodup_flatMap_idsOf ht hnodup, fun id hid => ?_⟩
      obtain ⟨partition, -, hid⟩ := List.mem_flatMap.1 hid
      exact ⟨(ReplicatedTable.mem_idsOf ht hid).2,
        fun node _ => RecordStore.isCountable_of_roomy hroomy node.store⟩
    obtain ⟨result, after, after', hwrite, hwrite', hfiles, -⟩ :=
      ReplicatedTable.write_mirrors (mirrors_of_hosts h.hosts h.placed) ht
        (fun plan positions hplan hpositions call hcall =>
          ReplicatedTable.isSmall_of_called hplan hpositions hcall) hready
    have hdirect : t.write operation direct = (result, ⟨direct.registry, after⟩) := hwrite
    have hremote : t.write operation remote =
        (result.map (Summary.relabel CallError.relayed), ⟨remote.registry, after'⟩) := hwrite'
    simp only [replyTo, act, hdirect, hremote]
    exact ⟨rfl, trivial, hfiles, h.hosts, h.placed⟩
  | select =>
    have hselect : t.select remote = t.select direct :=
      ReplicatedTable.select_congr fun replica hreplica =>
        h.call_eq (hvalid replica hreplica) rfl fun _ => trivial
    exact ⟨congrArg Reply.rows hselect, rfl, h⟩
  | stop partition replica =>
    simp only [replyTo, act, ReplicatedTable.stop]
    cases t.lookup partition replica with
    | error e => exact ⟨rfl, rfl, h⟩
    | ok found => exact ⟨rfl, rfl, h.unregister found.id⟩
  | start partition replica =>
    simp only [replyTo, act, ReplicatedTable.start]
    cases hfound : t.lookup partition replica with
    | error e => exact ⟨rfl, rfl, h⟩
    | ok found =>
      have hnode := ReplicatedTable.mem_nodes_of_lookup hfound
      exact ⟨rfl, rfl, h.register (ht.isValid hnode) (ht.paths partition _ hnode)⟩
  | beat =>
    have hbeat : t.beat remote = t.beat direct :=
      ReplicatedTable.beat_congr fun replica hreplica =>
        h.heartbeat_isOk (hvalid replica hreplica)
    exact ⟨rfl, hbeat, h⟩

end LiveTable

/-! ## Fleets -/

/-- Any number of tables over one cluster. -/
structure Fleet where
  tables : List ReplicatedTable
  cluster : Cluster

namespace Fleet

/-- What can happen to a fleet. -/
inductive Step
  | create (table : TableDef) (count : Nat) (layout : Layout) (settings : ReplicationSettings)
  /-- An action of the table with a number. -/
  | act (number : Nat) (action : Action)
  /-- A table is given up, and its nodes become unreachable. -/
  | drop (number : Nat)
  /-- The files are changed from outside, and what can be done with them. -/
  | damage (files : FileSystem)

/-- What a step answers, and the fleet after it. -/
def step (fleet : Fleet) : Step → Reply × Fleet
  | .create table count layout settings =>
    match ReplicatedTable.create table count layout settings fleet.cluster with
    | (.error e, cluster) => (.outcome (.error e), { fleet with cluster })
    | (.ok t, cluster) => (.outcome (.ok ()), ⟨fleet.tables ++ [t], cluster⟩)
  | .act number action =>
    match fleet.tables[number]? with
    | none => (.silent, fleet)
    | some t =>
      let live : LiveTable := ⟨t, fleet.cluster⟩
      (live.replyTo action,
        ⟨fleet.tables.set number (live.act action).table, (live.act action).cluster⟩)
  | .drop number =>
    match fleet.tables[number]? with
    | none => (.silent, fleet)
    | some t =>
      (.silent, ⟨fleet.tables.eraseIdx number,
        { fleet.cluster with registry := t.release fleet.cluster.registry }⟩)
  | .damage files => (.silent, { fleet with cluster := { fleet.cluster with files } })

/-- The fleet after a step. -/
def next (fleet : Fleet) (step : Step) : Fleet := (fleet.step step).2

/-- What can be seen of a fleet. -/
structure View where
  tables : List ReplicatedTable
  files : FileSystem
  /-- The number of registered replicas. -/
  registered : Nat

def view (fleet : Fleet) : View :=
  ⟨fleet.tables, fleet.cluster.files, fleet.cluster.registry.size⟩

/-- The answers to the steps of a run, each with what can be seen after the step. -/
def trace (fleet : Fleet) : List Step → List (Reply × View)
  | [] => []
  | step :: rest =>
    ((fleet.step step).1, (fleet.next step).view) :: (fleet.next step).trace rest

/-- The fleet without tables, whose registry has no nodes. -/
def idle (registry : Registry) (files : FileSystem) : Fleet := ⟨[], registry, files⟩

/-- Fleets of the same tables over linked clusters. -/
structure Paired (direct remote : Fleet) : Prop where
  tables : remote.tables = direct.tables
  deployed : ∀ t ∈ direct.tables, t.Deployed
  linked : direct.cluster.Linked remote.cluster

variable {direct remote : Fleet}

theorem Paired.view_eq (h : direct.Paired remote) : remote.view = direct.view := by
  simp only [view, h.tables, h.linked.files, h.linked.hosts.size_eq]

/-- **The step.**  Paired fleets answer the same, but for the text of store errors, and stay
paired. -/
theorem step_paired (h : direct.Paired remote) (hroomy : direct.cluster.files.Roomy)
    (step : Step) : (remote.step step).1 = (direct.step step).1.relayed ∧
      (direct.step step).2.Paired (remote.step step).2 := by
  cases step with
  | create table count layout settings =>
    obtain ⟨reply, after, after', hfirst, hsecond, hafter⟩ :=
      ReplicatedTable.create_linked h.linked table count layout settings
    simp only [Fleet.step, hfirst, hsecond, h.tables]
    cases reply with
    | error e => exact ⟨rfl, rfl, h.deployed, hafter⟩
    | ok t =>
      refine ⟨rfl, rfl, fun other hother => ?_, hafter⟩
      rcases List.mem_append.1 hother with hother | hother
      · exact h.deployed other hother
      · rw [List.mem_singleton.1 hother]
        exact (ReplicatedTable.create_ok hfirst).deployed
  | act number action =>
    simp only [Fleet.step, h.tables]
    cases hget : direct.tables[number]? with
    | none => exact ⟨rfl, h⟩
    | some t =>
      have ht := h.deployed t (List.mem_of_getElem? hget)
      obtain ⟨hreply, htable, hafter⟩ := LiveTable.act_linked ht h.linked hroomy action
      refine ⟨hreply, congrArg (direct.tables.set number) htable, fun other hother => ?_, hafter⟩
      rcases List.mem_or_eq_of_mem_set hother with hother | rfl
      · exact h.deployed other hother
      · exact LiveTable.deployed_act ht action
  | drop number =>
    simp only [Fleet.step, h.tables]
    cases hget : direct.tables[number]? with
    | none => exact ⟨rfl, h⟩
    | some t =>
      have hrelease : ∀ registry, t.release registry = t.ids.foldl Registry.unregister registry :=
        fun registry => List.foldl_map.symm
      refine ⟨rfl, rfl, fun other hother => h.deployed other (List.mem_of_mem_eraseIdx hother), ?_⟩
      simp only [hrelease]
      exact ReplicatedTable.unregisterAll_mirrors (fun id _ _ _ hK => hK.unregister id) h.linked
  | damage files => exact ⟨rfl, h.tables, h.deployed, h.linked.withFiles files⟩

/-- Every step of a run is taken while the files have numbers of bytes of 64 bits. -/
def StaysRoomy (fleet : Fleet) (steps : List Step) : Prop :=
  Throughout next (fun fleet _ => fleet.cluster.files.Roomy) fleet steps

instance (fleet : Fleet) (steps : List Step) : Decidable (fleet.StaysRoomy steps) :=
  inferInstanceAs (Decidable (Throughout ..))

/-- Paired fleets have the same runs, but for the text of store errors. -/
theorem trace_paired (h : direct.Paired remote) {steps : List Step}
    (hroomy : direct.StaysRoomy steps) :
    remote.trace steps = (direct.trace steps).map fun seen => (seen.1.relayed, seen.2) := by
  induction steps generalizing direct remote with
  | nil => rfl
  | cons step rest ih =>
    obtain ⟨hreply, hafter⟩ := step_paired h hroomy.1 step
    have hview : (remote.next step).view = (direct.next step).view := hafter.view_eq
    have hrest := ih hafter hroomy.2
    rw [trace, trace, List.map_cons, hreply, hview]
    exact congrArg _ hrest

/-- **The transports agree.**  Over a network whose first attempt at every call is answered, any
run sees the same tables, files and numbers of registered replicas as with direct calls, and gets
the same answers, but for the text of store errors.  The files stay below 2 ^ 64 bytes, so that
positions of rows are numbers of 64 bits. -/
theorem transports_agree {link : Link} (hlink : link 0 = .answered) (attempts : Nat)
    (files : FileSystem) {steps : List Step}
    (hroomy : (idle .direct files).StaysRoomy steps) :
    (idle (.remote link attempts) files).trace steps =
      ((idle .direct files).trace steps).map fun seen => (seen.1.relayed, seen.2) := by
  have hpaired : (idle .direct files).Paired (idle (.remote link attempts) files) :=
    ⟨rfl, by simp [idle], rfl, Registry.hosts_empty hlink attempts, Registry.placed_direct⟩
  exact trace_paired hpaired hroomy

/-- A directory stands where the second copy of the tally was. -/
def spoiledFiles : FileSystem :=
  ((FileSystem.empty.set ["data"] .directory).set ["data", "tally-NoSQL-0-0.csv"]
    (.file "apples,4,\n".toUTF8)).set ["data", "tally-NoSQL-0-1.csv"] .directory

/-- A tally is kept in two copies.  The second one is spoiled before an update, and then the first
one is stopped. -/
def tally : List Step :=
  [.create ⟨"tally", .noSql, none⟩ 2 .single ⟨["data"], 1000⟩,
    .act 0 (.write (.insertion "tally" ["apples"] ["4"])), .damage spoiledFiles,
    .act 0 (.write (.assignment "tally" ["apples"] ["5"] ⟨"apples", "4"⟩)), .act 0 .select,
    .act 0 (.stop 0 0), .act 0 .select, .drop 0]

/-- The update fails for the spoiled copy, and the network wraps the text of its error. -/
theorem transports_agree_tally :
    Link.up 0 = .answered ∧ (idle .direct .empty).StaysRoomy tally ∧
      (idle (.remote .up 3) .empty).trace tally =
        ((idle .direct .empty).trace tally).map (fun seen => (seen.1.relayed, seen.2)) ∧
      ((idle (.remote .up 3) .empty).trace tally)[3]?.map Prod.fst =
        some (.summary (.ok ⟨1, 2, [⟨"tally-NoSQL-0-1",
          .store "Store failure on replica: IO error: Is a directory (os error 21)"⟩]⟩)) := by
  have hlink : Link.up 0 = .answered := rfl
  have hroomy : (idle .direct .empty).StaysRoomy tally := by decide +kernel
  have hagree := transports_agree hlink 3 .empty hroomy
  refine ⟨hlink, hroomy, hagree, ?_⟩
  rw [hagree]
  decide +kernel

end Fleet

end TableStore
