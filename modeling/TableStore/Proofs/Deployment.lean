import Mathlib.Data.List.Nodup
import TableStore.Proofs.Routing
import TableStore.Proofs.Transport
import TableStore.ReplicatedTable.Basic

/-!
# Tables in service

What creation establishes for a table, and what stays true of it while its replicas come and go.

* `Deployed` is about the table alone: its layout was checked, every partition has the same number
  of replicas, and every replica has a store of its own with the columns of its partition.
* `KnownTo` is about the registry: it only leads to the table's own nodes.  It may lead to fewer
  nodes than there are.
* `Keeps held` is about the cluster: the registry knows the table, and the file of every replica has
  the text that `held` gives.  `Attends` adds that calls are answered and that no file is reported
  as missing, `Serves` that reading never fails.
* `create_ok` establishes all of them, with every node registered and every file as new.  Heartbeat
  rounds, stops and starts keep them.
* `Spares key` is about what the tables of a coordinator share: all is as before but for the
  replicas of one table.  Creation is such a step whether it succeeds or not.
-/

namespace TableStore

open FileSystem (Frame)
open RecordStore (initialText)

/-! ## What tables share -/

/-- The step from one cluster to another leaves alone all replicas but those that are `touched`:
the registry leads to the same nodes, and the files have the same contents. -/
structure Cluster.Spares (touched : ReplicaId → Prop) (cluster cluster' : Cluster) : Prop where
  registered : ∀ id, ¬ touched id → cluster'.registry.get? id = cluster.registry.get? id
  responds : cluster'.registry.Responds ↔ cluster.registry.Responds
  contains : ∀ id, ¬ touched id → id.IsValid → ∀ path content,
    path.getLast? = some id.fileName → cluster.files.Contains path content →
      cluster'.files.Contains path content
  faults : cluster'.files.faults = cluster.files.faults

namespace Cluster.Spares

variable {touched touched' : ReplicaId → Prop} {cluster cluster' cluster'' : Cluster}

theorem refl (touched : ReplicaId → Prop) (cluster : Cluster) : Spares touched cluster cluster :=
  ⟨fun _ _ => rfl, Iff.rfl, fun _ _ _ _ _ _ h => h, rfl⟩

theorem trans (h : Spares touched cluster cluster') (h' : Spares touched cluster' cluster'') :
    Spares touched cluster cluster'' where
  registered id hid := (h'.registered id hid).trans (h.registered id hid)
  responds := h'.responds.trans h.responds
  contains id hid hvalid _ _ hlast hfile :=
    h'.contains id hid hvalid _ _ hlast (h.contains id hid hvalid _ _ hlast hfile)
  faults := h'.faults.trans h.faults

theorem mono (h : Spares touched cluster cluster') (hsub : ∀ id, touched id → touched' id) :
    Spares touched' cluster cluster' where
  registered id hid := h.registered id fun htouched => hid (hsub id htouched)
  responds := h.responds
  contains id hid := h.contains id fun htouched => hid (hsub id htouched)
  faults := h.faults

/-- A change under names that no other replica writes under. -/
theorem of_frame {registry : Registry} {files files' : FileSystem} {names : List String}
    (hframe : Frame names files files')
    (hout : ∀ id : ReplicaId, ¬ touched id → id.IsValid → id.fileName ∉ names) :
    Spares touched ⟨registry, files⟩ ⟨registry, files'⟩ where
  registered _ _ := rfl
  responds := Iff.rfl
  contains id hid hvalid _ _ hlast hfile :=
    hfile.frame hframe hlast (ReplicaId.isName_fileName id) (hout id hid hvalid)
  faults := hframe.faults

theorem register (registry : Registry) (files : FileSystem) {node : StorageNode}
    (h : touched node.id) : Spares touched ⟨registry, files⟩ ⟨registry.register node, files⟩ where
  registered id hid := by
    have hne : id ≠ node.id := fun heq => hid (heq ▸ h)
    rw [Registry.get?_register, if_neg hne]
  responds := Registry.responds_register registry node
  contains _ _ _ _ _ _ hfile := hfile
  faults := rfl

theorem unregister (registry : Registry) (files : FileSystem) {removed : ReplicaId}
    (h : touched removed) :
    Spares touched ⟨registry, files⟩ ⟨registry.unregister removed, files⟩ where
  registered id hid := by
    have hne : id ≠ removed := fun heq => hid (heq ▸ h)
    rw [Registry.get?_unregister, if_neg hne]
  responds := Registry.responds_unregister registry removed
  contains _ _ _ _ _ _ hfile := hfile
  faults := rfl

theorem unregisterAll (registry : Registry) (files : FileSystem) {removed : List ReplicaId}
    (h : ∀ id ∈ removed, touched id) : Spares touched ⟨registry, files⟩
      ⟨removed.foldl Registry.unregister registry, files⟩ := by
  induction removed generalizing registry with
  | nil => exact refl _ _
  | cons id rest ih =>
    obtain ⟨hid, hrest⟩ := List.forall_mem_cons.1 h
    exact (unregister registry files hid).trans (ih _ hrest)

end Cluster.Spares

/-! ## The nodes of a table -/

namespace ReplicatedTable

/-- The nodes of a partition in the order of its replicas. -/
def nodes (t : ReplicatedTable) (partition : Nat) : List StorageNode :=
  (t.replicas partition).map Replica.node

/-- What is true of a table from its creation on. -/
structure Deployed (t : ReplicatedTable) : Prop where
  validName : t.table.hasValidName = true
  layout : t.router.layout.check t.table = .ok ()
  ids : ∃ count, 0 < count ∧ ∀ partition, (t.nodes partition).map StorageNode.id =
    if partition < t.router.partitionCount then replicaIds t.table count partition else []
  paths : ∀ partition, ∀ node ∈ t.nodes partition,
    node.store.path.getLast? = some node.id.fileName
  columns : ∀ partition, ∀ node ∈ t.nodes partition,
    node.store.columns = storeColumns t.table t.router partition

theorem nodup_replicaIds (table : TableDef) (count partition : Nat) :
    (replicaIds table count partition).Nodup := by
  refine List.Nodup.map (fun a b h => ?_) List.nodup_range
  exact congrArg ReplicaId.replica h

namespace Deployed

variable {t : ReplicatedTable} (ht : t.Deployed)
include ht

/-- The identity of a node tells its table, its partition and its number. -/
theorem exists_id {partition : Nat} {node : StorageNode} (h : node ∈ t.nodes partition) :
    ∃ replica, node.id = .ofTable t.table partition replica := by
  obtain ⟨count, -, hids⟩ := ht.ids
  have hmem : node.id ∈ (t.nodes partition).map StorageNode.id := List.mem_map_of_mem h
  rw [hids] at hmem
  split at hmem
  · obtain ⟨replica, -, hid⟩ := List.mem_map.1 hmem
    exact ⟨replica, hid.symm⟩
  · simp at hmem

theorem partition_eq {partition : Nat} {node : StorageNode} (h : node ∈ t.nodes partition) :
    node.id.partition = partition := by
  obtain ⟨replica, hid⟩ := ht.exists_id h
  rw [hid]
  rfl

theorem isValid {partition : Nat} {node : StorageNode} (h : node ∈ t.nodes partition) :
    node.id.IsValid := by
  obtain ⟨replica, hid⟩ := ht.exists_id h
  rw [hid]
  exact ReplicaId.isValid_of_hasValidName ht.validName partition replica

theorem key_eq {partition : Nat} {node : StorageNode} (h : node ∈ t.nodes partition) :
    node.id.key = t.table.key := by
  obtain ⟨replica, hid⟩ := ht.exists_id h
  rw [hid, ReplicaId.key_ofTable]

theorem nodup (partition : Nat) : ((t.nodes partition).map StorageNode.id).Nodup := by
  obtain ⟨count, -, hids⟩ := ht.ids
  rw [hids]
  split
  · exact nodup_replicaIds _ _ _
  · exact List.nodup_nil

/-- No two nodes have the same identity. -/
theorem node_inj {partition partition' : Nat} {node node' : StorageNode}
    (h : node ∈ t.nodes partition) (h' : node' ∈ t.nodes partition') (hid : node.id = node'.id) :
    node = node' := by
  obtain rfl : partition = partition' := by
    rw [← ht.partition_eq h, ← ht.partition_eq h', hid]
  exact List.inj_on_of_nodup_map (ht.nodup partition) h h' hid

/-- Every partition of the layout has a node. -/
theorem nodes_ne_nil {partition : Nat} (h : partition < t.router.partitionCount) :
    t.nodes partition ≠ [] := by
  obtain ⟨count, hcount, hids⟩ := ht.ids
  intro hnil
  have hempty := hids partition
  rw [hnil, if_pos h] at hempty
  have hlength := congrArg List.length hempty
  simp [replicaIds] at hlength
  omega

theorem lt_partitionCount {partition : Nat} {node : StorageNode} (h : node ∈ t.nodes partition) :
    partition < t.router.partitionCount := by
  obtain ⟨count, -, hids⟩ := ht.ids
  by_contra hout
  have hempty := hids partition
  rw [if_neg hout, List.map_eq_nil_iff] at hempty
  simp [hempty] at h

end Deployed

/-! ## The registry of a table -/

/-- The registry leads to a node of the table, or to none, where the table has one. -/
def KnownTo (t : ReplicatedTable) (registry : Registry) : Prop :=
  ∀ partition, ∀ node ∈ t.nodes partition,
    registry.get? node.id = none ∨ registry.get? node.id = some node

namespace KnownTo

variable {t : ReplicatedTable} {registry registry' : Registry}

/-- A node that the registry leads to in the place of one of the table's is the table's. -/
theorem node_eq (h : t.KnownTo registry) {partition : Nat} {node found : StorageNode}
    (hnode : node ∈ t.nodes partition) (hfound : registry.get? node.id = some found) :
    found = node := by
  rcases h partition node hnode with hnone | hsome
  · simp [hnone] at hfound
  · simpa [hsome] using hfound.symm

/-- A registry that leads to no other nodes than before still knows a table. -/
theorem of_same (h : t.KnownTo registry)
    (hsame : ∀ partition, ∀ node ∈ t.nodes partition,
      registry'.get? node.id = none ∨ registry'.get? node.id = registry.get? node.id) :
    t.KnownTo registry' := by
  intro partition node hnode
  rcases hsame partition node hnode with hnone | hkept
  · exact Or.inl hnone
  · rw [hkept]
    exact h partition node hnode

/-- A registry still knows a table whose replicas are spared. -/
theorem of_spares {cluster cluster' : Cluster} (h : t.KnownTo cluster.registry)
    {touched : ReplicaId → Prop} (hspares : cluster.Spares touched cluster')
    (hout : ∀ partition, ∀ node ∈ t.nodes partition, ¬ touched node.id) :
    t.KnownTo cluster'.registry :=
  h.of_same fun partition node hnode =>
    Or.inr (hspares.registered node.id (hout partition node hnode))

end KnownTo

/-! ## The cluster of a table -/

/-- What a cluster keeps for a table: `held` gives the text of every replica's file. -/
structure Keeps (t : ReplicatedTable) (held : ReplicaId → String) (cluster : Cluster) :
    Prop where
  registered : t.KnownTo cluster.registry
  holds : ∀ partition, ∀ node ∈ t.nodes partition,
    cluster.files.Holds node.store.path (held node.id)

/-- The cluster answers calls, and no file is reported as missing. -/
structure Attends (t : ReplicatedTable) (held : ReplicaId → String) (cluster : Cluster) :
    Prop extends Keeps t held cluster where
  responds : cluster.registry.Responds
  intact : cluster.files.Intact

/-- The cluster answers calls, and reading never fails. -/
structure Serves (t : ReplicatedTable) (held : ReplicaId → String) (cluster : Cluster) :
    Prop extends Attends t held cluster where
  readable : cluster.files.Readable

section

variable {t : ReplicatedTable} {held : ReplicaId → String} {cluster : Cluster}

theorem Keeps.serves (h : t.Keeps held cluster) (hresponds : cluster.registry.Responds)
    (hreads : cluster.files.Readable) : t.Serves held cluster :=
  ⟨⟨h, hresponds, hreads.intact⟩, hreads⟩

/-- What spares the replicas of a table keeps it. -/
theorem Keeps.of_spares (ht : t.Deployed) (h : t.Keeps held cluster) {touched : ReplicaId → Prop}
    {cluster' : Cluster} (hspares : cluster.Spares touched cluster')
    (hout : ∀ partition, ∀ node ∈ t.nodes partition, ¬ touched node.id) :
    t.Keeps held cluster' where
  registered := h.registered.of_spares hspares hout
  holds partition node hnode :=
    hspares.contains node.id (hout partition node hnode) (ht.isValid hnode) _ _
      (ht.paths partition node hnode) (h.holds partition node hnode)

end

/-! ## Heartbeat rounds, stops and starts -/

theorem replicas_beat (t : ReplicatedTable) (cluster : Cluster) (partition : Nat) :
    (t.beat cluster).replicas partition = (t.replicas partition).map (Replica.beat cluster) := by
  simp only [replicas, beat, List.getElem?_map]
  cases t.partitions[partition]? <;> rfl

@[simp] theorem nodes_beat (t : ReplicatedTable) (cluster : Cluster) (partition : Nat) :
    (t.beat cluster).nodes partition = t.nodes partition := by
  rw [nodes, replicas_beat, List.map_map]
  rfl

theorem Deployed.beat {t : ReplicatedTable} (ht : t.Deployed) (cluster : Cluster) :
    (t.beat cluster).Deployed where
  validName := ht.validName
  layout := ht.layout
  ids := by
    simp only [nodes_beat]
    exact ht.ids
  paths := by simpa using ht.paths
  columns partition node hnode := ht.columns partition node (by simpa using hnode)

theorem KnownTo.beat {t : ReplicatedTable} {registry : Registry} (h : t.KnownTo registry)
    (cluster : Cluster) : (t.beat cluster).KnownTo registry := by
  intro partition node hnode
  rw [nodes_beat] at hnode
  exact h partition node hnode

theorem Keeps.beat {t : ReplicatedTable} {held : ReplicaId → String} {cluster : Cluster}
    (h : t.Keeps held cluster) (cluster' : Cluster) : (t.beat cluster').Keeps held cluster where
  registered := h.registered.beat cluster'
  holds := by simpa using h.holds

theorem Serves.beat {t : ReplicatedTable} {held : ReplicaId → String} {cluster : Cluster}
    (hs : t.Serves held cluster) (cluster' : Cluster) : (t.beat cluster').Serves held cluster :=
  (hs.toKeeps.beat cluster').serves hs.responds hs.readable

/-- A heartbeat round finds alive the replicas that are registered, if the network delivers. -/
theorem alive_beat {cluster : Cluster} {replica : Replica} (hvalid : replica.node.id.IsValid) :
    (replica.beat cluster).alive = true ↔
      cluster.registry.Responds ∧ cluster.registry.reaches replica.id = true :=
  Registry.heartbeat_isOk hvalid cluster.files

/-- The replica that a stop or start is about is one of the table's. -/
theorem mem_nodes_of_lookup {t : ReplicatedTable} {partition replica : Nat} {found : Replica}
    (h : t.lookup partition replica = .ok found) : found.node ∈ t.nodes partition := by
  unfold lookup at h
  split at h
  · next other hother =>
    obtain rfl : other = found := by simpa using h
    exact List.mem_map_of_mem (List.mem_of_getElem? hother)
  · simp at h

/-- A stop takes one of the table's nodes out of the registry. -/
theorem stop_ok {t : ReplicatedTable} {partition replica : Nat} {registry registry' : Registry}
    (h : t.stop partition replica registry = .ok registry') :
    ∃ node ∈ t.nodes partition, registry' = registry.unregister node.id := by
  unfold ReplicatedTable.stop at h
  cases hfound : t.lookup partition replica with
  | error e => simp [hfound, Except.map] at h
  | ok found =>
    obtain rfl : registry.unregister found.id = registry' := by
      simpa [hfound, Except.map] using h
    exact ⟨found.node, mem_nodes_of_lookup hfound, rfl⟩

/-- A start puts one of the table's nodes into the registry. -/
theorem start_ok {t : ReplicatedTable} {partition replica : Nat} {registry registry' : Registry}
    (h : t.start partition replica registry = .ok registry') :
    ∃ node ∈ t.nodes partition, registry' = registry.register node := by
  unfold ReplicatedTable.start at h
  cases hfound : t.lookup partition replica with
  | error e => simp [hfound, Except.map] at h
  | ok found =>
    obtain rfl : registry.register found.node = registry' := by
      simpa [hfound, Except.map] using h
    exact ⟨found.node, mem_nodes_of_lookup hfound, rfl⟩

section

variable {t : ReplicatedTable} {held : ReplicaId → String} {cluster : Cluster}
  {partition replica : Nat} {registry : Registry}

theorem KnownTo.stop (hk : t.KnownTo cluster.registry)
    (h : t.stop partition replica cluster.registry = .ok registry) : t.KnownTo registry := by
  obtain ⟨stopped, -, rfl⟩ := stop_ok h
  refine hk.of_same fun other node hnode => ?_
  rw [Registry.get?_unregister]
  split
  · exact Or.inl rfl
  · exact Or.inr rfl

theorem KnownTo.start (ht : t.Deployed) (hk : t.KnownTo cluster.registry)
    (h : t.start partition replica cluster.registry = .ok registry) : t.KnownTo registry := by
  obtain ⟨started, hstarted, rfl⟩ := start_ok h
  intro other node hnode
  rw [Registry.get?_register]
  split
  · next hid => exact Or.inr (by rw [ht.node_inj hnode hstarted hid])
  · exact hk other node hnode

theorem Keeps.stop (hk : t.Keeps held cluster)
    (h : t.stop partition replica cluster.registry = .ok registry) :
    t.Keeps held { cluster with registry } := ⟨hk.registered.stop h, hk.holds⟩

theorem Keeps.start (ht : t.Deployed) (hk : t.Keeps held cluster)
    (h : t.start partition replica cluster.registry = .ok registry) :
    t.Keeps held { cluster with registry } := ⟨hk.registered.start ht h, hk.holds⟩

theorem Serves.stop (hs : t.Serves held cluster)
    (h : t.stop partition replica cluster.registry = .ok registry) :
    t.Serves held { cluster with registry } := by
  have hk := hs.toKeeps.stop h
  obtain ⟨stopped, -, rfl⟩ := stop_ok h
  exact hk.serves ((Registry.responds_unregister _ _).2 hs.responds) hs.readable

theorem Serves.start (ht : t.Deployed) (hs : t.Serves held cluster)
    (h : t.start partition replica cluster.registry = .ok registry) :
    t.Serves held { cluster with registry } := by
  have hk := hs.toKeeps.start ht h
  obtain ⟨started, -, rfl⟩ := start_ok h
  exact hk.serves ((Registry.responds_register _ _).2 hs.responds) hs.readable

end

/-! ## Creation -/

/-- Creating one node writes its file. -/
theorem spares_createNode (registry : Registry) (dataDir : Path)
    (columns : Option (List String)) (files : FileSystem) {id : ReplicaId} (h : id.IsValid) :
    Cluster.Spares (· = id) ⟨registry, files⟩
      ⟨registry, (StorageNode.create id dataDir columns files).2⟩ := by
  have hframe := RecordStore.frame_create columns files
    (ReplicaId.getLast?_join_fileName h dataDir) (ReplicaId.isName_fileName id)
  have hfiles : (StorageNode.create id dataDir columns files).2 =
      (RecordStore.create (dataDir.join (Path.ofText id.fileName)) columns files).2 := by
    unfold StorageNode.create
    split <;> rename_i heq <;> rw [heq]
  rw [hfiles]
  refine .of_frame hframe fun other hother _ hmem => hother ?_
  exact ReplicaId.fileName_injective (List.mem_singleton.1 hmem)

/-- A node that was created has the identity asked for, and a store in the file named for it. -/
theorem node_of_create {id : ReplicaId} {dataDir : Path} {columns : Option (List String)}
    {files files' : FileSystem} {node : StorageNode}
    (h : StorageNode.create id dataDir columns files = (.ok node, files')) :
    node = ⟨id, dataDir.join (Path.ofText id.fileName), columns⟩ := by
  unfold StorageNode.create at h
  split at h
  · simp at h
  · next store files hstore =>
    obtain ⟨rfl, -⟩ : _ ∧ _ := by simpa using h
    rw [(RecordStore.create_ok hstore).1]

theorem id_of_create {id : ReplicaId} {dataDir : Path} {columns : Option (List String)}
    {files files' : FileSystem} {node : StorageNode}
    (h : StorageNode.create id dataDir columns files = (.ok node, files')) : node.id = id := by
  rw [node_of_create h]

/-- Whether it fails or not, the creation of nodes touches the replicas asked for only, and a
failure lists some of them. -/
theorem spares_createNodes {dataDir : Path} {columns : ReplicaId → Option (List String)}
    {ids : List ReplicaId} {cluster cluster' : Cluster}
    {reply : Except (StoreError × List ReplicaId) (List StorageNode)}
    (hvalid : ∀ id ∈ ids, id.IsValid)
    (h : createNodes dataDir columns ids cluster = (reply, cluster')) :
    cluster.Spares (· ∈ ids) cluster' ∧
      ∀ e registered, reply = .error (e, registered) → ∀ id ∈ registered, id ∈ ids := by
  induction ids generalizing cluster cluster' reply with
  | nil =>
    obtain ⟨rfl, rfl⟩ : .ok [] = reply ∧ cluster = cluster' := by simpa [createNodes] using h
    exact ⟨.refl _ _, by simp⟩
  | cons id rest ih =>
    obtain ⟨hid, hrest⟩ := List.forall_mem_cons.1 hvalid
    have hfirst : Cluster.Spares (· ∈ id :: rest) cluster
        ⟨cluster.registry, (StorageNode.create id dataDir (columns id) cluster.files).2⟩ :=
      (spares_createNode cluster.registry dataDir (columns id) cluster.files hid).mono (by simp)
    rw [createNodes] at h
    split at h <;> rename_i hcreate <;> rw [hcreate] at hfirst
    · obtain ⟨rfl, rfl⟩ : _ ∧ _ := by simpa using h
      exact ⟨hfirst, by simp⟩
    · next node files =>
      have hmem : node.id ∈ id :: rest := by
        rw [id_of_create hcreate]
        exact List.mem_cons_self
      have hregister : Cluster.Spares (· ∈ id :: rest) ⟨cluster.registry, files⟩
          ⟨cluster.registry.register node, files⟩ := .register _ _ hmem
      split at h <;> rename_i hothers <;> obtain ⟨rfl, rfl⟩ : _ ∧ _ := by simpa using h
      · obtain ⟨hspares, hlisted⟩ := ih hrest hothers
        refine ⟨(hfirst.trans hregister).trans (hspares.mono fun _ => List.mem_cons_of_mem _), ?_⟩
        rintro e registered heq
        obtain ⟨-, rfl⟩ : _ ∧ _ := by simpa using heq
        exact List.forall_mem_cons.2 ⟨List.mem_cons_self,
          fun other hother => List.mem_cons_of_mem _ (hlisted _ _ rfl other hother)⟩
      · obtain ⟨hspares, -⟩ := ih hrest hothers
        exact ⟨(hfirst.trans hregister).trans (hspares.mono fun _ => List.mem_cons_of_mem _),
          by simp⟩

/-- The nodes that were created have the identities asked for; each is registered, and its file
is that of a new store. -/
theorem createNodes_ok {dataDir : Path} {columns : ReplicaId → Option (List String)}
    {ids : List ReplicaId} {cluster cluster' : Cluster} {created : List StorageNode}
    (hvalid : ∀ id ∈ ids, id.IsValid) (hnodup : ids.Nodup)
    (h : createNodes dataDir columns ids cluster = (.ok created, cluster')) :
    created.map StorageNode.id = ids ∧
      ∀ node ∈ created,
        node.store.path.getLast? = some node.id.fileName ∧
        node.store.columns = columns node.id ∧
        cluster'.registry.get? node.id = some node ∧
        cluster'.files.Holds node.store.path (initialText (columns node.id)) := by
  induction ids generalizing cluster created with
  | nil =>
    obtain ⟨rfl, rfl⟩ : [] = created ∧ cluster = cluster' := by simpa [createNodes] using h
    exact ⟨rfl, by simp⟩
  | cons id rest ih =>
    obtain ⟨hid, hrest⟩ := List.forall_mem_cons.1 hvalid
    obtain ⟨hfresh, hnodup⟩ := List.nodup_cons.1 hnodup
    have hlast := ReplicaId.getLast?_join_fileName hid dataDir
    simp only [createNodes, StorageNode.create] at h
    cases hcreate : RecordStore.create (dataDir.join (Path.ofText id.fileName)) (columns id)
      cluster.files with
    | mk reply files =>
      cases reply with
      | error e => simp [hcreate] at h
      | ok store =>
        obtain ⟨rfl, hheld⟩ := RecordStore.create_ok hcreate
        simp only [hcreate] at h
        split at h
        · simp at h
        · next others cluster'' hothers =>
          obtain ⟨rfl, rfl⟩ : _ ∧ cluster'' = cluster' := by simpa using h
          obtain ⟨hids, hcreated⟩ := ih hrest hnodup hothers
          -- the others are created elsewhere
          have hspares := (spares_createNodes hrest hothers).1
          refine ⟨by simp [hids], List.forall_mem_cons.2 ⟨⟨hlast, rfl, ?_, ?_⟩, hcreated⟩⟩
          · rw [hspares.registered id hfresh]
            simp
          · exact hspares.contains id hfresh hid _ _ hlast hheld

/-- The identities of one partition among those of all. -/
theorem filter_replicaIds (table : TableDef) (count partition n : Nat) :
    ((List.range n).flatMap (replicaIds table count)).filter
        (fun id => id.partition = partition) =
      if partition < n then replicaIds table count partition else [] := by
  have hone : ∀ other, (replicaIds table count other).filter
      (fun id => id.partition = partition) =
        if other = partition then replicaIds table count partition else [] := by
    intro other
    split
    · next heq =>
      subst heq
      exact List.filter_eq_self.2 (by simp [replicaIds, ReplicaId.ofTable])
    · next hne => exact List.filter_eq_nil_iff.2 (by simp [replicaIds, ReplicaId.ofTable, hne])
  induction n with
  | zero => rfl
  | succ n ih =>
    rw [List.range_succ, List.flatMap_append, List.filter_append, ih]
    simp only [List.flatMap_cons, List.flatMap_nil, List.append_nil, hone]
    rcases Nat.lt_trichotomy partition n with hlt | rfl | hgt
    · simp [hlt, Nat.lt_succ_of_lt hlt, Nat.ne_of_gt hlt]
    · simp
    · simp [Nat.not_lt.2 (Nat.le_of_lt hgt), Nat.not_lt.2 (Nat.succ_le_of_lt hgt),
        Nat.ne_of_lt hgt]

theorem nodup_flatMap_replicaIds (table : TableDef) (count n : Nat) :
    ((List.range n).flatMap (replicaIds table count)).Nodup := by
  refine List.nodup_flatMap.2 ⟨fun _ _ => nodup_replicaIds _ _ _, ?_⟩
  refine List.nodup_range.imp fun {a b} hne => ?_
  intro id ha hb
  obtain ⟨_, -, rfl⟩ := List.mem_map.1 ha
  obtain ⟨_, -, hid⟩ := List.mem_map.1 hb
  exact hne (congrArg ReplicaId.partition hid).symm

theorem exists_of_mem_replicaIds {table : TableDef} {count : Nat} {partitions : List Nat}
    {id : ReplicaId} (h : id ∈ partitions.flatMap (replicaIds table count)) :
    ∃ partition replica, id = .ofTable table partition replica := by
  obtain ⟨partition, -, hid⟩ := List.mem_flatMap.1 h
  obtain ⟨replica, -, rfl⟩ := List.mem_map.1 hid
  exact ⟨partition, replica, rfl⟩

theorem isValid_of_mem_replicaIds {table : TableDef} {count : Nat} {partitions : List Nat}
    (h : table.hasValidName = true) {id : ReplicaId}
    (hid : id ∈ partitions.flatMap (replicaIds table count)) : id.IsValid := by
  obtain ⟨partition, replica, rfl⟩ := exists_of_mem_replicaIds hid
  exact ReplicaId.isValid_of_hasValidName h partition replica

/-- The nodes of a partition of a new table. -/
theorem nodes_ofNodes (table : TableDef) (router : Router) (created : List StorageNode)
    (partition : Nat) : (ofNodes table router created).nodes partition =
      if partition < router.partitionCount then
        created.filter fun node => node.id.partition = partition
      else [] := by
  simp only [nodes, replicas, ofNodes, Router.partitions, List.getElem?_map]
  split
  · next hlt => simp [List.getElem?_range hlt, Function.comp_def]
  · next hge => simp [hge]

theorem mem_of_mem_nodes_ofNodes {table : TableDef} {router : Router}
    {created : List StorageNode} {partition : Nat} {node : StorageNode}
    (h : node ∈ (ofNodes table router created).nodes partition) :
    node ∈ created ∧ node.id.partition = partition := by
  rw [nodes_ofNodes] at h
  split at h
  · simpa using h
  · simp at h

/-- If the nodes were created partition by partition, each finds its place. -/
theorem ids_ofNodes {table : TableDef} {router : Router} {created : List StorageNode} {count : Nat}
    (hids : created.map StorageNode.id = router.partitions.flatMap (replicaIds table count))
    (partition : Nat) :
    ((ofNodes table router created).nodes partition).map StorageNode.id =
      if partition < router.partitionCount then replicaIds table count partition else [] := by
  have hfilter := filter_replicaIds table count partition router.partitionCount
  rw [nodes_ofNodes]
  split
  · next hlt =>
    rw [if_pos hlt] at hfilter
    rw [← hfilter, ← Router.partitions, ← hids, List.filter_map]
    rfl
  · rfl

/-- The text of the file of a replica as created. -/
def newText (t : ReplicatedTable) (id : ReplicaId) : String :=
  initialText (storeColumns t.table t.router id.partition)

theorem valid_of_checkCreation {table : TableDef} {count : Nat} {settings : ReplicationSettings}
    (h : checkCreation table count settings = .ok ()) :
    0 < count ∧ table.hasValidName = true := by
  unfold checkCreation at h
  split at h
  · simp at h
  · next hcount =>
    split at h
    · simp at h
    · next hname => exact ⟨Nat.pos_of_ne_zero hcount, by simpa using hname⟩

/-- What the creation of a table with the given number of replicas establishes. -/
structure Created (table : TableDef) (count : Nat) (layout : Layout) (t : ReplicatedTable)
    (cluster : Cluster) : Prop where
  table : t.table = table
  router : t.router = ⟨layout⟩
  deployed : t.Deployed
  ids : ∀ partition, (t.nodes partition).map StorageNode.id =
    if partition < t.router.partitionCount then replicaIds t.table count partition else []
  keeps : t.Keeps t.newText cluster
  registered : ∀ partition, ∀ node ∈ t.nodes partition,
    cluster.registry.get? node.id = some node
  /-- The first heartbeat round found the replicas alive, unless the network does not deliver. -/
  alive : ∀ partition, ∀ replica ∈ t.replicas partition,
    (replica.alive = true ↔ cluster.registry.Responds)

theorem key_of_mem_replicaIds {table : TableDef} {count : Nat} {partitions : List Nat}
    {id : ReplicaId} (h : id ∈ partitions.flatMap (replicaIds table count)) :
    id.key = table.key := by
  obtain ⟨partition, replica, rfl⟩ := exists_of_mem_replicaIds h
  exact ReplicaId.key_ofTable table partition replica

/-- Whether it fails or not, the creation of a table touches its own replicas only. -/
theorem spares_create (table : TableDef) (count : Nat) (layout : Layout)
    (settings : ReplicationSettings) (cluster : Cluster) :
    cluster.Spares (·.key = table.key) (create table count layout settings cluster).2 := by
  unfold create
  split
  · exact .refl _ _
  · exact .refl _ _
  · next router hcheck hrouter =>
    obtain ⟨-, hname⟩ := valid_of_checkCreation hcheck
    have hdirs : Cluster.Spares (·.key = table.key) cluster
        { cluster with files := (cluster.files.createDirectories settings.dataDir).2 } :=
      .of_frame (FileSystem.frame_createDirectories cluster.files settings.dataDir) (by simp)
    split
    · next heq =>
      rw [heq] at hdirs
      exact hdirs
    · next files heq =>
      rw [heq] at hdirs
      have hvalid : ∀ id ∈ router.partitions.flatMap (replicaIds table count), id.IsValid :=
        fun id hid => isValid_of_mem_replicaIds hname hid
      have hnodes := fun reply cluster'
          (h : createNodes settings.dataDir (fun id => storeColumns table router id.partition)
            (router.partitions.flatMap (replicaIds table count)) { cluster with files } =
              (reply, cluster')) => spares_createNodes hvalid h
      simp only
      split
      · next e registered cluster' hcreated =>
        obtain ⟨hspares, hlisted⟩ := hnodes _ _ hcreated
        refine (hdirs.trans (hspares.mono fun id hid => key_of_mem_replicaIds hid)).trans ?_
        exact .unregisterAll cluster'.registry cluster'.files fun id hid =>
          key_of_mem_replicaIds (hlisted e registered rfl id hid)
      · next nodes cluster' hcreated =>
        exact hdirs.trans ((hnodes _ _ hcreated).1.mono fun id hid => key_of_mem_replicaIds hid)

/-- **A table that was created is in service, with all its nodes registered and its stores
empty.** -/
theorem create_ok {table : TableDef} {count : Nat} {layout : Layout}
    {settings : ReplicationSettings} {cluster cluster' : Cluster} {t : ReplicatedTable}
    (h : create table count layout settings cluster = (.ok t, cluster')) :
    Created table count layout t cluster' := by
  unfold create at h
  split at h
  · simp at h
  · simp at h
  · next router hcheck hrouter =>
    obtain ⟨rfl, hlayout⟩ := Router.check_of_create hrouter
    obtain ⟨hcount, hname⟩ := valid_of_checkCreation hcheck
    split at h
    · simp at h
    · next files hcreateDirs =>
      simp only at h
      split at h
      · simp at h
      · next created cluster'' hcreated =>
        obtain ⟨rfl, rfl⟩ : _ ∧ cluster'' = cluster' := by simpa using h
        have hvalid : ∀ id ∈ (Router.partitions ⟨layout⟩).flatMap (replicaIds table count),
            id.IsValid := fun id hid => isValid_of_mem_replicaIds hname hid
        obtain ⟨hids, hnodes⟩ :=
          createNodes_ok hvalid (nodup_flatMap_replicaIds _ _ _) hcreated
        have hmem : ∀ partition node,
            node ∈ ((ofNodes table ⟨layout⟩ created).beat cluster'').nodes partition →
            node ∈ created ∧ node.id.partition = partition := by
          intro partition node hnode
          rw [nodes_beat] at hnode
          exact mem_of_mem_nodes_ofNodes hnode
        have hplaces : ∀ partition,
            (((ofNodes table ⟨layout⟩ created).beat cluster'').nodes partition).map
              StorageNode.id = if partition < Router.partitionCount ⟨layout⟩
                then replicaIds table count partition else [] := by
          intro partition
          rw [nodes_beat]
          exact ids_ofNodes hids partition
        have hregistered : ∀ partition,
            ∀ node ∈ ((ofNodes table ⟨layout⟩ created).beat cluster'').nodes partition,
              cluster''.registry.get? node.id = some node :=
          fun partition node hnode => (hnodes node (hmem _ _ hnode).1).2.2.1
        refine ⟨rfl, rfl, ⟨hname, hlayout, ⟨count, hcount, hplaces⟩,
          fun partition node hnode => (hnodes node (hmem _ _ hnode).1).1, ?_⟩, hplaces,
          ⟨fun partition node hnode => Or.inr (hregistered partition node hnode),
            fun partition node hnode => (hnodes node (hmem _ _ hnode).1).2.2.2⟩, hregistered, ?_⟩
        · intro partition node hnode
          obtain ⟨hcreated, rfl⟩ := hmem _ _ hnode
          exact (hnodes node hcreated).2.1
        · intro partition replica hreplica
          have hnode := List.mem_map_of_mem (f := Replica.node) hreplica
          rw [replicas_beat] at hreplica
          obtain ⟨first, hfirst, rfl⟩ := List.mem_map.1 hreplica
          have hget := hregistered partition _ hnode
          have hreaches : cluster''.registry.reaches first.id = true := by
            have hsome : cluster''.registry.get? first.id = some first.node := hget
            simp [Registry.reaches, hsome]
          rw [alive_beat (hvalid _ (hids ▸ List.mem_map_of_mem (hmem _ _ hnode).1))]
          simp [hreaches]

/-- A table that was created in a readable cluster is served by it. -/
theorem create_serves {table : TableDef} {count : Nat} {layout : Layout}
    {settings : ReplicationSettings} {cluster cluster' : Cluster} {t : ReplicatedTable}
    (hresponds : cluster.registry.Responds) (hreads : cluster.files.Readable)
    (h : create table count layout settings cluster = (.ok t, cluster')) :
    t.Serves t.newText cluster' := by
  have hspares := spares_create table count layout settings cluster
  rw [h] at hspares
  exact (create_ok h).keeps.serves (hspares.responds.2 hresponds)
    (hreads.of_faults hspares.faults)

end ReplicatedTable

end TableStore
