import TableStore.Proofs.SharedFiles
import TableStore.Proofs.SideBySide

/-!
# Two clusters with one table in common

Two clusters have a table in common if they lead its calls the same way to the same nodes, and its
files are the same in both.  What is done to the table has the same results in both, and they have
the table in common afterwards.  What is done to another table in one of them does not matter.

* `ownNames key` says which names of files belong to a table.  No name belongs to two tables.
* `Cluster.Shares` is the relation.  `Cluster.Joined` says that it will be true when the directory
  of the files is made: it need not be there before there are tables.
* `write_shared`, `select_shared`, `beat_shared` and `create_shared` are about the table itself,
  `write_other` and `create_other` about other tables.
-/

namespace TableStore

open FileSystem (Shared Confined LiesIn)

/-! ## Names of a table -/

/-- The names of the files of a table's replicas and of their temporary files. -/
def ownNames (key : String) (scratch : Uuid) (name : String) : Prop :=
  ∃ id : ReplicaId, id.key = key ∧ id.IsValid ∧ name ∈ id.names scratch

/-- The names of other tables do not belong to the table. -/
theorem not_ownNames {key : String} {id : ReplicaId} (hvalid : id.IsValid) (hkey : id.key ≠ key)
    {scratch : Uuid} {name : String} (hname : name ∈ id.names scratch) :
    ¬ ownNames key scratch name := by
  rintro ⟨own, hown, hvalid', hmem⟩
  have hne : id ≠ own := fun heq => hkey (heq ▸ hown)
  exact ReplicaId.names_disjoint hvalid hvalid' hne scratch hname hmem

/-! ## Clusters -/

/-- Both clusters lead calls on the table's replicas the same way to the same nodes, and hold the
same files of the table in the directory of the path `dir`. -/
structure Cluster.Shares (key : String) (dir place : Path) (scratch : Uuid)
    (cluster cluster' : Cluster) : Prop where
  way : cluster.registry.SameWay cluster'.registry
  registered : ∀ id : ReplicaId, id.key = key →
    cluster'.registry.get? id = cluster.registry.get? id
  files : Shared dir place (ownNames key scratch) cluster.files cluster'.files
  scratch : cluster.files.scratch = scratch

namespace Cluster.Shares

variable {key : String} {dir place : Path} {scratch : Uuid} {cluster cluster' : Cluster}
  (h : Shares key dir place scratch cluster cluster')
include h

theorem register (node : StorageNode) :
    Shares key dir place scratch { cluster with registry := cluster.registry.register node }
      { cluster' with registry := cluster'.registry.register node } where
  way := (h.way.register node).1.register node |>.2
  registered id hid := by simp only [Registry.get?_register, h.registered id hid]
  files := h.files
  scratch := h.scratch

theorem unregister (id : ReplicaId) :
    Shares key dir place scratch { cluster with registry := cluster.registry.unregister id }
      { cluster' with registry := cluster'.registry.unregister id } where
  way := (h.way.unregister id).1.unregister id |>.2
  registered other hother := by simp only [Registry.get?_unregister, h.registered other hother]
  files := h.files
  scratch := h.scratch

/-- Registering the node of another table changes nothing in common. -/
theorem register_other {node : StorageNode} (hkey : node.id.key ≠ key) :
    Shares key dir place scratch { cluster with registry := cluster.registry.register node }
      cluster' where
  way := (h.way.register node).1
  registered id hid := by
    have hne : id ≠ node.id := fun heq => hkey (heq ▸ hid)
    rw [Registry.get?_register, if_neg hne, h.registered id hid]
  files := h.files
  scratch := h.scratch

/-- Unregistering a replica of another table changes nothing in common. -/
theorem unregister_other {removed : ReplicaId} (hkey : removed.key ≠ key) :
    Shares key dir place scratch { cluster with registry := cluster.registry.unregister removed }
      cluster' where
  way := (h.way.unregister removed).1
  registered id hid := by
    have hne : id ≠ removed := fun heq => hkey (heq ▸ hid)
    rw [Registry.get?_unregister, if_neg hne, h.registered id hid]
  files := h.files
  scratch := h.scratch

/-- What is done under names of another replica changes nothing in common. -/
theorem of_confined {id : ReplicaId} (hvalid : id.IsValid) (hkey : id.key ≠ key)
    {names : List String} (hnames : ∀ name ∈ names, name ∈ id.names scratch) {files : FileSystem}
    (hconfined : Confined names cluster.files files) :
    Shares key dir place scratch { cluster with files } cluster' where
  way := h.way
  registered := h.registered
  files := h.files.of_confined hconfined fun name hname =>
    not_ownNames hvalid hkey (hnames name hname)
  scratch := hconfined.forth.scratch.trans h.scratch

/-- A heartbeat is answered in both clusters or in none. -/
theorem heartbeat_isOk {id : ReplicaId} (hvalid : id.IsValid) (hkey : id.key = key) :
    (cluster'.registry.call id .heartbeat cluster'.files).1.isOk =
      (cluster.registry.call id .heartbeat cluster.files).1.isOk :=
  congrArg Except.isOk (sameOutcome_call h.way hvalid (h.registered id hkey)
    (fun _ _ _ _ hshared => ⟨rfl, hshared⟩) h.files).1

end Cluster.Shares

/-! ## Before the directory is made -/

/-- Both clusters share the table, or would share it once the directory of the path `dir` is made.
Making it comes to the same in both. -/
structure Cluster.Joined (key : String) (dir : Path) (scratch : Uuid)
    (cluster cluster' : Cluster) : Prop where
  steady : cluster.files.Steady dir ∧ cluster'.files.Steady dir
  reply : (cluster'.files.createDirectories dir).1 = (cluster.files.createDirectories dir).1
  registered : ∀ id : ReplicaId, id.key = key →
    cluster'.registry.get? id = cluster.registry.get? id
  files : FileSystem.SameFiles (ownNames key scratch) cluster.files cluster'.files
  shares : ∃ place, (cluster.files.createDirectories dir).1 = .ok () →
    Shares key dir place scratch { cluster with files := (cluster.files.createDirectories dir).2 }
      { cluster' with files := (cluster'.files.createDirectories dir).2 }

namespace Cluster

variable {key : String} {dir place : Path} {scratch : Uuid} {cluster cluster' after : Cluster}

/-- A cluster is joined with itself. -/
theorem joined_refl (key : String) (h : cluster.files.Steady dir) :
    cluster.Joined key dir cluster.files.scratch cluster where
  steady := ⟨h, h⟩
  reply := rfl
  registered _ _ := rfl
  files := .refl _ _
  shares := by
    by_cases hok : (cluster.files.createDirectories dir).1 = .ok ()
    · have hmade := FileSystem.made_of_createDirectories (Prod.ext hok rfl :
        cluster.files.createDirectories dir = (.ok (), (cluster.files.createDirectories dir).2))
      obtain ⟨place, hwalk⟩ := hmade.walk
      exact ⟨place, fun _ => ⟨.refl _, fun _ _ => rfl, .refl _ hmade hwalk,
        (FileSystem.frame_createDirectories cluster.files dir).scratch⟩⟩
    · exact ⟨[], fun h => absurd h hok⟩

/-- Clusters that share the table are joined. -/
theorem Shares.joined (h : cluster.Shares key dir place scratch cluster') :
    cluster.Joined key dir scratch cluster' := by
  have hfirst := h.files.made.1.createDirectories
  have hsecond := h.files.made.2.createDirectories
  refine ⟨⟨h.files.made.1.steady, h.files.made.2.steady⟩, ?_, h.registered, h.files.files, place,
    fun _ => ?_⟩
  · rw [hfirst, hsecond]
  · rw [hfirst, hsecond]
    exact h

namespace Joined

variable (h : cluster.Joined key dir scratch cluster')
include h

/-- The table is shared where the directory is there. -/
theorem shares_of_made (hmade : cluster.files.Made dir) (hmade' : cluster'.files.Made dir) :
    ∃ place, cluster.Shares key dir place scratch cluster' := by
  obtain ⟨place, hshares⟩ := h.shares
  rw [hmade.createDirectories, hmade'.createDirectories] at hshares
  exact ⟨place, hshares rfl⟩

/-- Files from which the making of the directory leads to the same files do as well. -/
theorem congr {files files' : FileSystem}
    (hfiles : files.createDirectories dir = cluster.files.createDirectories dir)
    (hfiles' : files'.createDirectories dir = cluster'.files.createDirectories dir) :
    Joined key dir scratch { cluster with files } { cluster' with files := files' } := by
  have hsame := FileSystem.sameFiles_createDirectories (ownNames key scratch) files dir
  have hsame' := FileSystem.sameFiles_createDirectories (ownNames key scratch) files' dir
  rw [hfiles] at hsame
  rw [hfiles'] at hsame'
  refine ⟨⟨?_, ?_⟩, ?_, h.registered, ?_, ?_⟩
  · rw [FileSystem.Steady, hfiles]
    exact h.steady.1
  · rw [FileSystem.Steady, hfiles']
    exact h.steady.2
  · rw [hfiles, hfiles', h.reply]
  · have hfirst := FileSystem.sameFiles_createDirectories (ownNames key scratch) cluster.files dir
    have hsecond := FileSystem.sameFiles_createDirectories (ownNames key scratch) cluster'.files dir
    exact ((hsame.trans hfirst.symm).trans h.files).trans (hsecond.trans hsame'.symm)
  · simp only [hfiles, hfiles']
    exact h.shares

/-- The clusters are joined after a change of one of them that lets it share the table with the
other, once this one's directory is made. -/
theorem of_shares (hshares : after.Shares key dir place scratch
      { cluster' with files := (cluster'.files.createDirectories dir).2 }) :
    after.Joined key dir scratch cluster' :=
  hshares.joined.congr rfl h.steady.2.symm

end Joined

end Cluster

namespace ReplicatedTable

variable {t : ReplicatedTable} {dir place : Path} {scratch : Uuid} {cluster cluster' : Cluster}

/-- The registered replicas of the table have their files in the directory of the path `dir`. -/
def Settled (t : ReplicatedTable) (dir : Path) (registry : Registry) : Prop :=
  ∀ id ∈ t.ids, id.IsValid ∧ id.key = t.table.key ∧
    ∀ node, registry.get? id = some node → node.store.path = dir.join [id.fileName]

theorem settled_of_knownTo (ht : t.Deployed) (hknown : t.KnownTo cluster.registry)
    (hpaths : ∀ partition, ∀ node ∈ t.nodes partition,
      node.store.path = dir.join [node.id.fileName]) : t.Settled dir cluster.registry := by
  intro id hid
  obtain ⟨partition, hid⟩ := mem_ids.1 hid
  obtain ⟨node, hnode, rfl⟩ := List.mem_map.1 hid
  refine ⟨ht.isValid hnode, ht.key_eq hnode, fun found hfound => ?_⟩
  rw [hknown.node_eq hnode hfound]
  exact hpaths partition node hnode

section

variable (hsettled : t.Settled dir cluster.registry)
  (h : cluster.Shares t.table.key dir place scratch cluster')
include hsettled h

/-- A call on a replica of the table comes to the same in both clusters. -/
theorem sameOutcome_call_of_settled {id : ReplicaId} (hid : id ∈ t.ids) {kind : ReplyKind}
    (call : NodeCall kind) {files files' : FileSystem}
    (hshared : Shared dir place (ownNames t.table.key scratch) files files')
    (hscratch : files.scratch = scratch) :
    SameOutcome (fun after after' => Shared dir place (ownNames t.table.key scratch) after after' ∧
        after.scratch = scratch)
      (cluster.registry.call id call files) (cluster'.registry.call id call files') := by
  obtain ⟨hvalid, hkey, hpath⟩ := hsettled id hid
  have hnames : ∀ name ∈ id.names scratch, ownNames t.table.key scratch name :=
    fun name hname => ⟨id, hkey, hvalid, hname⟩
  have hisName := ReplicaId.isName_fileName id
  refine sameOutcome_call h.way hvalid (h.registered id hkey) ?_ ⟨hshared, hscratch⟩
  rintro node hnode files files' ⟨hshared, rfl⟩
  obtain ⟨hreply, hafter⟩ := sameOutcome_run hshared (hpath node hnode) hisName
    (hnames _ List.mem_cons_self) (hnames _ (List.mem_cons_of_mem _ List.mem_cons_self)) call
  have hlast : node.store.path.getLast? = some id.fileName := by
    rw [hpath node hnode]
    exact RecordStore.getLast?_join
  exact ⟨hreply, hafter, (RecordStore.confined_run call files hlast hisName).forth.scratch⟩

theorem mirrors_of_settled : cluster.registry.Mirrors cluster'.registry id (fun _ => True)
    (fun _ _ => True) fun ids files files' => (∀ id ∈ ids, id ∈ t.ids) ∧
      Shared dir place (ownNames t.table.key scratch) files files' ∧ files.scratch = scratch where
  call {kind call replica rest files files'} _ hready := by
    obtain ⟨hids, hshared, hscratch⟩ := hready
    obtain ⟨hid, hrest⟩ := List.forall_mem_cons.1 hids
    obtain ⟨reply, after, after', hfirst, hsecond, hafter⟩ :=
      (sameOutcome_call_of_settled hsettled h hid call hshared hscratch).exists
    refine ⟨reply, after, after', hfirst, ?_, ⟨hrest, hafter⟩, fun _ _ => trivial⟩
    cases reply <;> exact hsecond
  done := fun ⟨_, hshared⟩ => ⟨by simp, hshared⟩

/-- **A write to the table does the same in both clusters.** -/
theorem write_shared (ht : t.Deployed) (operation : Operation) :
    ∃ reply after after', t.write operation cluster = (reply, after) ∧
      t.write operation cluster' = (reply, after') ∧
      after.Shares t.table.key dir place scratch after' := by
  have hready : ∀ partitions : List Nat, partitions.Nodup →
      (∀ id ∈ partitions.flatMap t.idsOf, id ∈ t.ids) ∧
        Shared dir place (ownNames t.table.key scratch) cluster.files cluster'.files ∧
          cluster.files.scratch = scratch := by
    refine fun partitions _ => ⟨fun id hid => ?_, h.files, h.scratch⟩
    obtain ⟨partition, -, hid⟩ := List.mem_flatMap.1 hid
    exact mem_ids.2 ⟨partition, hid⟩
  obtain ⟨reply, after, after', hfirst, hsecond, -, hshared, hscratch⟩ :=
    write_mirrors (mirrors_of_settled hsettled h) ht (fun _ _ _ _ _ _ => trivial) hready
  have hsame : reply.map (Summary.relabel id) = reply := by
    cases reply with
    | error e => rfl
    | ok summary =>
      obtain ⟨succeeded, total, failures⟩ := summary
      simp [Except.map, Summary.relabel]
  rw [hsame] at hsecond
  exact ⟨reply, _, _, hfirst, hsecond, h.way, h.registered, hshared, hscratch⟩

/-- **A selection reads the same rows in both clusters.** -/
theorem select_shared : t.select cluster' = t.select cluster := by
  refine @select_congr t id cluster cluster' fun replica hreplica => ?_
  have hid : replica.id ∈ t.ids := List.mem_map_of_mem hreplica
  rw [(sameOutcome_call_of_settled hsettled h hid .select h.files h.scratch).1]
  cases (cluster.registry.call replica.id .select cluster.files).1 <;> rfl

/-- **A heartbeat round finds the same in both clusters.** -/
theorem beat_shared : t.beat cluster' = t.beat cluster := by
  refine beat_congr fun replica hreplica => ?_
  obtain ⟨hvalid, hkey, -⟩ := hsettled replica.id (List.mem_map_of_mem hreplica)
  exact h.heartbeat_isOk hvalid hkey

end

/-! ## Creation -/

/-- Nodes of the table are created alike in both clusters. -/
theorem createsAlike_of_shares {key : String} {id : ReplicaId} (hvalid : id.IsValid)
    (hkey : id.key = key) (columns : ReplicaId → Option (List String)) :
    CreatesAlike (Cluster.Shares key dir place scratch) dir columns id := by
  intro cluster cluster' h
  obtain ⟨reply, after, after', hfirst, hsecond, hafter⟩ :=
    (sameOutcome_createNode h.files hvalid ⟨id, hkey, hvalid, List.mem_cons_self⟩
      (columns id)).exists
  have hscratch := (confined_createNode h.files.made.1 hvalid (columns id)).forth.scratch
  rw [hfirst, h.scratch] at hscratch
  have hshares : Cluster.Shares key dir place scratch ⟨cluster.registry, after⟩
      ⟨cluster'.registry, after'⟩ := ⟨h.way, h.registered, hafter, hscratch⟩
  exact ⟨reply, after, after', hfirst, hsecond, fun _ _ => hshares,
    fun node _ => hshares.register node⟩

/-- What becomes of the directory when a table is created: it is there if that succeeds, and stays
there in any case. -/
def Lasts (dir : Path) (reply : Except Error ReplicatedTable) (files files' : FileSystem) : Prop :=
  files.Made dir ∨ (∃ t, reply = .ok t) → files'.Made dir

theorem lasts_of_error {e : Error} {files files' : FileSystem}
    (h : files.Made dir → files' = files) : Lasts dir (.error e) files files' := by
  rintro (hmade | ⟨t, hok⟩)
  · rwa [h hmade]
  · simp at hok

/-- **The table is created alike in both clusters**, or fails to be. -/
theorem create_shared {table : TableDef} {settings : ReplicationSettings}
    (h : cluster.Joined table.key settings.dataDir scratch cluster') (count : Nat)
    (layout : Layout) :
    ∃ reply after after', create table count layout settings cluster = (reply, after) ∧
      create table count layout settings cluster' = (reply, after') ∧
      after.Joined table.key settings.dataDir scratch after' ∧
      Lasts settings.dataDir reply cluster.files after.files ∧
      Lasts settings.dataDir reply cluster'.files after'.files := by
  obtain ⟨place, hshares⟩ := h.shares
  have hvalid : table.hasValidName = true → ∀ partition replica,
      (ReplicaId.ofTable table partition replica).IsValid :=
    fun hname => ReplicaId.isValid_of_hasValidName hname
  rcases create_mirrors (K := Cluster.Shares table.key settings.dataDir place scratch)
      ⟨_, (cluster.files.createDirectories settings.dataDir).2,
        (cluster'.files.createDirectories settings.dataDir).2, rfl, Prod.ext h.reply rfl, hshares⟩
      (fun hname partition replica => createsAlike_of_shares (hvalid hname partition replica)
        (ReplicaId.key_ofTable table partition replica) _)
      (fun partition replica _ _ hshares => hshares.unregister _)
      (fun hname partition replica _ _ hshares => hshares.heartbeat_isOk
        (hvalid hname partition replica) (ReplicaId.key_ofTable table partition replica)) with
    ⟨e, hfirst, hsecond⟩ | ⟨cause, after, after', hfail, hfail', hfirst, hsecond⟩ |
      ⟨reply, after, after', hfirst, hsecond, hafter⟩
  · exact ⟨_, _, _, hfirst, hsecond, h, lasts_of_error fun _ => rfl, lasts_of_error fun _ => rfl⟩
  · exact ⟨_, _, _, hfirst, hsecond, h.congr (h.steady.1.repeated hfail)
      (h.steady.2.repeated hfail'), lasts_of_error fun hmade => hmade.eq_of_createDirectories hfail,
      lasts_of_error fun hmade => hmade.eq_of_createDirectories hfail'⟩
  · exact ⟨_, _, _, hfirst, hsecond, hafter.joined, fun _ => hafter.files.made.1,
      fun _ => hafter.files.made.2⟩

/-- A node that was created has its file in the directory. -/
theorem path_of_createNodes {dataDir : Path} {columns : ReplicaId → Option (List String)}
    {ids : List ReplicaId} (hvalid : ∀ id ∈ ids, id.IsValid) {created : List StorageNode}
    (h : createNodes dataDir columns ids cluster = (.ok created, cluster')) :
    ∀ node ∈ created, node.store.path = dataDir.join [node.id.fileName] := by
  induction ids generalizing cluster created with
  | nil =>
    obtain ⟨rfl, -⟩ : [] = created ∧ _ := by simpa [createNodes] using h
    simp
  | cons id rest ih =>
    obtain ⟨hid, hrest⟩ := List.forall_mem_cons.1 hvalid
    rw [createNodes] at h
    split at h
    · simp at h
    · next node files hcreate =>
      split at h
      · simp at h
      · next others cluster'' hothers =>
        obtain ⟨rfl, rfl⟩ : _ ∧ cluster'' = cluster' := by simpa using h
        obtain rfl := node_of_create hcreate
        refine List.forall_mem_cons.2 ⟨?_, ih hrest hothers⟩
        rw [← ReplicaId.ofText_fileName hid]

theorem path_of_create {table : TableDef} {count : Nat} {layout : Layout}
    {settings : ReplicationSettings} (h : create table count layout settings cluster =
      (.ok t, cluster')) :
    ∀ partition, ∀ node ∈ t.nodes partition,
      node.store.path = settings.dataDir.join [node.id.fileName] := by
  unfold create at h
  split at h
  · simp at h
  · simp at h
  · next router hcheck hrouter =>
    obtain ⟨-, hname⟩ := valid_of_checkCreation hcheck
    split at h
    · simp at h
    · simp only at h
      split at h
      · simp at h
      · next created cluster'' hcreated =>
        obtain ⟨rfl, -⟩ : _ ∧ cluster'' = cluster' := by simpa using h
        intro partition node hnode
        rw [nodes_beat] at hnode
        exact path_of_createNodes (fun id hid => isValid_of_mem_replicaIds hname hid) hcreated node
          (mem_of_mem_nodes_ofNodes hnode).1

/-! ## Other tables -/

/-- A call on a replica changes nothing under other names, however often it is carried out. -/
theorem confined_call {registry : Registry} {id : ReplicaId} (hvalid : id.IsValid)
    (hlast : ∀ node, registry.get? id = some node → node.store.path.getLast? = some id.fileName)
    {kind : ReplyKind} (call : NodeCall kind) (files : FileSystem) :
    Confined (id.names files.scratch) files (registry.call id call files).2 := by
  rcases registry.call_files hvalid call files with hsame | ⟨node, count, hnode, hafter⟩
  · rw [hsame]
    exact .refl _ _
  · rw [hafter]
    clear hafter
    induction count generalizing files with
    | zero => exact .refl _ _
    | succ count ih =>
      have hfirst : Confined (id.names files.scratch) files (node.filesAfter call files) :=
        RecordStore.confined_run call files (hlast node hnode) (ReplicaId.isName_fileName id)
      have hrest := ih (node.filesAfter call files)
      rw [hfirst.forth.scratch] at hrest
      exact hfirst.trans hrest

/-- **A write to another table** in one of the clusters changes nothing in common. -/
theorem write_other (ht : t.Deployed) (hknown : t.KnownTo cluster.registry) {key : String}
    (hkey : t.table.key ≠ key)
    (h : cluster.Shares key dir place scratch cluster') (operation : Operation) :
    (t.write operation cluster).2.Shares key dir place scratch cluster' := by
  have hcall : ∀ id ∈ t.ids, ∀ (kind : ReplyKind) (call : NodeCall kind) (files : FileSystem),
      Cluster.Shares key dir place scratch ⟨cluster.registry, files⟩ cluster' →
      Cluster.Shares key dir place scratch
        ⟨cluster.registry, (cluster.registry.call id call files).2⟩ cluster' := by
    intro id hid kind call files hshares
    have hother : id.key ≠ key := ht.key_of_mem_ids hid ▸ hkey
    obtain ⟨partition, hmem⟩ := mem_ids.1 hid
    obtain ⟨node, hnode, rfl⟩ := List.mem_map.1 hmem
    have hlast : ∀ found, cluster.registry.get? node.id = some found →
        found.store.path.getLast? = some node.id.fileName := by
      intro found hfound
      rw [hknown.node_eq hnode hfound]
      exact ht.paths partition node hnode
    have hconfined := confined_call (ht.isValid hnode) hlast call files
    refine hshares.of_confined (ht.isValid hnode) hother (fun name hname => ?_) hconfined
    rwa [← hshares.scratch]
  obtain ⟨hregistry, hafter⟩ := write_keeps ht hcall h operation
  rw [← hregistry] at hafter
  exact hafter

/-- **The creation of another table** in one of the clusters changes nothing in common, whether it
fails or not. -/
theorem create_other {table : TableDef} {key : String} (hkey : table.key ≠ key)
    {settings : ReplicationSettings} (h : cluster.Joined key settings.dataDir scratch cluster')
    (count : Nat) (layout : Layout) :
    ∃ reply after, create table count layout settings cluster = (reply, after) ∧
      after.Joined key settings.dataDir scratch cluster' ∧
      Lasts settings.dataDir reply cluster.files after.files := by
  obtain ⟨place, hshares⟩ := h.shares
  -- the creation is compared with itself
  let K : Cluster → Cluster → Prop := fun first second =>
    second = first ∧ first.Shares key settings.dataDir place scratch
      { cluster' with files := (cluster'.files.createDirectories settings.dataDir).2 }
  have hcreate : table.hasValidName = true → ∀ partition replica, CreatesAlike K settings.dataDir
      (fun id => storeColumns table ⟨layout⟩ id.partition)
      (.ofTable table partition replica) := by
    rintro hname partition replica first second ⟨rfl, hshares⟩
    have hvalid := ReplicaId.isValid_of_hasValidName hname partition replica
    have hother : (ReplicaId.ofTable table partition replica).key ≠ key := hkey
    have hconfined := confined_createNode hshares.files.made.1 hvalid
      (storeColumns table ⟨layout⟩ (ReplicaId.ofTable table partition replica).partition)
    cases hnode : StorageNode.create (.ofTable table partition replica) settings.dataDir
      (storeColumns table ⟨layout⟩ (ReplicaId.ofTable table partition replica).partition)
      second.files with
    | mk reply after =>
      rw [hnode] at hconfined
      have hafter := hshares.of_confined hvalid hother (by simp [ReplicaId.names]) hconfined
      refine ⟨reply, after, after, rfl, rfl, fun _ _ => ⟨rfl, hafter⟩, ?_⟩
      rintro node rfl
      exact ⟨rfl, hafter.register_other (id_of_create hnode ▸ hother)⟩
  rcases create_mirrors (K := K) ⟨_, _, _, rfl, rfl, fun hok => ⟨rfl, hshares hok⟩⟩ hcreate
      (by
        rintro partition replica first _ ⟨rfl, hshares⟩
        exact ⟨rfl, hshares.unregister_other hkey⟩)
      (by
        rintro hname partition replica first _ ⟨rfl, hshares⟩
        rfl) with
    ⟨e, hfirst, -⟩ | ⟨cause, after, after', hfail, -, hfirst, -⟩ |
      ⟨reply, after, after', hfirst, -, -, hafter⟩
  · exact ⟨_, _, hfirst, h, lasts_of_error fun _ => rfl⟩
  · exact ⟨_, _, hfirst, h.congr (h.steady.1.repeated hfail) rfl,
      lasts_of_error fun hmade => hmade.eq_of_createDirectories hfail⟩
  · exact ⟨_, _, hfirst, h.of_shares hafter, fun _ => hafter.files.made.1⟩

end ReplicatedTable

end TableStore
