import TableStore.Proofs.AnyRuns

/-!
# Which replicas are registered

A replica is registered when its table is created, and from then on until it is stopped and again
from when it is started.  Nothing else registers or unregisters a replica: a creation that fails
half-way takes back all registrations that it has made, and only these, because no other table has
replicas of the same names.

* Registries.  `unregisterAll_registerAll` says that registrations of replicas that were not
  registered can be taken back.
* Creation.  `registry_createNodes` lists the registrations that a creation makes, and
  `create_cases` what becomes of them.
* Runs.  `switches` is the history of stops and starts.  `Registered` is the invariant;
  `registrations` is the result, for registrations and for creations that fail.
-/

namespace TableStore

/-! ## Registries -/

namespace KeyMap

variable {κ α : Type} [DecidableEq κ]

theorem get?_eq_some_iff {m : KeyMap κ α} {k : κ} {v : α} :
    m.get? k = some v ↔ (k, v) ∈ m.entries := by
  have hfound : ∀ v, m.get? k = some v → (k, v) ∈ m.entries := by
    intro v h
    obtain ⟨e, hfind, rfl⟩ := Option.map_eq_some_iff.1 h
    obtain rfl : e.1 = k := by simpa using List.find?_some hfind
    exact List.mem_of_find?_eq_some hfind
  refine ⟨hfound v, fun h => ?_⟩
  cases hget : m.get? k with
  | none => exact absurd (List.mem_map_of_mem h) (get?_eq_none_iff.1 hget)
  | some v' =>
    have hsame := List.inj_on_of_nodup_map m.nodup (hfound v' hget) h rfl
    rw [(Prod.mk.inj hsame).2]

theorem erase_comm (m : KeyMap κ α) (k k' : κ) : (m.erase k).erase k' = (m.erase k').erase k := by
  simp only [erase, filter, mk.injEq, List.filter_filter]
  refine List.filter_congr fun e _ => ?_
  rw [Bool.and_comm]

end KeyMap

namespace Registry

/-- The registered nodes. -/
def nodes : Registry → List StorageNode
  | inProcess nodes => nodes.values
  | networked host _ _ => host.nodes.values

/-- Every node is registered under its own identity. -/
def Sound : Registry → Prop
  | inProcess nodes => ∀ entry ∈ nodes.entries, entry.1 = entry.2.id
  | networked host _ _ => ∀ entry ∈ host.nodes.entries, entry.1 = entry.2.id.text

variable {registry : Registry}

theorem sound_of_nodes_eq_nil (h : registry.nodes = []) : registry.Sound := by
  cases registry with
  | inProcess nodes =>
    have hnil : nodes.entries = [] := List.map_eq_nil_iff.1 h
    simp [Sound, hnil]
  | networked host link attempts =>
    have hnil : host.nodes.entries = [] := List.map_eq_nil_iff.1 h
    simp [Sound, hnil]

theorem Sound.register (h : registry.Sound) (node : StorageNode) :
    (registry.register node).Sound := by
  cases registry with
  | inProcess nodes =>
    intro entry hentry
    rcases List.mem_append.1 hentry with hold | hnew
    · exact h entry (List.mem_filter.1 hold).1
    · rw [List.mem_singleton.1 hnew]
  | networked host link attempts =>
    intro entry hentry
    rcases List.mem_append.1 hentry with hold | hnew
    · exact h entry (List.mem_filter.1 hold).1
    · rw [List.mem_singleton.1 hnew]

theorem Sound.unregister (h : registry.Sound) (id : ReplicaId) :
    (registry.unregister id).Sound := by
  cases registry with
  | inProcess nodes => exact fun entry hentry => h entry (List.mem_filter.1 hentry).1
  | networked host link attempts => exact fun entry hentry => h entry (List.mem_filter.1 hentry).1

/-- The registered nodes are those that are found under their identities. -/
theorem Sound.mem_nodes (h : registry.Sound) {node : StorageNode} :
    node ∈ registry.nodes ↔ registry.get? node.id = some node := by
  cases registry with
  | inProcess nodes =>
    simp only [Registry.nodes, get?, KeyMap.values, KeyMap.get?_eq_some_iff, List.mem_map]
    refine ⟨?_, fun hentry => ⟨_, hentry, rfl⟩⟩
    rintro ⟨entry, hentry, rfl⟩
    rw [← h entry hentry]
    exact hentry
  | networked host link attempts =>
    simp only [Registry.nodes, get?, KeyMap.values, KeyMap.get?_eq_some_iff, List.mem_map]
    refine ⟨?_, fun hentry => ⟨_, hentry, rfl⟩⟩
    rintro ⟨entry, hentry, rfl⟩
    rw [← h entry hentry]
    exact hentry

theorem Sound.id_eq (h : registry.Sound) {id : ReplicaId} {node : StorageNode}
    (hget : registry.get? id = some node) : node.id = id := by
  cases registry with
  | inProcess nodes => exact (h _ (KeyMap.get?_eq_some_iff.1 hget)).symm
  | networked host link attempts =>
    exact ReplicaId.text_injective (h _ (KeyMap.get?_eq_some_iff.1 hget)).symm

theorem Sound.mem_ids (h : registry.Sound) {id : ReplicaId} :
    id ∈ registry.nodes.map StorageNode.id ↔ registry.reaches id = true := by
  rw [reaches, Option.isSome_iff_exists, List.mem_map]
  constructor
  · rintro ⟨node, hnode, rfl⟩
    exact ⟨node, h.mem_nodes.1 hnode⟩
  · rintro ⟨node, hget⟩
    obtain rfl := h.id_eq hget
    exact ⟨node, h.mem_nodes.2 hget, rfl⟩

/-- No replica is registered twice. -/
theorem Sound.nodup_ids (h : registry.Sound) : (registry.nodes.map StorageNode.id).Nodup := by
  cases registry with
  | inProcess nodes =>
    have hkeys : (nodes.values.map StorageNode.id) = nodes.entries.map Prod.fst := by
      rw [KeyMap.values, List.map_map]
      exact List.map_congr_left fun entry hentry => (h entry hentry).symm
    rw [Registry.nodes, hkeys]
    exact nodes.nodup
  | networked host link attempts =>
    have hkeys : (host.nodes.values.map StorageNode.id).map ReplicaId.text =
        host.nodes.entries.map Prod.fst := by
      rw [KeyMap.values, List.map_map, List.map_map]
      exact List.map_congr_left fun entry hentry => (h entry hentry).symm
    refine List.Nodup.of_map ReplicaId.text ?_
    rw [Registry.nodes, hkeys]
    exact host.nodes.nodup

/-! ### Taking back registrations -/

theorem unregister_comm (registry : Registry) (id id' : ReplicaId) :
    (registry.unregister id).unregister id' = (registry.unregister id').unregister id := by
  cases registry with
  | inProcess nodes => exact congrArg inProcess (nodes.erase_comm id id')
  | networked host link attempts =>
    have hnodes := host.nodes.erase_comm id.text id'.text
    simp only [unregister, NodeHost.unbind, hnodes]

/-- A registration of a replica that was not registered is taken back. -/
theorem unregister_register {node : StorageNode} (h : registry.get? node.id = none) :
    (registry.register node).unregister node.id = registry := by
  cases registry with
  | inProcess nodes =>
    exact congrArg inProcess (KeyMap.erase_insert_of_get?_eq_none node h)
  | networked host link attempts =>
    have hnodes := KeyMap.erase_insert_of_get?_eq_none node h
    simp only [register, unregister, NodeHost.bind, NodeHost.unbind, hnodes]

theorem unregisterAll_unregister (registry : Registry) (id : ReplicaId) (ids : List ReplicaId) :
    ids.foldl unregister (registry.unregister id) =
      (ids.foldl unregister registry).unregister id := by
  induction ids generalizing registry with
  | nil => rfl
  | cons other rest ih => rw [List.foldl_cons, unregister_comm, ih, List.foldl_cons]

/-- **Registrations of replicas that were not registered are taken back.** -/
theorem unregisterAll_registerAll {created : List StorageNode}
    (hnodup : (created.map StorageNode.id).Nodup)
    (hfresh : ∀ node ∈ created, registry.get? node.id = none) :
    (created.map StorageNode.id).foldl unregister (created.foldl register registry) =
      registry := by
  induction created generalizing registry with
  | nil => rfl
  | cons node rest ih =>
    obtain ⟨hnode, hrest⟩ := List.forall_mem_cons.1 hfresh
    obtain ⟨hout, hnodup⟩ := List.nodup_cons.1 hnodup
    have hrest' : ∀ other ∈ rest, (registry.register node).get? other.id = none := by
      intro other hother
      have hne : other.id ≠ node.id := fun heq => hout (heq ▸ List.mem_map_of_mem hother)
      rw [get?_register, if_neg hne]
      exact hrest other hother
    rw [List.map_cons, List.foldl_cons, List.foldl_cons, unregisterAll_unregister,
      ih hnodup hrest', unregister_register hnode]

theorem reaches_registerAll (registry : Registry) (created : List StorageNode) (id : ReplicaId) :
    (created.foldl register registry).reaches id = true ↔
      id ∈ created.map StorageNode.id ∨ registry.reaches id = true := by
  induction created generalizing registry with
  | nil => simp
  | cons node rest ih =>
    rw [List.foldl_cons, ih, List.map_cons, List.mem_cons]
    by_cases heq : id = node.id <;> simp [reaches, heq]

theorem Sound.registerAll (h : registry.Sound) (created : List StorageNode) :
    (created.foldl Registry.register registry).Sound := by
  induction created generalizing registry with
  | nil => exact h
  | cons node rest ih => exact ih (h.register node)

end Registry

/-! ## Creation -/

namespace ReplicatedTable

/-- The identities of all replicas. -/
def ids (t : ReplicatedTable) : List ReplicaId := t.allReplicas.map Replica.id

theorem mem_ids {t : ReplicatedTable} {id : ReplicaId} :
    id ∈ t.ids ↔ ∃ partition, id ∈ (t.nodes partition).map StorageNode.id := by
  simp only [ids, allReplicas, nodes, replicas, List.map_map, List.mem_map, List.mem_flatten]
  constructor
  · rintro ⟨replica, ⟨partition, hpartition, hreplica⟩, rfl⟩
    obtain ⟨i, hi⟩ := List.mem_iff_getElem?.1 hpartition
    exact ⟨i, replica, by rwa [hi], rfl⟩
  · rintro ⟨i, replica, hreplica, rfl⟩
    cases hi : t.partitions[i]? with
    | none => simp [hi] at hreplica
    | some partition =>
      rw [hi] at hreplica
      exact ⟨replica, ⟨partition, List.mem_of_getElem? hi, hreplica⟩, rfl⟩

@[simp] theorem ids_beat (t : ReplicatedTable) (cluster : Cluster) :
    (t.beat cluster).ids = t.ids := by
  simp [ids, allReplicas, beat, List.map_flatten, Function.comp_def]
  rfl

theorem exists_mem_nodes_of_mem_allReplicas {t : ReplicatedTable} {replica : Replica}
    (h : replica ∈ t.allReplicas) : ∃ partition, replica.node ∈ t.nodes partition := by
  obtain ⟨partition, hpartition, hmem⟩ := List.mem_flatten.1 h
  obtain ⟨i, hi⟩ := List.mem_iff_getElem?.1 hpartition
  refine ⟨i, List.mem_map_of_mem ?_⟩
  rwa [replicas, hi]

theorem Deployed.key_of_mem_ids {t : ReplicatedTable} (ht : t.Deployed) {id : ReplicaId}
    (h : id ∈ t.ids) : id.key = t.table.key := by
  obtain ⟨partition, hid⟩ := mem_ids.1 h
  obtain ⟨node, hnode, rfl⟩ := List.mem_map.1 hid
  exact ht.key_eq hnode

/-- The nodes that were created are registered in the order of their creation, also if the creation
stops at one that fails. -/
theorem registry_createNodes {dataDir : Path} {columns : ReplicaId → Option (List String)}
    {ids : List ReplicaId} {cluster cluster' : Cluster}
    {reply : Except (StoreError × List ReplicaId) (List StorageNode)}
    (h : createNodes dataDir columns ids cluster = (reply, cluster')) :
    ∃ created : List StorageNode, created.map StorageNode.id <+: ids ∧
      cluster'.registry = created.foldl Registry.register cluster.registry ∧
      ((∃ e, reply = .error (e, created.map StorageNode.id)) ∨
        reply = .ok created ∧ created.map StorageNode.id = ids) := by
  induction ids generalizing cluster cluster' reply with
  | nil =>
    obtain ⟨rfl, rfl⟩ : .ok [] = reply ∧ cluster = cluster' := by simpa [createNodes] using h
    exact ⟨[], List.prefix_rfl, rfl, Or.inr ⟨rfl, rfl⟩⟩
  | cons id rest ih =>
    rw [createNodes] at h
    split at h
    · obtain ⟨rfl, rfl⟩ : _ ∧ _ := by simpa using h
      exact ⟨[], List.nil_prefix, rfl, Or.inl ⟨_, rfl⟩⟩
    · next node files hcreate =>
      obtain rfl := id_of_create hcreate
      split at h <;> rename_i hothers <;> obtain ⟨rfl, rfl⟩ : _ ∧ _ := by simpa using h
      all_goals
        obtain ⟨created, hbegins, hregistry, houtcome⟩ := ih hothers
        refine ⟨node :: created, (List.prefix_cons_inj _).2 hbegins, hregistry, ?_⟩
      · rcases houtcome with ⟨e, heq⟩ | ⟨hfalse, -⟩
        · obtain ⟨rfl, rfl⟩ : _ ∧ _ := by simpa using heq
          exact Or.inl ⟨_, rfl⟩
        · simp at hfalse
      · rcases houtcome with ⟨e, hfalse⟩ | ⟨heq, hids⟩
        · simp at hfalse
        · obtain rfl := Except.ok.inj heq
          exact Or.inr ⟨rfl, by rw [List.map_cons, hids]⟩

/-- All that the creation of a table can come to: a failure before any node was created; a failure
at a node, after which the nodes before it are unregistered; or a table of all its nodes. -/
theorem create_cases {table : TableDef} {count : Nat} {layout : Layout}
    {settings : ReplicationSettings} {cluster cluster' : Cluster}
    {reply : Except Error ReplicatedTable}
    (h : create table count layout settings cluster = (reply, cluster')) :
    (∃ e, reply = .error e ∧ cluster'.registry = cluster.registry) ∨
    ∃ created : List StorageNode,
      created.map StorageNode.id <+: (List.range layout.partitionCount).flatMap
        (replicaIds table count) ∧
      ((∃ e, reply = .error e ∧ cluster'.registry = (created.map StorageNode.id).foldl
          Registry.unregister (created.foldl Registry.register cluster.registry)) ∨
        ∃ t, reply = .ok t ∧ created.map StorageNode.id =
            (List.range layout.partitionCount).flatMap (replicaIds table count) ∧
          cluster'.registry = created.foldl Registry.register cluster.registry) := by
  unfold create at h
  split at h
  · obtain ⟨rfl, rfl⟩ : _ ∧ _ := by simpa using h
    exact Or.inl ⟨_, rfl, rfl⟩
  · obtain ⟨rfl, rfl⟩ : _ ∧ _ := by simpa using h
    exact Or.inl ⟨_, rfl, rfl⟩
  · next router hcheck hrouter =>
    obtain ⟨rfl, -⟩ := Router.check_of_create hrouter
    split at h
    · obtain ⟨rfl, rfl⟩ : _ ∧ _ := by simpa using h
      exact Or.inl ⟨_, rfl, rfl⟩
    · simp only at h
      split at h <;> rename_i hnodes <;> obtain ⟨rfl, rfl⟩ : _ ∧ _ := by simpa using h
      all_goals
        obtain ⟨created, hbegins, hregistry, houtcome⟩ := registry_createNodes hnodes
        refine Or.inr ⟨created, hbegins, ?_⟩
      · rcases houtcome with ⟨e, heq⟩ | ⟨hfalse, -⟩
        · obtain ⟨rfl, rfl⟩ : _ ∧ _ := by simpa using heq
          exact Or.inl ⟨_, rfl, by rw [hregistry]⟩
        · simp at hfalse
      · rcases houtcome with ⟨e, hfalse⟩ | ⟨heq, hids⟩
        · simp at hfalse
        · obtain rfl := Except.ok.inj heq
          exact Or.inr ⟨_, rfl, hids, hregistry⟩

/-- The replicas of a new table are those that were asked for. -/
theorem Created.mem_ids {table : TableDef} {count : Nat} {layout : Layout} {t : ReplicatedTable}
    {cluster : Cluster} (h : Created table count layout t cluster) {id : ReplicaId} :
    id ∈ t.ids ↔ id ∈ (List.range layout.partitionCount).flatMap (replicaIds table count) := by
  have hcount : t.router.partitionCount = layout.partitionCount := by rw [h.router]; rfl
  rw [ReplicatedTable.mem_ids]
  simp only [h.ids, h.table, hcount, List.mem_flatMap, List.mem_range]
  constructor
  · rintro ⟨partition, hid⟩
    split at hid
    · next hlt => exact ⟨partition, hlt, hid⟩
    · simp at hid
  · rintro ⟨partition, hlt, hid⟩
    exact ⟨partition, by rwa [if_pos hlt]⟩

/-- A creation that fails leaves the registry as it was, if none of the new replicas were
registered. -/
theorem registry_of_create_error {table : TableDef} {count : Nat} {layout : Layout}
    {settings : ReplicationSettings} {cluster cluster' : Cluster} {e : Error}
    (h : create table count layout settings cluster = (.error e, cluster'))
    (hfresh : ∀ id : ReplicaId, id.key = table.key → cluster.registry.get? id = none) :
    cluster'.registry = cluster.registry := by
  rcases create_cases h with
    ⟨e', -, hregistry⟩ | ⟨created, hbegins, ⟨e', -, hregistry⟩ | ⟨t, heq, -⟩⟩
  · exact hregistry
  · rw [hregistry]
    refine Registry.unregisterAll_registerAll ?_ fun node hnode => hfresh _ ?_
    · exact hbegins.sublist.nodup (nodup_flatMap_replicaIds _ _ _)
    · exact key_of_mem_replicaIds (hbegins.subset (List.mem_map_of_mem hnode))
  · simp at heq

/-- The replica that is found under two numbers has these numbers. -/
theorem id_of_lookup {t : ReplicatedTable} (ht : t.Deployed) {partition replica : Nat}
    {found : Replica} (h : t.lookup partition replica = .ok found) :
    found.id = .ofTable t.table partition replica := by
  unfold lookup at h
  split at h
  · next other hother =>
    obtain rfl : other = found := by simpa using h
    obtain ⟨count, -, hids⟩ := ht.ids
    have hget : ((t.nodes partition).map StorageNode.id)[replica]? = some other.id := by
      rw [nodes, List.map_map, List.getElem?_map]
      exact congrArg (Option.map _) hother
    rw [hids] at hget
    split at hget
    · simp only [replicaIds, List.getElem?_map] at hget
      obtain ⟨number, hnumber, hid⟩ := Option.map_eq_some_iff.1 hget
      obtain ⟨hlt, hvalue⟩ := List.getElem?_eq_some_iff.1 hnumber
      obtain rfl : replica = number := by rwa [List.getElem_range] at hvalue
      exact hid.symm
    · simp at hget
  · simp at h

end ReplicatedTable

/-! ## Stops and starts -/

/-- The replica that a stop or start is about. -/
def ReplicaRequest.id (request : ReplicaRequest) : ReplicaId :=
  ⟨request.table, request.kind, request.partition, request.replica⟩

namespace Coordinator

/-- The stop or start that a step carries out: the replica, and whether it was started. -/
def switched? (c : Coordinator) : Event → Option (ReplicaId × Bool)
  | .stop request => if (c.stop request).1.isOk then some (request.id, false) else none
  | .start request => if (c.start request).1.isOk then some (request.id, true) else none
  | _ => none

/-- The stops and starts that a run carries out, in their order. -/
def switches (c : Coordinator) : List Event → List (ReplicaId × Bool)
  | [] => []
  | event :: rest => (c.switched? event).toList ++ (c.next event).switches rest

/-- Whether the last stop or start of a replica was a stop. -/
def IsStopped (past : List (ReplicaId × Bool)) (id : ReplicaId) : Prop :=
  (past.filter fun switch => switch.1 = id).getLast? = some (id, false)

instance (past : List (ReplicaId × Bool)) (id : ReplicaId) : Decidable (IsStopped past id) :=
  inferInstanceAs (Decidable (_ = _))

theorem not_isStopped_of_forall {past : List (ReplicaId × Bool)} {id : ReplicaId}
    (h : ∀ switch ∈ past, switch.1 ≠ id) : ¬ IsStopped past id := by
  have hnone : past.filter (fun switch => switch.1 = id) = [] := by
    simpa [List.filter_eq_nil_iff] using h
  simp [IsStopped, hnone]

theorem isStopped_concat (past : List (ReplicaId × Bool)) (id other : ReplicaId)
    (started : Bool) : IsStopped (past ++ [(id, started)]) other ↔
      if other = id then started = false else IsStopped past other := by
  by_cases heq : other = id
  · simp [IsStopped, List.filter_append, heq]
  · have hne : id ≠ other := fun hsame => heq hsame.symm
    simp [IsStopped, List.filter_append, heq, hne]

/-! ## The invariant -/

/-- Whether a table of the coordinator has the replica. -/
def Owns (c : Coordinator) (id : ReplicaId) : Prop :=
  ∃ key t, c.tables.get? key = some t ∧ id ∈ t.ids

/-- The replicas of the tables are registered, but for those whose last stop or start was a
stop. -/
structure Registered (c : Coordinator) (past : List (ReplicaId × Bool)) : Prop where
  orderly : c.Orderly
  sound : c.cluster.registry.Sound
  reaches : ∀ id, c.cluster.registry.reaches id = true ↔ c.Owns id ∧ ¬ IsStopped past id
  past : ∀ switch ∈ past, c.Owns switch.1

variable {c c' : Coordinator} {past : List (ReplicaId × Bool)}

theorem registered_empty {cluster : Cluster} (settings : ReplicationSettings)
    (h : cluster.registry.nodes = []) : (empty cluster settings).Registered [] := by
  have hsound := Registry.sound_of_nodes_eq_nil h
  refine ⟨orderly_empty cluster settings, hsound, fun id => ?_, by simp⟩
  have hnone : ¬ cluster.registry.reaches id = true := by
    rw [← hsound.mem_ids, h]
    simp
  simp [empty, Owns, hnone]

/-- A replica of a table that does not exist is not registered. -/
theorem Registered.get?_eq_none (h : c.Registered past) {key : String}
    (hnone : c.tables.get? key = none) {id : ReplicaId} (hid : id.key = key) :
    c.cluster.registry.get? id = none := by
  by_contra hne
  have hreaches : c.cluster.registry.reaches id = true :=
    Option.isSome_iff_ne_none.2 hne
  obtain ⟨⟨other, t, hget, hmem⟩, -⟩ := (h.reaches id).1 hreaches
  obtain ⟨hkey, ht, -⟩ := h.orderly other t hget
  have hsame : other = key := hkey.symm.trans ((ht.key_of_mem_ids hmem).symm.trans hid)
  rw [hsame, hnone] at hget
  simp at hget

/-- A step that changes neither the registry nor which replicas there are. -/
theorem Registered.of_same (h : c.Registered past) (horderly : c'.Orderly)
    (hregistry : c'.cluster.registry = c.cluster.registry)
    (hids : ∀ key, (c'.tables.get? key).map ReplicatedTable.ids =
      (c.tables.get? key).map ReplicatedTable.ids) : c'.Registered past := by
  have howns : ∀ id, c'.Owns id ↔ c.Owns id := by
    intro id
    have heach : ∀ key, (∃ t, c'.tables.get? key = some t ∧ id ∈ t.ids) ↔
        ∃ t, c.tables.get? key = some t ∧ id ∈ t.ids := by
      intro key
      have hkey := hids key
      cases hnew : c'.tables.get? key with
      | none =>
        rw [hnew] at hkey
        have hold : c.tables.get? key = none := by simpa using hkey.symm
        simp [hold]
      | some t =>
        rw [hnew] at hkey
        obtain ⟨told, hold, hsame⟩ := Option.map_eq_some_iff.1 hkey.symm
        simp [hold, hsame]
    exact exists_congr heach
  refine ⟨horderly, hregistry ▸ h.sound, fun id => ?_, fun switch hswitch => ?_⟩
  · rw [hregistry, howns]
    exact h.reaches id
  · exact (howns _).2 (h.past switch hswitch)

/-! ## Steps -/

/-- What a creation that fails leaves as it was. -/
structure Untouched (c c' : Coordinator) : Prop where
  tables : c'.tables = c.tables
  cache : c'.cache = c.cache
  registry : c'.cluster.registry = c.cluster.registry
  /-- The files of all tables. -/
  files : ∀ key t, c.tables.get? key = some t → ∀ replica ∈ t.allReplicas,
    c'.cluster.files.find replica.node.store.path = c.cluster.files.find replica.node.store.path

/-- **A creation that fails leaves all tables as they were.** -/
theorem Registered.untouched (h : c.Registered past) {request : CreateRequest} {e : Error}
    (herror : (c.create request).1 = .error e) : Untouched c (c.create request).2 := by
  rcases create_cases c request with
    ⟨e', hcreate⟩ | ⟨hnone, reply, cluster, hreplicated, ⟨e', rfl, hcreate⟩ | ⟨t, -, hcreate⟩⟩
  · rw [hcreate]
    exact ⟨rfl, rfl, rfl, fun _ _ _ _ _ => rfl⟩
  · have hspares := ReplicatedTable.spares_create request.table request.replicaCount
      request.layout c.settings c.cluster
    rw [hreplicated] at hspares
    rw [hcreate]
    refine ⟨rfl, rfl, ?_, fun key t hget replica hreplica => ?_⟩
    · exact ReplicatedTable.registry_of_create_error hreplicated
        fun id hid => h.get?_eq_none hnone hid
    · obtain ⟨hkey, ht, -, -, hfiles⟩ := h.orderly key t hget
      obtain ⟨partition, hnode⟩ := ReplicatedTable.exists_mem_nodes_of_mem_allReplicas hreplica
      obtain ⟨content, hbefore⟩ := hfiles partition replica.node hnode
      have hother : replica.node.id.key ≠ request.table.key := by
        intro heq
        rw [ht.key_eq hnode, hkey] at heq
        rw [heq, hnone] at hget
        simp at hget
      have hafter := hspares.contains replica.node.id hother (ht.isValid hnode) _ _
        (ht.paths partition replica.node hnode) hbefore
      exact hafter.find.trans hbefore.find.symm
  · rw [hcreate] at herror
    simp at herror

/-- The replicas after a table has been added. -/
theorem owns_insert {key : String} (t : ReplicatedTable) (cache : ResultCache) (cluster : Cluster)
    (hnone : c.tables.get? key = none) (id : ReplicaId) :
    Owns { c with tables := c.tables.insert key t, cache, cluster } id ↔
      id ∈ t.ids ∨ c.Owns id := by
  constructor
  · rintro ⟨other, found, hget, hid⟩
    simp only [KeyMap.get?_insert] at hget
    split at hget
    · obtain rfl := Option.some.inj hget
      exact Or.inl hid
    · exact Or.inr ⟨other, found, hget, hid⟩
  · rintro (hid | ⟨other, found, hget, hid⟩)
    · exact ⟨key, t, by simp, hid⟩
    · refine ⟨other, found, ?_, hid⟩
      have hne : other ≠ key := by
        rintro rfl
        simp [hnone] at hget
      simpa [hne] using hget

/-- The history is about replicas of the tables that there are. -/
theorem Registered.not_isStopped_of_new (h : c.Registered past) {t : ReplicatedTable}
    (ht : t.Deployed) (hnone : c.tables.get? t.table.key = none) :
    ∀ id ∈ t.ids, ¬ IsStopped past id := by
  intro id hid
  refine not_isStopped_of_forall fun switch hswitch heq => ?_
  obtain ⟨key, other, hget, hmem⟩ := h.past switch hswitch
  obtain ⟨hkey, hother, -⟩ := h.orderly key other hget
  have hsame : key = t.table.key := by
    rw [← hkey, ← hother.key_of_mem_ids hmem, heq, ht.key_of_mem_ids hid]
  rw [hsame, hnone] at hget
  simp at hget

theorem registered_create (h : c.Registered past) (request : CreateRequest) :
    (c.create request).2.Registered past := by
  have horderly := orderly_create h.orderly request
  rcases create_cases c request with
    ⟨e, hcreate⟩ | ⟨hnone, reply, cluster, hreplicated, ⟨e, rfl, hcreate⟩ | ⟨t, rfl, hcreate⟩⟩
  · rw [hcreate]
    exact h
  · have huntouched : Untouched c (c.create request).2 := h.untouched (by rw [hcreate])
    refine h.of_same horderly huntouched.registry fun key => ?_
    rw [huntouched.tables]
  · have hcreated := ReplicatedTable.create_ok hreplicated
    rcases ReplicatedTable.create_cases hreplicated with
      ⟨e, hfalse, -⟩ | ⟨created, -, ⟨e, hfalse, -⟩ | ⟨t', -, hids, hregistry⟩⟩
    · simp at hfalse
    · simp at hfalse
    · rw [hcreate] at horderly ⊢
      have hnew : ∀ id, id ∈ created.map StorageNode.id ↔ id ∈ t.ids := fun id => by
        rw [hids, hcreated.mem_ids]
      have howns := owns_insert (c := c) t (c.cache.erase request.table.key) cluster hnone
      have hunswitched := h.not_isStopped_of_new hcreated.deployed (hcreated.table ▸ hnone)
      refine ⟨horderly, ?_, fun id => ?_, fun switch hswitch =>
        (howns _).2 (Or.inr (h.past _ hswitch))⟩
      · show cluster.registry.Sound
        rw [hregistry]
        exact h.sound.registerAll created
      · show cluster.registry.reaches id = true ↔ _
        rw [hregistry, Registry.reaches_registerAll, hnew, howns, h.reaches]
        constructor
        · rintro (hid | ⟨hid, hrunning⟩)
          · exact ⟨Or.inl hid, hunswitched id hid⟩
          · exact ⟨Or.inr hid, hrunning⟩
        · rintro ⟨hid | hid, hrunning⟩
          · exact Or.inl hid
          · exact Or.inr ⟨hid, hrunning⟩

/-- The replica that a stop or start is about is the one that the request names. -/
theorem Registered.id_of_lookup (h : c.Registered past) {request : ReplicaRequest}
    {t : ReplicatedTable} (hget : c.tables.get? (tableKey request.table request.kind) = some t)
    {found : Replica} (hfound : t.lookup request.partition request.replica = .ok found) :
    found.id = request.id ∧ c.Owns request.id := by
  obtain ⟨hkey, ht, -⟩ := h.orderly _ t hget
  obtain ⟨hname, hkind⟩ := ReplicaId.tableKey_injective (hkey : tableKey _ _ = _)
  have hid : found.id = request.id := by
    rw [ReplicatedTable.id_of_lookup ht hfound, ReplicaId.ofTable, ReplicaRequest.id, hname, hkind]
  refine ⟨hid, _, t, hget, ReplicatedTable.mem_ids.2 ⟨request.partition, ?_⟩⟩
  rw [← hid]
  exact List.mem_map_of_mem (ReplicatedTable.mem_nodes_of_lookup hfound)

theorem registered_stop (h : c.Registered past) (request : ReplicaRequest) :
    (c.stop request).2.Registered (past ++ (c.switched? (.stop request)).toList) := by
  have horderly := orderly_stop h.orderly request
  rcases stop_cases c request with ⟨e, hstop⟩ | ⟨t, registry, hget, hreplicated, hstop⟩
  · rw [hstop]
    simpa [switched?, hstop, Except.isOk, Except.toBool] using h
  · rw [hstop] at horderly ⊢
    cases hfound : t.lookup request.partition request.replica with
    | error e => simp [ReplicatedTable.stop, hfound, Except.map] at hreplicated
    | ok found =>
      obtain ⟨hid, howns⟩ := h.id_of_lookup hget hfound
      obtain rfl : c.cluster.registry.unregister request.id = registry := by
        rw [← hid]
        simpa [ReplicatedTable.stop, hfound, Except.map] using hreplicated
      have hswitched : c.switched? (.stop request) = some (request.id, false) := by
        simp [switched?, hstop, Except.isOk, Except.toBool]
      rw [hswitched]
      refine ⟨horderly, h.sound.unregister _, fun id => ?_, fun switch hswitch => ?_⟩
      · have hreaches := h.reaches id
        simp only [Registry.reaches] at hreaches
        simp only [Registry.reaches, Registry.get?_unregister, Option.toList_some, isStopped_concat]
        split
        · simp
        · exact hreaches
      · rcases List.mem_append.1 hswitch with hold | hnew
        · exact h.past switch hold
        · rw [List.mem_singleton.1 hnew]
          exact howns

theorem registered_start (h : c.Registered past) (request : ReplicaRequest) :
    (c.start request).2.Registered (past ++ (c.switched? (.start request)).toList) := by
  have horderly := orderly_start h.orderly request
  rcases start_cases c request with ⟨e, hstart⟩ | ⟨t, registry, hget, hreplicated, hstart⟩
  · rw [hstart]
    simpa [switched?, hstart, Except.isOk, Except.toBool] using h
  · rw [hstart] at horderly ⊢
    cases hfound : t.lookup request.partition request.replica with
    | error e => simp [ReplicatedTable.start, hfound, Except.map] at hreplicated
    | ok found =>
      obtain ⟨hid, howns⟩ := h.id_of_lookup hget hfound
      obtain rfl : c.cluster.registry.register found.node = registry := by
        simpa [ReplicatedTable.start, hfound, Except.map] using hreplicated
      have hswitched : c.switched? (.start request) = some (request.id, true) := by
        simp [switched?, hstart, Except.isOk, Except.toBool]
      rw [hswitched]
      refine ⟨horderly, h.sound.register _, fun id => ?_, fun switch hswitch => ?_⟩
      · have hreaches := h.reaches id
        simp only [Registry.reaches] at hreaches
        have hnode : found.node.id = request.id := hid
        simp only [Registry.reaches, Registry.get?_register, Option.toList_some, isStopped_concat,
          hnode]
        split
        · next heq =>
          subst heq
          have hkept : Owns { c with cluster :=
              { c.cluster with registry := c.cluster.registry.register found.node } } request.id :=
            howns
          simpa using hkept
        · exact hreaches
      · rcases List.mem_append.1 hswitch with hold | hnew
        · exact h.past switch hold
        · rw [List.mem_singleton.1 hnew]
          exact howns

theorem registered_write (h : c.Registered past) (expected : OperationKind)
    (request : OperationRequest) : (c.write expected request).2.Registered past := by
  have horderly := orderly_write h.orderly expected request
  rcases write_cases c expected request with
    ⟨e, hwrite⟩ | ⟨t, summary, cluster, hget, hreplicated, hwrite⟩
  · rw [hwrite]
    exact h
  · have heffect := h.orderly.write_effect hget hreplicated
    rw [hwrite] at horderly ⊢
    exact h.of_same horderly heffect.registry fun _ => rfl

theorem registered_select (h : c.Registered past) (request : SelectRequest) :
    (c.select request).2.Registered past := by
  have horderly := orderly_select h.orderly request
  rcases select_cases c request with ⟨e, hselect⟩ | ⟨t, payload, -, ⟨-, hselect⟩ | ⟨-, -, hselect⟩⟩
    <;> rw [hselect] at horderly ⊢
  · exact h
  · exact h
  · exact h.of_same horderly rfl fun _ => rfl

theorem registered_beat (h : c.Registered past) : c.beat.Registered past := by
  refine h.of_same (orderly_beat h.orderly) rfl fun key => ?_
  simp only [beat, KeyMap.get?_map, Option.map_map]
  congr 1
  funext t
  exact ReplicatedTable.ids_beat t c.cluster

theorem registered_beatTable (h : c.Registered past) (key : String) :
    (c.beatTable key).Registered past := by
  have horderly := orderly_beatTable h.orderly key
  unfold beatTable at horderly ⊢
  cases hget : c.tables.get? key with
  | none => exact h
  | some t =>
    rw [hget] at horderly
    refine h.of_same horderly rfl fun other => ?_
    simp only [KeyMap.get?_insert]
    split
    · next heq => simp [heq, hget]
    · rfl

/-- **The step.** -/
theorem registered_next (h : c.Registered past) (event : Event) :
    (c.next event).Registered (past ++ (c.switched? event).toList) := by
  have hnone : ∀ {c' : Coordinator}, c'.Registered past → c'.Registered (past ++ []) :=
    fun h => by rwa [List.append_nil]
  cases event with
  | create request => exact hnone (registered_create h request)
  | write expected request => exact hnone (registered_write h expected request)
  | select request => exact hnone (registered_select h request)
  | stop request => exact registered_stop h request
  | start request => exact registered_start h request
  | beat => exact hnone (registered_beat h)
  | beatTable key => exact hnone (registered_beatTable h key)

theorem registered_run (h : c.Registered past) (events : List Event) :
    (run next c events).Registered (past ++ c.switches events) := by
  induction events generalizing c past with
  | nil => exact (List.append_nil past).symm ▸ h
  | cons event rest ih =>
    have hrest := ih (registered_next h event)
    rwa [List.append_assoc] at hrest

/-- **The registered replicas are those of the tables, but for those that were stopped last, and
a creation that fails changes nothing.**  Whatever the files are at first and whatever requests are
made, each replica of a table is registered once unless its last stop or start was a stop, no other
replica is registered, and a creation that is answered with an error leaves the tables, the cache,
the registrations and the files of all tables as they were. -/
theorem registrations {cluster : Cluster} (hvacant : cluster.registry.nodes = [])
    (settings : ReplicationSettings) (events : List Event) :
    ((run next (empty cluster settings) events).cluster.registry.nodes.map StorageNode.id).Nodup ∧
      (∀ id, id ∈ (run next (empty cluster settings) events).cluster.registry.nodes.map
          StorageNode.id ↔
        (run next (empty cluster settings) events).Owns id ∧
          ¬ IsStopped (switches (empty cluster settings) events) id) ∧
      ∀ request e, ((run next (empty cluster settings) events).create request).1 = .error e →
        Untouched (run next (empty cluster settings) events)
          ((run next (empty cluster settings) events).create request).2 := by
  have hregistered := registered_run (registered_empty settings hvacant) events
  refine ⟨hregistered.sound.nodup_ids, fun id => ?_, fun request e => hregistered.untouched⟩
  rw [hregistered.sound.mem_ids]
  exact hregistered.reaches id

/-- Files among which the second replica of the second partition of `jobs` cannot be created. -/
def workshopFiles : FileSystem :=
  ⟨∅, [⟨.create, ["data", "jobs-SQL-1-1.csv"], .permissionDenied, 0⟩], ⟨0⟩⟩

/-- Two jobs by columns. -/
def jobs : CreateRequest :=
  ⟨⟨"jobs", .sql, some ["id", "hours"]⟩, 2, .byColumns [["id"], ["hours"]]⟩

/-- The crews are created, then the jobs fail to be.  One crew is stopped and started again, another
one is stopped. -/
def workshop : List Event :=
  [.create ⟨⟨"crews", .noSql, none⟩, 3, .single⟩, .create jobs, .stop ⟨.noSql, "crews", 0, 1⟩,
    .start ⟨.noSql, "crews", 0, 1⟩, .stop ⟨.noSql, "crews", 0, 2⟩,
    .start ⟨.sql, "jobs", 0, 0⟩, .beat]

/-- The crews are registered but for the last one, and the jobs fail once more without a trace. -/
theorem registrations_workshop :
    Registry.direct.nodes = [] ∧
      (run next (empty ⟨.direct, workshopFiles⟩ ⟨["data"], 1000⟩)
        workshop).cluster.registry.nodes.map StorageNode.id =
          [⟨"crews", .noSql, 0, 0⟩, ⟨"crews", .noSql, 0, 1⟩] ∧
      (run next (empty ⟨.direct, workshopFiles⟩ ⟨["data"], 1000⟩) workshop).Owns
        ⟨"crews", .noSql, 0, 1⟩ ∧
      ∃ e, ((run next (empty ⟨.direct, workshopFiles⟩ ⟨["data"], 1000⟩) workshop).create jobs).1 =
          .error e ∧
        Untouched (run next (empty ⟨.direct, workshopFiles⟩ ⟨["data"], 1000⟩) workshop)
          ((run next (empty ⟨.direct, workshopFiles⟩ ⟨["data"], 1000⟩) workshop).create
            jobs).2 := by
  have hvacant : Registry.direct.nodes = [] := rfl
  have hids : (run next (empty ⟨.direct, workshopFiles⟩ ⟨["data"], 1000⟩)
      workshop).cluster.registry.nodes.map StorageNode.id =
        [⟨"crews", .noSql, 0, 0⟩, ⟨"crews", .noSql, 0, 1⟩] := by decide
  have herror : ((run next (empty ⟨.direct, workshopFiles⟩ ⟨["data"], 1000⟩) workshop).create
      jobs).1 = .error (.io .permissionDenied) := by decide
  obtain ⟨-, hregistered, huntouched⟩ :=
    @registrations ⟨.direct, workshopFiles⟩ hvacant ⟨["data"], 1000⟩ workshop
  refine ⟨hvacant, hids, ((hregistered _).1 ?_).1, _, herror, huntouched jobs _ herror⟩
  rw [hids]
  decide

end Coordinator

end TableStore
