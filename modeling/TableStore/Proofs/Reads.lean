import TableStore.Proofs.Runs

/-!
# What a selection reads

The rows of a partition are those of its reader: the first replica that is taken for alive and
answers (`reader?`).  `readPartition_ok` says so of any selection that succeeds, and
`Untroubled.readPartition` says that it succeeds while all replicas are registered and taken
for alive.  `readAll_ok` and `readAll_of_forall` put partitions together.
-/

namespace TableStore

open FileSystem (Holds)

/-- A store answers with the rows that it holds. -/
theorem RecordStore.run_select {node : StorageNode} {fs : FileSystem} {text text' : String}
    {rows : List String} (hheld : fs.Holds node.store.path text) (hreads : fs.Readable)
    (hperform : NodeCall.select.perform node.store text = some (rows, text')) :
    node.run .select fs = (.ok rows, fs) := by
  simp only [StorageNode.run, RecordStore.select, contents_of_holds hheld hreads]
  simp only [NodeCall.perform] at hperform
  cases hparse : node.store.parse? text with
  | none => simp [hparse] at hperform
  | some contents =>
    obtain ⟨hrows, -⟩ : contents.rows = rows ∧ _ := by
      simpa [hparse, NodeCall.onRows] using hperform
    simp [Except.map, hrows]

namespace ReplicatedTable

variable {t : ReplicatedTable} {held : ReplicaId → String} {cluster : Cluster}

/-! ## Readers -/

/-- The replica whose rows a selection takes for those of the partition. -/
def reader? (t : ReplicatedTable) (cluster : Cluster) (partition : Nat) : Option Replica :=
  ((t.replicas partition).filter Replica.alive).find? fun replica =>
    (cluster.registry.call replica.id .select cluster.files).1.isOk

theorem firstRows_ok {replicas : List Replica} {rows : List String}
    (h : firstRows cluster replicas = some rows) :
    ∃ replica ∈ replicas, (replicas.find? fun replica =>
        (cluster.registry.call replica.id .select cluster.files).1.isOk) = some replica ∧
      (cluster.registry.call replica.id .select cluster.files).1 = .ok rows := by
  induction replicas with
  | nil => simp [firstRows] at h
  | cons first rest ih =>
    rw [firstRows] at h
    split at h
    · next found hfound =>
      obtain rfl : found = rows := by simpa using h
      exact ⟨first, List.mem_cons_self, by simp [hfound, Except.isOk, Except.toBool], hfound⟩
    · next e herror =>
      obtain ⟨replica, hmem, hfind, hrows⟩ := ih h
      refine ⟨replica, List.mem_cons_of_mem _ hmem, ?_, hrows⟩
      rw [List.find?_cons_of_neg (by simp [herror, Except.isOk, Except.toBool]), hfind]

/-- The rows of a partition are the rows that its reader holds. -/
theorem readPartition_ok (ht : t.Deployed) (hs : t.Attends held cluster) {partition : Nat}
    {rows : List String} (h : t.readPartition cluster partition = .ok rows) :
    ∃ replica ∈ t.replicas partition, t.reader? cluster partition = some replica ∧
      ∃ text, NodeCall.select.perform replica.node.store (held replica.id) =
        some (rows, text) := by
  unfold readPartition at h
  split at h
  · next found hfound =>
    obtain rfl : found = rows := by simpa using h
    obtain ⟨replica, hmem, hfind, hcall⟩ := firstRows_ok hfound
    have hreplica := (List.mem_filter.1 hmem).1
    refine ⟨replica, hreplica, hfind, ?_⟩
    rcases call_spec ht hs (List.mem_map_of_mem hreplica) NodeCall.select with
      ⟨-, heq⟩ | ⟨-, value, text, files, heq, hperform, -⟩ | ⟨e, files, -, heq⟩
    · simp [Replica.id, heq] at hcall
    · obtain rfl : value = found := by simpa [Replica.id, heq] using hcall
      exact ⟨text, hperform⟩
    · simp [Replica.id, heq] at hcall
  · simp at h

/-- A registered replica answers with the rows that it holds, if they can be read. -/
theorem call_select (ht : t.Deployed) (hs : t.Serves held cluster) {partition : Nat}
    {replica : Replica} (hreplica : replica ∈ t.replicas partition)
    (hreached : cluster.registry.reaches replica.id = true) {rows : List String} {text : String}
    (hperform : NodeCall.select.perform replica.node.store (held replica.id) =
      some (rows, text)) :
    cluster.registry.call replica.id .select cluster.files = (.ok rows, cluster.files) := by
  have hnode : replica.node ∈ t.nodes partition := List.mem_map_of_mem hreplica
  have hget : cluster.registry.get? replica.id = some replica.node := by
    rcases hs.registered partition replica.node hnode with hnone | hsome
    · simp [Registry.reaches, Replica.id, hnone] at hreached
    · exact hsome
  exact Registry.call_of_asks hs.responds (ht.isValid hnode) rfl hget
    (RecordStore.run_select (hs.holds partition replica.node hnode) hs.readable hperform)

/-- The first replica of a partition is read while nothing is wrong with it. -/
theorem readPartition_of_first (ht : t.Deployed) (hs : t.Serves held cluster) {partition : Nat}
    {first : Replica} {rest : List Replica} (hreplicas : t.replicas partition = first :: rest)
    (halive : first.alive = true) (hreached : cluster.registry.reaches first.id = true)
    {rows : List String} {text : String}
    (hperform : NodeCall.select.perform first.node.store (held first.id) = some (rows, text)) :
    t.readPartition cluster partition = .ok rows := by
  have hmem : first ∈ t.replicas partition := hreplicas ▸ List.mem_cons_self
  have hcall := call_select ht hs hmem hreached hperform
  simp only [readPartition, hreplicas, List.filter_cons_of_pos halive, firstRows, hcall]

theorem firstRows_of_call {replicas : List Replica} {replica : Replica}
    (hmem : replica ∈ replicas) {rows : List String}
    (hcall : (cluster.registry.call replica.id .select cluster.files).1 = .ok rows) :
    ∃ found, firstRows cluster replicas = some found := by
  induction replicas with
  | nil => simp at hmem
  | cons first rest ih =>
    rw [firstRows]
    split
    · next found _ => exact ⟨found, rfl⟩
    · next e herror =>
      rcases List.mem_cons.1 hmem with rfl | hmem
      · simp [hcall] at herror
      · exact ih hmem

/-- A partition is read if any of its replicas that are taken for alive answers. -/
theorem readPartition_of_call {partition : Nat} {replica : Replica}
    (hreplica : replica ∈ t.replicas partition) (halive : replica.alive = true)
    {rows : List String}
    (hcall : (cluster.registry.call replica.id .select cluster.files).1 = .ok rows) :
    ∃ found, t.readPartition cluster partition = .ok found := by
  obtain ⟨found, hfound⟩ := firstRows_of_call (List.mem_filter.2 ⟨hreplica, halive⟩) hcall
  exact ⟨found, by rw [readPartition, hfound]⟩

/-! ## Several partitions -/

theorem readAll_ok {rowsOf : Nat → List String} {partitions : List Nat}
    (hrows : ∀ partition ∈ partitions, ∀ rows,
      t.readPartition cluster partition = .ok rows → rows = rowsOf partition)
    {all : List (List String)} (h : t.readAll cluster partitions = .ok all) :
    all = partitions.map rowsOf := by
  induction partitions generalizing all with
  | nil =>
    obtain rfl : [] = all := by simpa [readAll] using h
    rfl
  | cons partition rest ih =>
    obtain ⟨hfirst, hrest⟩ := List.forall_mem_cons.1 hrows
    simp only [readAll] at h
    split at h
    · simp at h
    · next rows hread =>
      split at h
      · simp at h
      · next others hothers =>
        obtain rfl : rows :: others = all := by simpa using h
        rw [List.map_cons, hfirst rows hread, ih hrest hothers]

theorem exists_of_readAll {partitions : List Nat} {all : List (List String)}
    (h : t.readAll cluster partitions = .ok all) :
    ∀ partition ∈ partitions, ∃ rows, t.readPartition cluster partition = .ok rows := by
  induction partitions generalizing all with
  | nil => simp
  | cons partition rest ih =>
    simp only [readAll] at h
    split at h
    · simp at h
    · next rows hread =>
      split at h
      · simp at h
      · next others hothers => exact List.forall_mem_cons.2 ⟨⟨rows, hread⟩, ih hothers⟩

theorem readAll_of_forall {rowsOf : Nat → List String} {partitions : List Nat}
    (h : ∀ partition ∈ partitions,
      t.readPartition cluster partition = .ok (rowsOf partition)) :
    t.readAll cluster partitions = .ok (partitions.map rowsOf) := by
  induction partitions with
  | nil => rfl
  | cons partition rest ih =>
    obtain ⟨hfirst, hrest⟩ := List.forall_mem_cons.1 h
    simp only [readAll, hfirst, ih hrest, List.map_cons]

theorem mergeRows_of_ne_vertical (h : t.router.layout.kind ≠ .vertical)
    (parts : List (List String)) : t.mergeRows parts = parts.flatten := by
  unfold mergeRows
  split
  · next hvertical => exact absurd hvertical h
  · rfl

end ReplicatedTable

/-- While nothing is wrong with a table whose partitions hold certain rows, these are read. -/
theorem LiveTable.Untroubled.readPartition {live : LiveTable} (h : live.Untroubled)
    {held : ReplicaId → String} (hservice : live.InService held) {partition : Nat}
    (hpartition : partition < live.table.router.partitionCount) {rows : List String}
    (hperform : ∀ node ∈ live.table.nodes partition, ∃ text,
      NodeCall.select.perform node.store (held node.id) = some (rows, text)) :
    live.table.readPartition live.cluster partition = .ok rows := by
  have hne := hservice.deployed.nodes_ne_nil hpartition
  cases hreplicas : live.table.replicas partition with
  | nil => simp [ReplicatedTable.nodes, hreplicas] at hne
  | cons first rest =>
    have hmem : first ∈ live.table.replicas partition := hreplicas ▸ List.mem_cons_self
    have hnode : first.node ∈ live.table.nodes partition := List.mem_map_of_mem hmem
    obtain ⟨text, hperform⟩ := hperform first.node hnode
    exact ReplicatedTable.readPartition_of_first hservice.deployed hservice.serves hreplicas
      (h.alive partition first hmem) (h.reached partition first.node hnode) hperform

end TableStore
