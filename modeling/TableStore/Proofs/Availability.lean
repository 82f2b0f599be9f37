import TableStore.Proofs.Attempts
import TableStore.Proofs.Reads

/-!
# When a table can be read

A selection needs one replica of every partition.  A replica can be missing for several reasons: the
last heartbeat round found it down, its node is not registered, calls on it are not answered, or its
store cannot be read.  Whatever is the reason, the next replica takes its place.

* `Registry.call_select_spec` says when a single call gives rows, and that it leaves the files as
  they are, however often the host carries it out.
* `Replica.Offers` is a replica with nothing wrong with it, and `IsFirstOffer` the first one in a
  list.  `firstRows_cases` follows the replicas of one partition, `readAll_cases` the partitions.
* `LiveTable.selectOn` passes on the files from one call to the next.  It is the same as
  `LiveTable.select`, which gives all calls the same files (`selectOn_eq`).
* `selection_available` puts these together for every state of a table.
-/

namespace TableStore

open FileSystem (Outcome)

/-! ## Single calls -/

/-- One of the attempts is answered. -/
def Link.Delivers (link : Link) (attempts : Nat) : Prop :=
  ∃ attempt < attempts, link attempt = .answered

instance (link : Link) (attempts : Nat) : Decidable (link.Delivers attempts) :=
  inferInstanceAs (Decidable (∃ attempt < attempts, _))

/-- Calls are answered at last.  Nodes that are called directly always answer. -/
def Registry.Delivers : Registry → Prop
  | inProcess _ => True
  | networked _ link attempts => link.Delivers (max attempts 1)

namespace NodeClient

/-- A request that changes no files has the same response at every attempt. -/
theorem send_of_keeps {host : NodeHost} {request : Http.Request}
    (hkeeps : ∀ fs, (host.serve request fs).2 = fs) (link : Link) (attempt count : Nat)
    (fs : FileSystem) :
    send host link request attempt count fs =
      (if ∃ later ∈ List.range' attempt count, link later = .answered then
        some (host.serve request fs).1 else none, fs) := by
  induction count generalizing attempt with
  | zero => simp [send]
  | succ count ih =>
    rw [List.range'_succ, send]
    cases hlink : link attempt with
    | lost => simp only [ih, List.exists_mem_cons_iff, hlink, reduceCtorEq, false_or]
    | unanswered =>
      simp only [ih, hkeeps, List.exists_mem_cons_iff, hlink, reduceCtorEq, false_or]
    | answered =>
      rw [if_pos ⟨attempt, List.mem_cons_self, hlink⟩]
      exact Prod.ext rfl (hkeeps fs)

/-- A call that changes no files comes to the same at every attempt. -/
theorem call_of_keeps {client : NodeClient} {host : NodeHost} {kind : ReplyKind}
    {call : NodeCall kind} (hkeeps : ∀ fs, (host.serve (client.request call) fs).2 = fs)
    (link : Link) (fs : FileSystem) :
    client.call host link call fs =
      (if link.Delivers (client.attemptsFor call) then
        (Received.ofResponse (host.serve (client.request call) fs).1).answer kind client.replica
      else .error (.transport "no response"), fs) := by
  have hdelivers : (∃ later ∈ List.range' 0 (client.attemptsFor call), link later = .answered) ↔
      link.Delivers (client.attemptsFor call) := by
    simp [Link.Delivers, List.mem_range'_1]
  rw [NodeClient.call, send_of_keeps hkeeps]
  simp only [hdelivers]
  by_cases hlink : link.Delivers (client.attemptsFor call)
  · simp only [if_pos hlink]
  · simp only [if_neg hlink]

end NodeClient

/-- The response to a selection brings the rows of the bound node's store, if that can be read. -/
theorem NodeHost.answer_call_select (host : NodeHost) (replica : String) (fs : FileSystem) :
    (host.call replica .select fs).2 = fs ∧ ∀ rows,
      (Received.ofResponse (host.call replica .select fs).1).answer .rows replica = .ok rows ↔
        ∃ node, host.nodes.get? replica = some node ∧ node.store.select fs = .ok rows := by
  rw [NodeHost.call]
  cases hnode : host.nodes.get? replica with
  | none => simp [Received.answer_missing]
  | some node =>
    simp only [StorageNode.answer, StorageNode.run, Option.some.injEq, exists_eq_left']
    cases hselect : node.store.select fs with
    | error e => simp [Received.answer_failure]
    | ok found => simp [Received.answer_rows]

namespace Registry

/-- **What a selection from a single replica gives.**  It brings rows if calls are answered, a node
is registered and its store can be read.  No file is changed. -/
theorem call_select_spec (registry : Registry) {id : ReplicaId} (h : id.IsValid)
    (fs : FileSystem) :
    (registry.call id .select fs).2 = fs ∧ ∀ rows,
      (registry.call id .select fs).1 = .ok rows ↔ registry.Delivers ∧
        ∃ node, registry.get? id = some node ∧ node.store.select fs = .ok rows := by
  cases registry with
  | inProcess nodes =>
    simp only [call, get?, Delivers, true_and]
    cases hnode : nodes.get? id with
    | none => simp
    | some node =>
      simp only [StorageNode.answer, StorageNode.run, Option.some.injEq, exists_eq_left']
      cases node.store.select fs <;> simp
  | networked host link attempts =>
    have hserve : ∀ fs, host.serve ((NodeClient.create "" id.text attempts).request .select) fs =
        host.call id.text .select fs := by
      rcases serve_request (.create "" id.text attempts) h rfl .select with
        hserve | ⟨-, -, hcarries, -⟩
      · exact hserve host
      · exact absurd rfl hcarries
    have hkeeps : ∀ fs,
        (host.serve ((NodeClient.create "" id.text attempts).request .select) fs).2 = fs :=
      fun fs => by rw [hserve, (host.answer_call_select id.text fs).1]
    obtain ⟨-, hanswer⟩ := host.answer_call_select id.text fs
    simp only [call, get?, Delivers, NodeClient.call_of_keeps hkeeps, hserve, ← hanswer]
    have hattempts : (NodeClient.create "" id.text attempts).attemptsFor .select =
        max attempts 1 := rfl
    rw [hattempts]
    by_cases hlink : link.Delivers (max attempts 1) <;> simp [hlink, NodeClient.create]

end Registry

/-! ## Replicas that can be read -/

/-- The replica can be read and has the given rows: it is taken for alive, calls are answered, a
node is registered for it, and the store of this node can be read. -/
structure Replica.Offers (cluster : Cluster) (replica : Replica) (rows : List String) : Prop where
  alive : replica.alive = true
  delivers : cluster.registry.Delivers
  reads : ∃ node, cluster.registry.get? replica.id = some node ∧
    node.store.select cluster.files = .ok rows

/-- A replica that is taken for alive offers the rows that a call on it brings. -/
theorem Replica.offers_iff {cluster : Cluster} {replica : Replica} (h : replica.id.IsValid)
    (halive : replica.alive = true) (rows : List String) :
    replica.Offers cluster rows ↔
      (cluster.registry.call replica.id .select cluster.files).1 = .ok rows := by
  rw [(cluster.registry.call_select_spec h cluster.files).2]
  exact ⟨fun hoffers => ⟨hoffers.delivers, hoffers.reads⟩,
    fun ⟨hdelivers, hreads⟩ => ⟨halive, hdelivers, hreads⟩⟩

namespace ReplicatedTable

variable {t : ReplicatedTable} {cluster : Cluster}

/-- The replica with the given number offers the rows, and none before it offers any. -/
structure IsFirstOffer (cluster : Cluster) (replicas : List Replica) (number : Nat)
    (rows : List String) : Prop where
  offers : ∃ replica, replicas[number]? = some replica ∧ replica.Offers cluster rows
  first : ∀ earlier < number, ∀ replica, replicas[earlier]? = some replica →
    ∀ others, ¬ replica.Offers cluster others

theorem isFirstOffer_zero {replica : Replica} {rows : List String}
    (h : replica.Offers cluster rows) (rest : List Replica) :
    IsFirstOffer cluster (replica :: rest) 0 rows :=
  ⟨⟨replica, rfl, h⟩, by simp⟩

theorem IsFirstOffer.cons {replicas : List Replica} {number : Nat} {rows : List String}
    (h : IsFirstOffer cluster replicas number rows) {replica : Replica}
    (hnot : ∀ others, ¬ replica.Offers cluster others) :
    IsFirstOffer cluster (replica :: replicas) (number + 1) rows := by
  refine ⟨by simpa using h.offers, fun earlier hearlier other hother => ?_⟩
  cases earlier with
  | zero =>
    obtain rfl : replica = other := by simpa using hother
    exact hnot
  | succ earlier =>
    exact h.first earlier (Nat.lt_of_succ_lt_succ hearlier) other (by simpa using hother)

theorem firstRows_cons_of_offers {replica : Replica} {rows : List String}
    (hvalid : replica.id.IsValid) (h : replica.Offers cluster rows) (rest : List Replica) :
    firstRows cluster ((replica :: rest).filter Replica.alive) = some rows := by
  have hcall := (Replica.offers_iff hvalid h.alive rows).1 h
  rw [List.filter_cons_of_pos h.alive, firstRows, hcall]

theorem firstRows_cons_of_not {replica : Replica} (hvalid : replica.id.IsValid)
    (h : ∀ rows, ¬ replica.Offers cluster rows) (rest : List Replica) :
    firstRows cluster ((replica :: rest).filter Replica.alive) =
      firstRows cluster (rest.filter Replica.alive) := by
  cases halive : replica.alive with
  | false => rw [List.filter_cons_of_neg (by simp [halive])]
  | true =>
    rw [List.filter_cons_of_pos halive, firstRows]
    cases hcall : (cluster.registry.call replica.id .select cluster.files).1 with
    | ok rows => exact absurd ((Replica.offers_iff hvalid halive rows).2 hcall) (h rows)
    | error e => rfl

/-- **A selection takes the rows of the first replica that offers some.**  Replicas that are taken
for dead are passed over, and so are those that do not answer with rows. -/
theorem firstRows_cases (cluster : Cluster) {replicas : List Replica}
    (hvalid : ∀ replica ∈ replicas, replica.id.IsValid) :
    (∃ number rows, firstRows cluster (replicas.filter Replica.alive) = some rows ∧
      IsFirstOffer cluster replicas number rows) ∨
    (firstRows cluster (replicas.filter Replica.alive) = none ∧
      ∀ replica ∈ replicas, ∀ rows, ¬ replica.Offers cluster rows) := by
  induction replicas with
  | nil => exact Or.inr ⟨rfl, by simp⟩
  | cons replica rest ih =>
    obtain ⟨hid, hvalid⟩ := List.forall_mem_cons.1 hvalid
    by_cases hoffers : ∃ rows, replica.Offers cluster rows
    · obtain ⟨rows, hoffers⟩ := hoffers
      exact Or.inl ⟨0, rows, firstRows_cons_of_offers hid hoffers rest,
        isFirstOffer_zero hoffers rest⟩
    · have hnot : ∀ rows, ¬ replica.Offers cluster rows := not_exists.1 hoffers
      rw [firstRows_cons_of_not hid hnot]
      rcases ih hvalid with ⟨number, rows, hfirst, hoffer⟩ | ⟨hnone, hnots⟩
      · exact Or.inl ⟨number + 1, rows, hfirst, hoffer.cons hnot⟩
      · exact Or.inr ⟨hnone, List.forall_mem_cons.2 ⟨hnot, hnots⟩⟩

/-! ## Partitions -/

/-- A replica of the partition can be read. -/
def CanRead (t : ReplicatedTable) (cluster : Cluster) (partition : Nat) : Prop :=
  ∃ replica ∈ t.replicas partition, ∃ rows, replica.Offers cluster rows

theorem canRead_of_isFirstOffer {partition number : Nat} {rows : List String}
    (h : IsFirstOffer cluster (t.replicas partition) number rows) :
    t.CanRead cluster partition := by
  obtain ⟨replica, hreplica, hoffers⟩ := h.offers
  exact ⟨replica, List.mem_of_getElem? hreplica, rows, hoffers⟩

/-- A partition is read as its first replica that can be read, or not at all. -/
theorem readPartition_cases (ht : t.Deployed) (cluster : Cluster) (partition : Nat) :
    (∃ number rows, t.readPartition cluster partition = .ok rows ∧
      IsFirstOffer cluster (t.replicas partition) number rows) ∨
    (t.readPartition cluster partition = .error (.noLiveReplica partition) ∧
      ¬ t.CanRead cluster partition) := by
  have hvalid : ∀ replica ∈ t.replicas partition, replica.id.IsValid :=
    fun replica hreplica => ht.isValid (List.mem_map_of_mem hreplica)
  rcases firstRows_cases cluster hvalid with
    ⟨number, rows, hfirst, hoffer⟩ | ⟨hnone, hnots⟩
  · exact Or.inl ⟨number, rows, by rw [readPartition, hfirst], hoffer⟩
  · refine Or.inr ⟨by rw [readPartition, hnone], ?_⟩
    rintro ⟨replica, hreplica, rows, hoffers⟩
    exact hnots replica hreplica rows hoffers

theorem readPartition_isOk_iff (ht : t.Deployed) (partition : Nat) :
    (∃ rows, t.readPartition cluster partition = .ok rows) ↔ t.CanRead cluster partition := by
  rcases readPartition_cases ht cluster partition with
    ⟨number, rows, hread, hoffer⟩ | ⟨herror, hnot⟩
  · exact iff_of_true ⟨rows, hread⟩ (canRead_of_isFirstOffer hoffer)
  · exact iff_of_false (by simp [herror]) hnot

/-- The partitions are read one after another, up to the first that cannot be read. -/
theorem readAll_cases (t : ReplicatedTable) (cluster : Cluster) {partitions : List Nat}
    (hascending : partitions.Pairwise (· < ·)) :
    (∀ partition ∈ partitions, ∃ rows, t.readPartition cluster partition = .ok rows) ∨
    ∃ partition ∈ partitions, ∃ e, t.readAll cluster partitions = .error e ∧
      t.readPartition cluster partition = .error e ∧
      ∀ earlier ∈ partitions, earlier < partition →
        ∃ rows, t.readPartition cluster earlier = .ok rows := by
  induction partitions with
  | nil => exact Or.inl (by simp)
  | cons first rest ih =>
    obtain ⟨hfirst, hascending⟩ := List.pairwise_cons.1 hascending
    cases hread : t.readPartition cluster first with
    | error e =>
      refine Or.inr ⟨first, List.mem_cons_self, e, by simp [readAll, hread], hread, ?_⟩
      intro earlier hearlier hlt
      rcases List.mem_cons.1 hearlier with rfl | hearlier
      · exact absurd hlt (Nat.lt_irrefl _)
      · exact absurd hlt (Nat.lt_asymm (hfirst earlier hearlier))
    | ok rows =>
      rcases ih hascending with hall | ⟨partition, hmem, e, herror, hfails, hbefore⟩
      · exact Or.inl (List.forall_mem_cons.2 ⟨⟨rows, hread⟩, hall⟩)
      · refine Or.inr ⟨partition, List.mem_cons_of_mem _ hmem, e, ?_, hfails, ?_⟩
        · simp [readAll, hread, herror]
        · exact List.forall_mem_cons.2 ⟨fun _ => ⟨rows, hread⟩, hbefore⟩

/-! ## Selections -/

/-- The payload is made of the rows of each partition, which are those of its first replica that can
be read. -/
structure Selects (t : ReplicatedTable) (cluster : Cluster) (rowsOf : Nat → List String)
    (payload : String) : Prop where
  offers : ∀ partition < t.router.partitionCount, ∃ number,
    IsFirstOffer cluster (t.replicas partition) number (rowsOf partition)
  /-- The rows of partitions by key follow one another. -/
  appended : t.router.layout.kind ≠ .vertical →
    payload = Text.unlines ((List.range t.router.partitionCount).flatMap rowsOf)
  /-- The rows of partitions by columns are joined. -/
  joined : t.router.layout.kind = .vertical →
    payload = Text.unlines (zipGroups ((List.range t.router.partitionCount).map fun partition =>
      (t.groupWidth partition, rowsOf partition)))

theorem mergeRows_of_vertical (h : t.router.layout.kind = .vertical)
    (rowsOf : Nat → List String) :
    t.mergeRows (t.router.partitions.map rowsOf) =
      zipGroups (t.router.partitions.map fun partition =>
        (t.groupWidth partition, rowsOf partition)) := by
  simp only [mergeRows, h]
  congr 1
  refine List.ext_getElem (by simp) fun partition hlt _ => ?_
  simp [Router.partitions]

/-- **A selection succeeds if all partitions can be read, and otherwise names the first that
cannot.** -/
theorem select_cases (ht : t.Deployed) (cluster : Cluster) :
    ((∀ partition < t.router.partitionCount, t.CanRead cluster partition) ∧
      ∃ rowsOf payload, t.select cluster = .ok payload ∧ t.Selects cluster rowsOf payload) ∨
    ∃ partition < t.router.partitionCount, ¬ t.CanRead cluster partition ∧
      (∀ earlier < partition, t.CanRead cluster earlier) ∧
      t.select cluster = .error (.noLiveReplica partition) := by
  have hascending : t.router.partitions.Pairwise (· < ·) := List.pairwise_lt_range
  rcases readAll_cases t cluster hascending with
    hall | ⟨partition, hmem, e, herror, hfails, hbefore⟩
  · choose! rowsOf hrowsOf using hall
    refine Or.inl ⟨fun partition hpartition => ?_, rowsOf,
      Text.unlines (t.mergeRows (t.router.partitions.map rowsOf)), ?_,
      fun partition hpartition => ?_, fun hkind => ?_, fun hkind => ?_⟩
    · exact (readPartition_isOk_iff ht partition).1
        ⟨_, hrowsOf partition (List.mem_range.2 hpartition)⟩
    · rw [select, readAll_of_forall hrowsOf, Except.map]
    · have hread := hrowsOf partition (List.mem_range.2 hpartition)
      rcases readPartition_cases ht cluster partition with
        ⟨number, rows, hrows, hoffer⟩ | ⟨herror, -⟩
      · obtain rfl : rows = rowsOf partition := Except.ok.inj (hrows.symm.trans hread)
        exact ⟨number, hoffer⟩
      · exact absurd (herror.symm.trans hread) (by simp)
    · rw [mergeRows_of_ne_vertical hkind, List.flatMap_def, Router.partitions]
    · rw [mergeRows_of_vertical hkind, Router.partitions]
  · have hpartition : partition < t.router.partitionCount := List.mem_range.1 hmem
    refine Or.inr ⟨partition, hpartition, ?_, fun earlier hlt => ?_, ?_⟩
    · rw [← readPartition_isOk_iff ht]
      simp [hfails]
    · exact (readPartition_isOk_iff ht earlier).1
        (hbefore earlier (List.mem_range.2 (hlt.trans hpartition)) hlt)
    · rcases readPartition_cases ht cluster partition with
        ⟨number, rows, hread, -⟩ | ⟨hread, -⟩
      · simp [hread] at hfails
      · obtain rfl : Error.noLiveReplica partition = e := by simpa [hread] using hfails
        rw [select, herror, Except.map]

/-! ## Files passed on from call to call -/

/-- The rows that the first of several replicas with an answer gives, and the files after all calls
up to that. -/
def firstRowsOn (registry : Registry) :
    List Replica → FileSystem → Option (List String) × FileSystem
  | [], files => (none, files)
  | replica :: rest, files =>
    match registry.call replica.id .select files with
    | (.ok rows, files) => (some rows, files)
    | (.error _, files) => firstRowsOn registry rest files

/-- The rows of a partition, and the files after the calls on its replicas. -/
def readPartitionOn (t : ReplicatedTable) (registry : Registry) (partition : Nat)
    (files : FileSystem) : Outcome Error (List String) :=
  match firstRowsOn registry ((t.replicas partition).filter Replica.alive) files with
  | (some rows, files) => (.ok rows, files)
  | (none, files) => (.error (.noLiveReplica partition), files)

/-- The rows of several partitions, and the files after the calls on their replicas. -/
def readAllOn (t : ReplicatedTable) (registry : Registry) :
    List Nat → FileSystem → Outcome Error (List (List String))
  | [], files => (.ok [], files)
  | partition :: rest, files =>
    match t.readPartitionOn registry partition files with
    | (.error e, files) => (.error e, files)
    | (.ok rows, files) =>
      match readAllOn t registry rest files with
      | (.error e, files) => (.error e, files)
      | (.ok others, files) => (.ok (rows :: others), files)

theorem firstRowsOn_eq {replicas : List Replica}
    (hvalid : ∀ replica ∈ replicas, replica.id.IsValid) :
    firstRowsOn cluster.registry replicas cluster.files =
      (firstRows cluster replicas, cluster.files) := by
  induction replicas with
  | nil => rfl
  | cons replica rest ih =>
    obtain ⟨hid, hvalid⟩ := List.forall_mem_cons.1 hvalid
    have hkeeps := (cluster.registry.call_select_spec hid cluster.files).1
    rw [firstRowsOn, firstRows]
    cases hcall : cluster.registry.call replica.id .select cluster.files with
    | mk reply files =>
      obtain rfl : files = cluster.files := by rw [← hkeeps, hcall]
      cases reply with
      | ok rows => rfl
      | error e => exact ih hvalid

theorem readPartitionOn_eq (ht : t.Deployed) (partition : Nat) :
    t.readPartitionOn cluster.registry partition cluster.files =
      (t.readPartition cluster partition, cluster.files) := by
  have hvalid : ∀ replica ∈ (t.replicas partition).filter Replica.alive, replica.id.IsValid :=
    fun replica hreplica => ht.isValid (List.mem_map_of_mem (List.mem_filter.1 hreplica).1)
  rw [readPartitionOn, readPartition, firstRowsOn_eq hvalid]
  cases firstRows cluster ((t.replicas partition).filter Replica.alive) <;> rfl

theorem readAllOn_eq (ht : t.Deployed) (partitions : List Nat) :
    t.readAllOn cluster.registry partitions cluster.files =
      (t.readAll cluster partitions, cluster.files) := by
  induction partitions with
  | nil => rfl
  | cons partition rest ih =>
    simp only [readAllOn, readAll, readPartitionOn_eq ht]
    cases t.readPartition cluster partition with
    | error e => rfl
    | ok rows =>
      simp only [ih]
      cases t.readAll cluster rest <;> rfl

end ReplicatedTable

/-! ## Selections -/

namespace LiveTable

variable {live : LiveTable}

/-- All rows of the table, and the table after the calls on its replicas. -/
def selectOn (live : LiveTable) : Except Error String × LiveTable :=
  match live.table.readAllOn live.cluster.registry live.table.router.partitions
      live.cluster.files with
  | (.error e, files) => (.error e, ⟨live.table, { live.cluster with files }⟩)
  | (.ok perPartition, files) => (.ok (Text.unlines (live.table.mergeRows perPartition)),
      ⟨live.table, { live.cluster with files }⟩)

/-- All calls of a selection see the same files. -/
theorem selectOn_eq (h : live.table.Deployed) : live.selectOn = (live.select, live) := by
  rw [selectOn, select, ReplicatedTable.select, ReplicatedTable.readAllOn_eq h]
  cases live.table.readAll live.cluster live.table.router.partitions <;> rfl

/-- **When a selection succeeds, and what it brings.**  It succeeds if every partition has a replica
that can be read, whatever is wrong with the others, and brings the rows of the first such replica
of each.  Otherwise it names the first partition without one.  It changes nothing. -/
theorem selection_available (ht : live.table.Deployed) :
    ((∃ payload, live.select = .ok payload) ↔
      ∀ partition < live.table.router.partitionCount,
        live.table.CanRead live.cluster partition) ∧
    (∀ payload, live.select = .ok payload →
      ∃ rowsOf, live.table.Selects live.cluster rowsOf payload) ∧
    (∀ e, live.select = .error e ↔ ∃ partition < live.table.router.partitionCount,
      e = .noLiveReplica partition ∧ ¬ live.table.CanRead live.cluster partition ∧
        ∀ earlier < partition, live.table.CanRead live.cluster earlier) ∧
    live.selectOn = (live.select, live) := by
  rcases ReplicatedTable.select_cases ht live.cluster with
    ⟨hall, rowsOf, payload, hselect, hselects⟩ | ⟨partition, hlt, hnot, hbefore, hselect⟩
  · refine ⟨iff_of_true ⟨payload, hselect⟩ hall, fun found hfound => ?_, fun e => ?_,
      selectOn_eq ht⟩
    · obtain rfl : payload = found := Except.ok.inj (hselect.symm.trans hfound)
      exact ⟨rowsOf, hselects⟩
    · refine iff_of_false (fun herror => ?_) ?_
      · exact absurd (hselect.symm.trans herror) (by simp)
      · rintro ⟨partition, hlt, -, hnot, -⟩
        exact hnot (hall partition hlt)
  · refine ⟨iff_of_false ?_ fun hall => hnot (hall partition hlt), fun payload hpayload => ?_,
      fun e => ⟨fun herror => ?_, ?_⟩, selectOn_eq ht⟩
    · rintro ⟨payload, hpayload⟩
      exact absurd (hselect.symm.trans hpayload) (by simp)
    · exact absurd (hselect.symm.trans hpayload) (by simp)
    · obtain rfl : Error.noLiveReplica partition = e :=
        Except.error.inj (hselect.symm.trans herror)
      exact ⟨partition, hlt, rfl, hnot, hbefore⟩
    · -- there is only one first partition that cannot be read
      rintro ⟨other, -, rfl, hnot', hbefore'⟩
      obtain rfl : other = partition := by
        rcases Nat.lt_trichotomy other partition with hless | heq | hgreater
        · exact absurd (hbefore other hless) hnot'
        · exact heq
        · exact absurd (hbefore' partition hgreater) hnot
      exact hselect

/-! ### A table of which little is left -/

/-- Two groups of columns with four replicas each.  The file of one replica cannot be read. -/
def gradebook : Except Error LiveTable :=
  launched ⟨"grades", .sql, some ["id", "mark"]⟩ 4 (.byColumns [["id"], ["mark"]])
    ⟨["data"], 1000⟩ ⟨.direct, { FileSystem.empty with
      faults := [⟨.read, ["data", "grades-SQL-0-2.csv"], .permissionDenied, 0⟩] }⟩

/-- A row is written.  Then one replica is found down and comes back without another heartbeat
round, and one is stopped without a heartbeat round that would notice it. -/
def gradebookActions : List Action :=
  [.write (.insertion "grades" ["id", "mark"] ["1", "A"]), .stop 0 0, .beat, .start 0 0, .stop 0 1]

/-- Three of the four replicas of the first group cannot be read, and the selection succeeds. -/
theorem selection_available_gradebook :
    ∃ start, gradebook = .ok start ∧ (run act start gradebookActions).table.Deployed ∧
      (run act start gradebookActions).select = .ok "1,A,\n" ∧
      (∀ partition < (run act start gradebookActions).table.router.partitionCount,
        (run act start gradebookActions).table.CanRead
          (run act start gradebookActions).cluster partition) ∧
      ∃ rowsOf, (run act start gradebookActions).table.Selects
        (run act start gradebookActions).cluster rowsOf "1,A,\n" := by
  obtain ⟨start, hlaunched, hselect⟩ := exists_of_test gradebook
    (fun start => (run act start gradebookActions).select = .ok "1,A,\n") (by decide)
  have hdeployed : (run act start gradebookActions).table.Deployed :=
    deployed_run (ReplicatedTable.create_ok (launched_ok hlaunched)).deployed gradebookActions
  obtain ⟨hiff, hselects, -, -⟩ := selection_available hdeployed
  exact ⟨start, hlaunched, hdeployed, hselect, hiff.1 ⟨_, hselect⟩, hselects _ hselect⟩

end LiveTable

end TableStore
