import TableStore.Proofs.Convergence
import TableStore.Proofs.Coordinators
import TableStore.Proofs.Reads

/-!
# Reads from the cache

A coordinator answers a selection from its cache as long as no write to the table was carried out
since the rows were read.  If every write that is carried out reaches all replicas that it is meant
for, the cached rows are those in the files, whichever replica of each partition one looks at.

* `Shows` says that a payload is made of the rows in the replicas' texts.  A selection that succeeds
  has such a payload (`shows_of_select`), and there is only one (`Shows.unique`).
* `coherent_invariant` is about single tables in clusters whose calls are answered: the replicas of
  each partition agree, and cached rows are shown by them.  If heartbeats are not answered, no
  replica is ever taken for alive and nothing is cached (`unheard_invariant`).
* `cached_payload` is the result for runs of a coordinator.
-/

namespace TableStore

namespace ReplicatedTable

variable {t : ReplicatedTable} {held : ReplicaId → String} {cluster : Cluster}
  {payload payload' : String}

/-! ## Payloads -/

/-- The answer to a selection that finds the given rows in the partitions. -/
def payloadOf (t : ReplicatedTable) (rowsOf : Nat → List String) : String :=
  Text.unlines (t.mergeRows (t.router.partitions.map rowsOf))

/-- The payload is made of the rows in the texts of the replicas, whichever replica of each
partition they are taken from. -/
def Shows (t : ReplicatedTable) (held : ReplicaId → String) (payload : String) : Prop :=
  ∃ rowsOf, payload = t.payloadOf rowsOf ∧ ∀ partition, ∀ node ∈ t.nodes partition,
    ∃ text, NodeCall.select.perform node.store (held node.id) = some (rowsOf partition, text)

/-- Texts show one payload only. -/
theorem Shows.unique (ht : t.Deployed) (h : t.Shows held payload) (h' : t.Shows held payload') :
    payload = payload' := by
  obtain ⟨rowsOf, rfl, hrows⟩ := h
  obtain ⟨rowsOf', rfl, hrows'⟩ := h'
  have hsame : ∀ partition ∈ t.router.partitions, rowsOf partition = rowsOf' partition := by
    intro partition hpartition
    have hne := ht.nodes_ne_nil (List.mem_range.1 hpartition)
    obtain ⟨node, hnode⟩ := List.exists_mem_of_ne_nil _ hne
    obtain ⟨text, hperform⟩ := hrows partition node hnode
    obtain ⟨text', hperform'⟩ := hrows' partition node hnode
    rw [hperform] at hperform'
    exact (Prod.mk.inj (Option.some.inj hperform')).1
  rw [payloadOf, payloadOf, List.map_congr_left hsame]

/-- What a selection answers is shown by the replicas if they agree. -/
theorem shows_of_select (ht : t.Deployed) (hs : t.Attends held cluster) (hagree : t.Agree held)
    (h : t.select cluster = .ok payload) : t.Shows held payload := by
  unfold select at h
  cases hall : t.readAll cluster t.router.partitions with
  | error e => simp [hall, Except.map] at h
  | ok all =>
    obtain rfl : Text.unlines (t.mergeRows all) = payload := by simpa [hall, Except.map] using h
    let rowsOf : Nat → List String := fun partition =>
      (t.readPartition cluster partition).toOption.getD []
    have hrows : all = t.router.partitions.map rowsOf := by
      refine readAll_ok (fun partition _ rows hread => ?_) hall
      simp [rowsOf, hread, Except.toOption]
    refine ⟨rowsOf, by rw [payloadOf, hrows], fun partition node hnode => ?_⟩
    have hpartition : partition ∈ t.router.partitions :=
      List.mem_range.2 (ht.lt_partitionCount hnode)
    obtain ⟨rows, hread⟩ := exists_of_readAll hall partition hpartition
    obtain ⟨replica, hreplica, -, text, hperform⟩ := readPartition_ok ht hs hread
    have hfound : rowsOf partition = rows := by simp [rowsOf, hread, Except.toOption]
    refine ⟨text, ?_⟩
    rw [hfound, perform_of_agree ht hagree hnode (List.mem_map_of_mem hreplica)]
    exact hperform

/-- Every partition has a replica that is taken for alive and is registered. -/
def Available (t : ReplicatedTable) (cluster : Cluster) : Prop :=
  ∀ partition ∈ t.router.partitions, ∃ replica ∈ t.replicas partition,
    replica.alive = true ∧ cluster.registry.reaches replica.id = true

instance (t : ReplicatedTable) (cluster : Cluster) : Decidable (t.Available cluster) :=
  inferInstanceAs (Decidable (∀ _ ∈ _, ∃ _ ∈ _, _ ∧ _))

/-- A selection succeeds if every partition has a replica to read from. -/
theorem select_of_available (ht : t.Deployed) (hs : t.Serves held cluster)
    (hagree : t.Agree held) (hshows : t.Shows held payload) (h : t.Available cluster) :
    t.select cluster = .ok payload := by
  obtain ⟨rowsOf, hpayload, hrows⟩ := id hshows
  have hread : ∀ partition ∈ t.router.partitions, t.readPartition cluster partition =
      .ok ((t.readPartition cluster partition).toOption.getD []) := by
    intro partition hpartition
    obtain ⟨replica, hreplica, halive, hreached⟩ := h partition hpartition
    obtain ⟨text, hperform⟩ := hrows partition replica.node (List.mem_map_of_mem hreplica)
    have hcall := call_select ht hs hreplica hreached hperform
    obtain ⟨found, hfound⟩ :=
      readPartition_of_call hreplica halive (congrArg Prod.fst hcall)
    simp [hfound, Except.toOption]
  obtain ⟨payload', hselect⟩ : ∃ payload', t.select cluster = .ok payload' := by
    rw [select, readAll_of_forall hread]
    exact ⟨_, rfl⟩
  rw [hselect, hshows.unique ht (shows_of_select ht hs.toAttends hagree hselect)]

/-! ## The invariant of a table -/

/-- The replicas of every partition agree, and what is cached is shown by them. -/
def Coherent (t : ReplicatedTable) (held : ReplicaId → String) (cached : Option String) : Prop :=
  t.Agree held ∧ ∀ payload ∈ cached, t.Shows held payload

/-- A complete write keeps the agreement of the replicas. -/
theorem agree_write (ht : t.Deployed) {operation : Operation} {cluster' : Cluster}
    {summary : Summary} (hs : t.Attends held cluster) (hagree : t.Agree held)
    (h : t.write operation cluster = (.ok summary, cluster'))
    (hcomplete : summary.isComplete = true) :
    ∃ held', t.Keeps held' cluster' ∧ t.Agree held' := by
  have hfaultless := Summary.faultless_of_nil (failures_of_isComplete h hcomplete)
  obtain ⟨-, plan, positions, held', -, -, -, -, rfl, hs', hcarried⟩ :=
    attended_write ht hs h hfaultless
  rw [Registry.isComplete_summaryOf] at hcomplete
  refine ⟨held', hs'.toKeeps, carried_agree ht hcarried (fun call hcall node hnode => ?_) hagree⟩
  exact hcomplete node.id (List.mem_flatMap.2 ⟨call, hcall, List.mem_map_of_mem hnode⟩)

/-- **Tables stay coherent**, if calls are answered and no file is reported as missing. -/
theorem coherent_invariant : Coordinator.TableInvariant
    (fun cluster => cluster.registry.Responds ∧ cluster.files.Intact) Coherent where
  cluster hq hspares := ⟨hspares.responds.2 hq.1, hq.2.of_faults hspares.faults⟩
  create _ h := ⟨agree_newText (create_ok h).deployed, by simp⟩
  write hq ht hkeeps hcoherent h hcomplete := by
    obtain ⟨held', hkeeps', hagree'⟩ :=
      agree_write ht ⟨hkeeps, hq.1, hq.2⟩ hcoherent.1 h hcomplete
    exact ⟨held', hkeeps', hagree', by simp⟩
  select hq ht hkeeps hcoherent h := by
    refine ⟨hcoherent.1, fun payload hpayload => ?_⟩
    obtain rfl := Option.some.inj hpayload
    exact shows_of_select ht ⟨hkeeps, hq.1, hq.2⟩ hcoherent.1 h
  beat {t held cached cluster} _ _ hcoherent := by
    have hshows : ∀ payload, (t.beat cluster).Shows held payload ↔ t.Shows held payload := by
      intro payload
      simp only [Shows, nodes_beat]
      rfl
    refine ⟨fun partition => ?_, fun payload hpayload => ?_⟩
    · rw [nodes_beat]
      exact hcoherent.1 partition
    · exact (hshows payload).2 (hcoherent.2 payload hpayload)

/-! ## Networks without answers -/

/-- No replica is taken for alive, and nothing is cached. -/
def Unheard (t : ReplicatedTable) (_ : ReplicaId → String) (cached : Option String) : Prop :=
  (∀ partition, ∀ replica ∈ t.replicas partition, replica.alive = false) ∧ cached = none

/-- Nothing is read from a table whose replicas are down. -/
theorem select_of_down (ht : t.Deployed)
    (hdown : ∀ partition, ∀ replica ∈ t.replicas partition, replica.alive = false) :
    t.select cluster ≠ .ok payload := by
  intro h
  have hzero : 0 ∈ t.router.partitions :=
    List.mem_range.2 (Layout.partitionCount_pos ht.layout)
  unfold select at h
  cases hall : t.readAll cluster t.router.partitions with
  | error e => simp [hall, Except.map] at h
  | ok all =>
    obtain ⟨rows, hread⟩ := exists_of_readAll hall 0 hzero
    have hnone : (t.replicas 0).filter Replica.alive = [] := by
      simpa [List.filter_eq_nil_iff] using hdown 0
    simp [readPartition, hnone, firstRows] at hread

/-- A write that is not refused calls no replica that is down. -/
theorem not_plans_of_down (ht : t.Deployed)
    (hdown : ∀ partition, ∀ replica ∈ t.replicas partition, replica.alive = false)
    {operation : Operation} {cluster' : Cluster} {summary : Summary}
    (h : t.write operation cluster = (.ok summary, cluster')) {partition : Nat}
    {node : StorageNode} (hnode : node ∈ t.nodes partition) (call : AnyCall) :
    ¬ t.Plans operation (partition, call) := by
  rintro ⟨plan, positions, hplan, hcall⟩
  rcases write_cases t operation cluster with ⟨e, hwrite⟩ | ⟨plan', hplan', halive, -⟩
  · simp [hwrite] at h
  · obtain rfl := Except.ok.inj (hplan.symm.trans hplan')
    have hchecked := Plan.called_subset (fits_plan? ht hplan) positions _ hcall
    obtain ⟨replica, hreplica, -⟩ := List.mem_map.1 hnode
    simpa [hdown partition replica hreplica] using
      alive_of_checkAllAlive halive hchecked replica hreplica

/-- **Tables stay unheard** in a network that does not answer the first attempt at a call. -/
theorem unheard_invariant : Coordinator.TableInvariant
    (fun cluster => ¬ cluster.registry.Responds) Unheard where
  cluster hq hspares := fun hresponds => hq (hspares.responds.1 hresponds)
  create {table count layout settings cluster cluster' t} hq h := by
    have hspares := spares_create table count layout settings cluster
    rw [h] at hspares
    refine ⟨fun partition replica hreplica => ?_, rfl⟩
    rw [← Bool.not_eq_true, (create_ok h).alive partition replica hreplica, hspares.responds]
    exact hq
  write {t held cached operation cluster cluster' summary} _ ht hkeeps hunheard h _ := by
    have heffect := write_effect ht operation hkeeps.registered
    rw [h] at heffect
    have hnone {partition : Nat} {node : StorageNode} (hnode : node ∈ t.nodes partition)
        (call : AnyCall) : ¬ t.Plans operation (partition, call) :=
      not_plans_of_down ht hunheard.1 h hnode call
    refine ⟨held, ⟨heffect.registry ▸ hkeeps.registered, fun partition node hnode => ?_⟩,
      hunheard.1, rfl⟩
    obtain ⟨text, hheld, hbecomes⟩ := heffect.becomes ht hnode (hkeeps.holds partition node hnode)
      fun call _ hplanned => absurd hplanned (hnone hnode call)
    obtain rfl : held node.id = text := hbecomes.invariant
      (fun call hplanned => absurd hplanned (hnone hnode call)) rfl
    exact hheld
  select _ ht _ hunheard h := absurd h (select_of_down ht hunheard.1)
  beat {t held cached cluster} hq ht hunheard := by
    refine ⟨fun partition replica hreplica => ?_, hunheard.2⟩
    rw [replicas_beat] at hreplica
    obtain ⟨before, hbefore, rfl⟩ := List.mem_map.1 hreplica
    rw [← Bool.not_eq_true, alive_beat (ht.isValid (List.mem_map_of_mem hbefore))]
    exact fun h => hq h.1

end ReplicatedTable

/-! ## Runs of a coordinator -/

namespace Coordinator

/-- The coordinator with nothing in its cache. -/
def uncached (c : Coordinator) : Coordinator := { c with cache := ∅ }

theorem select_eq_of_cached {c : Coordinator} {request : SelectRequest} {t : ReplicatedTable}
    {payload : String} (ht : c.tables.get? (tableKey request.table request.kind) = some t)
    (h : c.cache.get? t.table.key = some payload) : (c.select request).1 = .ok payload := by
  simp only [select, find, ht, h]

theorem select_uncached {c : Coordinator} {request : SelectRequest} {t : ReplicatedTable}
    (ht : c.tables.get? (tableKey request.table request.kind) = some t) :
    (c.uncached.select request).1 = t.select c.cluster := by
  simp only [select, find, uncached, ht, KeyMap.get?_empty]
  cases t.select c.cluster <;> rfl

/-- **The cache is transparent.**  After every run in which writes complete, rows that are cached
for a table are those in its files, whichever replica of each partition one looks at.  So a
selection that is answered from the cache has the answer that it would have without the cache: if
there is an answer, it is this one, and there is one if every partition has a replica that is
taken for alive and is registered. -/
theorem cached_payload {cluster : Cluster} {settings : ReplicationSettings}
    (hintact : cluster.files.Intact) {events : List Event}
    (hcomplete : Throughout next CompletesWrites (empty cluster settings) events)
    {key payload : String}
    (hcached : (run next (empty cluster settings) events).cache.get? key = some payload) :
    ∃ t, (run next (empty cluster settings) events).tables.get? key = some t ∧
      (∃ rowsOf, payload = t.payloadOf rowsOf ∧
        ∀ partition, ∀ replica ∈ t.replicas partition, replica.node.store.HasRows
          (run next (empty cluster settings) events).cluster.files (rowsOf partition)) ∧
      ∀ request : SelectRequest, tableKey request.table request.kind = key →
        ((run next (empty cluster settings) events).select request).1 = .ok payload ∧
        (∀ payload', ((run next (empty cluster settings) events).uncached.select request).1 =
          .ok payload' → payload' = payload) ∧
        ((run next (empty cluster settings) events).cluster.files.Readable →
          t.Available (run next (empty cluster settings) events).cluster →
          ((run next (empty cluster settings) events).uncached.select request).1 =
            .ok payload) := by
  by_cases hresponds : cluster.registry.Responds
  · have hmaintains :=
      maintains_run ReplicatedTable.coherent_invariant ⟨hresponds, hintact⟩ hcomplete
    generalize run next (empty cluster settings) events = c at hcached hmaintains
    cases hget : c.tables.get? key with
    | none =>
      have hnone := hmaintains.rest key hget
      simp [hnone] at hcached
    | some t =>
      obtain ⟨hkey, ht, held, hkeeps, hagree, hshows⟩ := hmaintains.table key t hget
      have hattends : t.Attends held c.cluster :=
        ⟨hkeeps, hmaintains.cluster.1, hmaintains.cluster.2⟩
      have hshown := hshows payload hcached
      refine ⟨t, rfl, ?_, ?_⟩
      · obtain ⟨rowsOf, hpayload, hrows⟩ := hshown
        refine ⟨rowsOf, hpayload, fun partition replica hreplica => ?_⟩
        have hnode : replica.node ∈ t.nodes partition := List.mem_map_of_mem hreplica
        obtain ⟨text, hperform⟩ := hrows partition replica.node hnode
        exact .of_perform (hkeeps.holds partition replica.node hnode) hperform
      · intro request hrequest
        rw [← hrequest] at hget
        rw [← hkey] at hcached
        rw [select_uncached hget]
        refine ⟨select_eq_of_cached hget hcached, fun payload' hselect => ?_,
          fun hreads havailable => ?_⟩
        · exact (ReplicatedTable.shows_of_select ht hattends hagree hselect).unique ht hshown
        · exact ReplicatedTable.select_of_available ht ⟨hattends, hreads⟩ hagree hshown havailable
  · have hmaintains := maintains_run ReplicatedTable.unheard_invariant hresponds hcomplete
    generalize run next (empty cluster settings) events = c at hcached hmaintains
    cases hget : c.tables.get? key with
    | none => simp [hmaintains.rest key hget] at hcached
    | some t =>
      obtain ⟨-, -, held, -, -, hnone⟩ := hmaintains.table key t hget
      simp [hnone] at hcached

/-- Guests by columns and rooms by key.  The guests are read, one of their replicas is stopped, and
the next write to them is refused. -/
def hotel : List Event :=
  [.create ⟨⟨"guests", .sql, some ["id", "name"]⟩, 2, .byColumns [["id"], ["name"]]⟩,
    .create ⟨⟨"rooms", .noSql, none⟩, 1, .byKey 2⟩,
    .create ⟨⟨"rooms", .noSql, none⟩, 1, .single⟩,
    .write .insert ⟨.sql, .insertion "guests" ["id", "name"] ["1", "Alice"]⟩,
    .write .insert ⟨.noSql, .insertion "rooms" ["number"] ["12"]⟩,
    .select ⟨.sql, "guests"⟩, .select ⟨.noSql, "rooms"⟩,
    .stop ⟨.sql, "guests", 1, 0⟩, .beat,
    .write .delete ⟨.sql, .removal "guests" ⟨"id", "1"⟩⟩,
    .write .delete ⟨.noSql, .removal "rooms" ⟨"number", "12"⟩⟩]

/-- The guests are still cached, and the rooms are not. -/
theorem cached_payload_hotel :
    Throughout next CompletesWrites (empty ⟨.direct, .empty⟩ ⟨["data"], 1000⟩) hotel ∧
      (run next (empty ⟨.direct, .empty⟩ ⟨["data"], 1000⟩) hotel).cache.get? "guests-SQL" =
        some "1,Alice,\n" ∧
      ∃ t, (run next (empty ⟨.direct, .empty⟩ ⟨["data"], 1000⟩) hotel).tables.get? "guests-SQL" =
          some t ∧
        ∃ rowsOf, "1,Alice,\n" = t.payloadOf rowsOf ∧
          ∀ partition, ∀ replica ∈ t.replicas partition, replica.node.store.HasRows
            (run next (empty ⟨.direct, .empty⟩ ⟨["data"], 1000⟩) hotel).cluster.files
              (rowsOf partition) := by
  have hcomplete :
      Throughout next CompletesWrites (empty ⟨.direct, .empty⟩ ⟨["data"], 1000⟩) hotel := by
    decide
  have hcached : (run next (empty ⟨.direct, .empty⟩ ⟨["data"], 1000⟩) hotel).cache.get?
      "guests-SQL" = some "1,Alice,\n" := by decide
  obtain ⟨t, ht, hrows, -⟩ := cached_payload (by decide) hcomplete hcached
  exact ⟨hcomplete, hcached, t, ht, hrows⟩

end Coordinator

end TableStore
