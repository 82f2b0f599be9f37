import TableStore.Proofs.ColumnRuns

/-!
# Reads while replicas come and go

A write that is made before a heartbeat round has noticed a stop reaches only some of the
replicas, and nothing brings the others up to date once they are back.  A later selection can
therefore read rows that do not belong together (`reads_can_mix_rows`).

Replicas that are behind are the only ones to blame.  A replica falls behind at a write that it
misses, or at one for which a replica that is behind told it where the rows are (`Tracked.left`).
A selection that is answered by no such replica returns the logical rows
(`current_replicas_read_rows`), whatever the run.
-/

namespace TableStore

open LogicalRow (slice)

namespace LiveTable

/-- What is asked of the steps of a run: operations are accepted, and no write fails on a
registered replica. -/
def Accepts (live : LiveTable) : Action → Prop
  | .write operation => operation.validate live.table.table = .ok () ∧
      ∀ summary ∈ live.summary? (.write operation), summary.Faultless
  | _ => True

instance (live : LiveTable) : ∀ action, Decidable (live.Accepts action)
  | .write _ => inferInstanceAs (Decidable (_ ∧ ∀ _ ∈ _, _))
  | .select | .stop _ _ | .start _ _ | .beat => inferInstanceAs (Decidable True)

end LiveTable

/-- A table with the rows that its writes should have made, and the replicas that may have missed
some of them. -/
structure Tracked where
  live : LiveTable
  rows : List LogicalRow
  behind : List String

namespace Tracked

open LiveTable

variable {s : Tracked} {groups : List (List String)} {action : Action}

/-- A new table. -/
def new (live : LiveTable) : Tracked := ⟨live, [], []⟩

/-- The replicas that a write leaves behind: those that miss it, and those that go by the
positions of one that is behind. -/
def left (s : Tracked) (operation : Operation) (summary : Summary) : List String :=
  let misled :=
    if (s.live.table.source? s.live.cluster operation).any fun source =>
        s.behind.contains source.id.text
    then (s.live.table.followers operation).flatMap fun partition =>
      (s.live.table.idsOf partition).map ReplicaId.text
    else []
  summary.failures.map ReplicaFailure.replica ++ misled

/-- One step.  A write that no replica carries out is none. -/
def next (s : Tracked) (action : Action) : Tracked :=
  let live := s.live.act action
  match action, s.live.summary? action with
  | .write operation, some summary =>
    if summary.succeeded = 0 then { s with live }
    else ⟨live, operation.apply s.rows, s.behind ++ s.left operation summary⟩
  | _, _ => { s with live }

/-- What holds throughout a run: replicas that are not behind hold the slices of the rows. -/
structure InStep (s : Tracked) (groups : List (List String)) : Prop where
  grouped : s.live.table.Grouped groups
  written : ∀ row ∈ s.rows, row.IsWritten
  inStep : ∃ held, s.live.InService held ∧
    s.live.table.InStep groups held s.rows fun id => id.text ∉ s.behind

theorem next_of_not_write (s : Tracked) (h : ∀ operation, action ≠ .write operation) :
    s.next action = { s with live := s.live.act action } := by
  cases action with
  | write operation => exact absurd rfl (h operation)
  | _ => rfl

theorem inStep_next_of_not_write (h : s.InStep groups)
    (hnot : ∀ operation, action ≠ .write operation) : (s.next action).InStep groups := by
  obtain ⟨held, hservice, hstep⟩ := h.inStep
  have hsame := sameTable_act s.live action
  rw [next_of_not_write s hnot]
  refine ⟨h.grouped.congr hsame.table hsame.router, h.written, held,
    hservice.act_of_not_write hnot, fun partition names hnames node hnode => ?_⟩
  exact hstep partition names hnames node (hsame.nodes partition ▸ hnode)

/-- A replica that a write does not leave behind was told the right positions, if any. -/
theorem guided_of_notMem_left {operation : Operation} {summary : Summary} {partition : Nat}
    {node : StorageNode} (ht : s.live.table.Deployed) (hnode : node ∈ s.live.table.nodes partition)
    (h : node.id.text ∉ s.left operation summary) :
    s.live.table.Guided s.live.cluster operation (fun id => id.text ∉ s.behind) node.id := by
  refine or_iff_not_imp_left.2 fun hstale hfollows => h ?_
  obtain ⟨source, hsource, hbehind⟩ : ∃ source ∈ s.live.table.source? s.live.cluster operation,
      source.id.text ∈ s.behind := by simpa using hstale
  have hany : ((s.live.table.source? s.live.cluster operation).any fun source =>
      s.behind.contains source.id.text) = true := by
    rw [Option.mem_def.1 hsource]
    simpa using hbehind
  rw [left, if_pos hany, List.mem_append]
  rw [ht.partition_eq hnode] at hfollows
  exact Or.inr (List.mem_flatMap.2
    ⟨partition, hfollows, List.mem_map_of_mem (List.mem_map_of_mem hnode)⟩)

theorem inStep_next_write {operation : Operation} (h : s.InStep groups)
    (haccepts : s.live.Accepts (.write operation)) : (s.next (.write operation)).InStep groups := by
  obtain ⟨held, hservice, hstep⟩ := h.inStep
  have haccepted := h.grouped.accepted haccepts.1
  cases houtcome : s.live.table.write operation s.live.cluster with
  | mk reply cluster =>
    have hsummary : s.live.summary? (.write operation) = reply.toOption := by
      rw [summary?, houtcome]
    cases reply with
    | error e =>
      have hnext : s.next (.write operation) = s := by
        have herror := act_write_of_error (e := e) (by rw [houtcome])
        simp only [next, hsummary, herror, Except.toOption]
      rwa [hnext]
    | ok summary =>
      have hfaultless : summary.Faultless := haccepts.2 summary (by
        rw [hsummary]
        rfl)
      obtain ⟨-, held', hs', hnone, hsome⟩ := ReplicatedTable.write_inStep hservice.deployed
        h.grouped haccepted h.written hservice.serves hstep houtcome hfaultless
      have hact : s.live.act (.write operation) = ⟨s.live.table, cluster⟩ := by rw [act, houtcome]
      simp only [next, hsummary, hact, Except.toOption]
      split
      · next hzero => exact ⟨h.grouped, h.written, held', ⟨hservice.deployed, hs'⟩, hnone hzero⟩
      · next hne =>
        refine ⟨h.grouped, Operation.isWritten_apply haccepted h.written, held',
          ⟨hservice.deployed, hs'⟩, fun partition names hnames node hnode hcurrent => ?_⟩
        obtain ⟨hbefore, hleft⟩ := not_or.1 (List.mem_append.not.1 hcurrent)
        refine hsome (Or.inl hne) partition names hnames node hnode ⟨hbefore, ?_, ?_⟩
        · exact fun hmem => hleft (List.mem_append_left _ hmem)
        · exact guided_of_notMem_left hservice.deployed hnode hleft

/-- **Every step keeps the replicas that are not behind in step.** -/
theorem inStep_next (h : s.InStep groups) (haccepts : s.live.Accepts action) :
    (s.next action).InStep groups := by
  by_cases hwrite : ∃ operation, action = .write operation
  · obtain ⟨operation, rfl⟩ := hwrite
    exact inStep_next_write h haccepts
  · exact inStep_next_of_not_write h fun operation heq => hwrite ⟨operation, heq⟩

/-! ## Selections -/

/-- Whether a selection is answered by replicas only that are not behind. -/
def ReadsCurrent (s : Tracked) : Prop :=
  ∀ partition ∈ s.live.table.router.partitions,
    ∀ replica ∈ s.live.table.reader? s.live.cluster partition, replica.id.text ∉ s.behind

instance (s : Tracked) : Decidable s.ReadsCurrent := inferInstanceAs (Decidable (∀ _ ∈ _, _))

/-- A partition whose reader is not behind reads the slices of the rows. -/
theorem readPartition_inStep (h : s.InStep groups) (hcurrent : s.ReadsCurrent) {partition : Nat}
    (hpartition : partition ∈ s.live.table.router.partitions) {lines : List String}
    (hread : s.live.table.readPartition s.live.cluster partition = .ok lines) :
    lines = ReplicatedTable.slicesOf groups s.rows partition := by
  obtain ⟨held, hservice, hstep⟩ := h.inStep
  obtain ⟨replica, hreplica, hreader, text, hperform⟩ :=
    ReplicatedTable.readPartition_ok hservice.deployed hservice.serves.toAttends hread
  obtain ⟨text', hperform'⟩ := ReplicatedTable.select_inStep hservice.deployed h.grouped h.written
    hstep (List.mem_range.1 hpartition) (List.mem_map_of_mem hreplica)
    (hcurrent partition hpartition replica hreader)
  exact (Prod.mk.inj (Option.some.inj (hperform.symm.trans hperform'))).1

/-- A selection that is answered by no replica that is behind reads the rows. -/
theorem select_inStep (h : s.InStep groups) (hcurrent : s.ReadsCurrent) {payload : String}
    (hselect : s.live.select = .ok payload) :
    payload = Text.unlines (s.rows.map (slice groups.flatten)) ∧
      ∀ partition names, groups[partition]? = some names →
        s.live.table.readPartition s.live.cluster partition = .ok (s.rows.map (slice names)) := by
  obtain ⟨held, hservice, -⟩ := h.inStep
  unfold LiveTable.select ReplicatedTable.select at hselect
  cases hall : s.live.table.readAll s.live.cluster s.live.table.router.partitions with
  | error e => simp [hall, Except.map] at hselect
  | ok all =>
    obtain rfl : Text.unlines (s.live.table.mergeRows all) = payload := by
      simpa [hall, Except.map] using hselect
    obtain rfl := ReplicatedTable.readAll_ok
      (fun _ hpartition _ => readPartition_inStep h hcurrent hpartition) hall
    refine ⟨by rw [ReplicatedTable.mergeRows_slices hservice.deployed h.grouped], ?_⟩
    intro partition names hnames
    have hpartition : partition ∈ s.live.table.router.partitions :=
      List.mem_range.2 (h.grouped.length ▸ (List.getElem?_eq_some_iff.1 hnames).1)
    obtain ⟨lines, hread⟩ := ReplicatedTable.exists_of_readAll hall partition hpartition
    rw [hread, readPartition_inStep h hcurrent hpartition hread, ReplicatedTable.slicesOf, hnames]
    rfl

variable {c : Coordinator} {request : CreateRequest} {live : LiveTable} {actions : List Action}

/-- The replicas of a new table are in step with no rows. -/
theorem inStep_new (hresponds : c.cluster.registry.Responds) (hreads : c.cluster.files.Readable)
    (hcreated : created c request = .ok live) (hkind : request.layout.kind = .vertical)
    (hgroups : request.layout.columnGroups = some groups) : (new live).InStep groups := by
  have hg := grouped_created hresponds hreads hcreated hkind hgroups
  obtain ⟨hservice, -⟩ := created_inService hresponds hreads hcreated
  exact ⟨hg, by simp [new], _, hservice, inStep_created hservice hg _⟩

/-- **Replicas that are not behind read the rows.**  Whatever operations are accepted, and
whenever replicas are stopped and started, a selection that is answered by no replica that is
behind returns the logical rows: row `i` of every group of columns is a part of row `i`. -/
theorem current_replicas_read_rows (hresponds : c.cluster.registry.Responds)
    (hreads : c.cluster.files.Readable) (hcreated : created c request = .ok live)
    (hkind : request.layout.kind = .vertical)
    (hgroups : request.layout.columnGroups = some groups)
    (hrun : Throughout next (fun s => s.live.Accepts) (new live) actions) {payload : String}
    (hselect : (run next (new live) actions).live.select = .ok payload)
    (hcurrent : (run next (new live) actions).ReadsCurrent) :
    payload = Text.unlines ((run next (new live) actions).rows.map (slice groups.flatten)) ∧
      ∀ partition names, groups[partition]? = some names →
        (run next (new live) actions).live.table.readPartition
            (run next (new live) actions).live.cluster partition =
          .ok ((run next (new live) actions).rows.map (slice names)) := by
  have hstep : ∀ (s : Tracked) action, s.InStep groups → s.live.Accepts action →
      (s.next action).InStep groups := fun _ _ hstep haccepts => inStep_next hstep haccepts
  exact select_inStep (hrun.invariant hstep (inStep_new hresponds hreads hcreated hkind hgroups))
    hcurrent hselect

/-- Two groups of columns with two replicas each. -/
def students : CreateRequest :=
  ⟨⟨"students", .sql, some ["id", "name", "age"]⟩, 2, .byColumns [["id", "name"], ["age"]]⟩

/-- The second replica of the first group misses an insertion, and two heartbeat rounds pass while
it is away. -/
def absence : List Action :=
  [.write (.insertion "students" ["id", "name", "age"] ["1", "Alice", "20"]), .stop 0 1,
    .write (.insertion "students" ["id", "age"] ["2", "30"]), .beat, .select, .start 0 1, .beat,
    .write (.assignment "students" ["age", "name"] ["31", "Bob"] ⟨"id", "2"⟩),
    .write (.removal "students" ⟨"age", "20"⟩)]

/-- The first replica answers, and nobody notices that the second one is behind. -/
theorem current_replicas_read_rows_absence :
    ∃ live, created emptyCoordinator students = .ok live ∧
      Throughout next (fun s => s.live.Accepts) (new live) absence ∧
      (run next (new live) absence).behind ≠ [] ∧ (run next (new live) absence).ReadsCurrent ∧
      ∃ payload, (run next (new live) absence).live.select = .ok payload ∧
        payload = Text.unlines
          ((run next (new live) absence).rows.map (slice ["id", "name", "age"])) ∧
        ∀ partition names, [["id", "name"], ["age"]][partition]? = some names →
          (run next (new live) absence).live.table.readPartition
              (run next (new live) absence).live.cluster partition =
            .ok ((run next (new live) absence).rows.map (slice names)) := by
  obtain ⟨live, hcreated, hrun, hbehind, hselect, hcurrent⟩ :=
    exists_of_test (created emptyCoordinator students)
      (fun live => Throughout next (fun s => s.live.Accepts) (new live) absence ∧
        (run next (new live) absence).behind ≠ [] ∧
        (run next (new live) absence).live.select = .ok "2,Bob,31,\n" ∧
        (run next (new live) absence).ReadsCurrent) (by decide +kernel)
  exact ⟨live, hcreated, hrun, hbehind, hcurrent, _, hselect,
    current_replicas_read_rows (by trivial) (by decide) hcreated rfl rfl hrun hselect hcurrent⟩

/-! ## Rows that do not belong together -/

/-- Row `i` of all groups of columns that are read is the same one of the rows. -/
def ReadsTogether (s : Tracked) (groups : List (List String)) : Prop :=
  ∀ partition partition' names names' lines lines', groups[partition]? = some names →
    groups[partition']? = some names' →
    s.live.table.readPartition s.live.cluster partition = .ok lines →
    s.live.table.readPartition s.live.cluster partition' = .ok lines' →
    ∀ (idx : Nat) line line', lines[idx]? = some line → lines'[idx]? = some line' →
      ∃ row ∈ s.rows, line = slice names row ∧ line' = slice names' row

/-- What is asked of the steps of a run that only inserts: the rows never change, so that each of
them is told by its values. -/
def Inserts (s : Tracked) : Action → Prop
  | .write operation => s.live.Accepts (.write operation) ∧ operation.kind = .insert
  | _ => True

instance (s : Tracked) : ∀ action, Decidable (s.Inserts action)
  | .write _ => inferInstanceAs (Decidable (_ ∧ _))
  | .select | .stop _ _ | .start _ _ | .beat => inferInstanceAs (Decidable True)

/-- Students with one replica for each group of columns. -/
def singleStudents : CreateRequest :=
  ⟨⟨"students", .sql, some ["id", "name", "age"]⟩, 1, .byColumns [["id", "name"], ["age"]]⟩

/-- The only replica of the first group misses an insertion, and no heartbeat round passes. -/
def hurry : List Action :=
  [.stop 0 0, .write (.insertion "students" ["id", "name", "age"] ["1", "Alice", "20"]),
    .start 0 0, .write (.insertion "students" ["id", "name", "age"] ["2", "Bob", "30"])]

/-- **Selections can mix rows**, even if there were only insertions.  Here one returns the name of
Bob with the age of Alice. -/
theorem reads_can_mix_rows :
    ¬ ∀ (c : Coordinator) (request : CreateRequest) (groups : List (List String))
        (live : LiveTable) (actions : List Action) (payload : String),
      c.cluster.registry.Responds → c.cluster.files.Readable → created c request = .ok live →
      request.layout.kind = .vertical → request.layout.columnGroups = some groups →
      Throughout next Inserts (new live) actions →
      (run next (new live) actions).live.select = .ok payload →
      (run next (new live) actions).ReadsTogether groups := by
  intro h
  obtain ⟨live, hcreated, hrun, hselect, hfirst, hsecond, hnone⟩ :=
    exists_of_test (created emptyCoordinator singleStudents)
      (fun live => Throughout next Inserts (new live) hurry ∧
        (run next (new live) hurry).live.select = .ok "2,Bob,20,\n,,30,\n" ∧
        (run next (new live) hurry).live.table.readPartition
          (run next (new live) hurry).live.cluster 0 = .ok ["2,Bob,"] ∧
        (run next (new live) hurry).live.table.readPartition
          (run next (new live) hurry).live.cluster 1 = .ok ["20,", "30,"] ∧
        ¬ ∃ row ∈ (run next (new live) hurry).rows,
          "2,Bob," = slice ["id", "name"] row ∧ "20," = slice ["age"] row) (by decide +kernel)
  exact hnone (h emptyCoordinator singleStudents [["id", "name"], ["age"]] live hurry _ (by trivial)
    (by decide) hcreated rfl rfl hrun hselect 0 1 _ _ _ _ rfl rfl hfirst hsecond 0 _ _ rfl rfl)

end Tracked

end TableStore
