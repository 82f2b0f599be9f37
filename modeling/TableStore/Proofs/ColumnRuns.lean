import TableStore.Proofs.Alignment

/-!
# Tables split by columns refine tables that are not

As long as every write reaches all replicas, a table that is split by columns cannot be told from
one that is not split (`split_refines_whole`).  Both refine the same list of logical rows:
`aligned_act` is the step, and `select_aligned` says what is read of them.
-/

namespace TableStore

open LogicalRow (slice)
open RecordStore (fileText)

namespace LiveTable

variable {live whole : LiveTable} {groups : List (List String)} {rows : List LogicalRow}
  {operation : Operation}

/-- A table that is created with groups of columns has these. -/
theorem grouped_created {c : Coordinator} {request : CreateRequest}
    (hresponds : c.cluster.registry.Responds) (hreads : c.cluster.files.Readable)
    (h : created c request = .ok live) (hkind : request.layout.kind = .vertical)
    (hgroups : request.layout.columnGroups = some groups) : live.table.Grouped groups := by
  obtain ⟨hservice, htable, hrouter, -⟩ := created_inService hresponds hreads h
  refine ReplicatedTable.grouped_of_vertical hservice.deployed ?_ ?_ ?_
  · rw [htable]
    exact (created_ok h).1
  · rw [hrouter]
    exact hkind
  · rw [hrouter]
    exact hgroups

/-- The replicas of a new table hold the slices of no rows. -/
theorem inStep_created (hservice : live.InService live.table.newText)
    (hg : live.table.Grouped groups) (current : ReplicaId → Prop) :
    live.table.InStep groups live.table.newText [] current := by
  intro partition names hnames node hnode _
  rw [ReplicatedTable.newText, hservice.deployed.partition_eq hnode, hg.storeColumns_eq hnames]
  rfl

/-! ## Complete writes -/

/-- All replicas hold the slices of the same rows, and nothing is wrong with them. -/
structure Aligned (live : LiveTable) (groups : List (List String)) (rows : List LogicalRow) :
    Prop where
  untroubled : live.Untroubled
  grouped : live.table.Grouped groups
  written : ∀ row ∈ rows, row.IsWritten
  inStep : ∃ held, live.InService held ∧ live.table.InStep groups held rows fun _ => True

/-- A complete write does to the slices what the operation does to the rows. -/
theorem aligned_act (h : live.Aligned groups rows)
    (haccepted : operation.Accepted (some groups.flatten))
    (hcompletes : live.completes operation = true) :
    (live.act (.write operation)).Aligned groups (operation.apply rows) := by
  obtain ⟨summary, cluster, hwrite, hfailures, hact⟩ := act_of_completes hcompletes
  obtain ⟨held, hservice, hstep⟩ := h.inStep
  obtain ⟨hregistry, held', hs', -, hstep'⟩ := ReplicatedTable.write_inStep hservice.deployed
    h.grouped haccepted h.written hservice.serves hstep hwrite (Summary.faultless_of_nil hfailures)
  rw [hact]
  refine ⟨⟨h.untroubled.alive, ?_⟩, h.grouped, Operation.isWritten_apply haccepted h.written,
    held', ⟨hservice.deployed, hs'⟩, ?_⟩
  · rw [hregistry]
    exact h.untroubled.reached
  · intro partition names hnames node hnode _
    refine hstep' (Or.inr h.untroubled.reached) partition names hnames node hnode
      ⟨trivial, ?_, Or.inl fun _ _ => trivial⟩
    simp [hfailures]

/-- While all replicas are aligned, a selection reads the rows. -/
theorem select_aligned (h : live.Aligned groups rows) :
    live.select = .ok (Text.unlines (rows.map (slice groups.flatten))) := by
  obtain ⟨held, hservice, hstep⟩ := h.inStep
  have hread := ReplicatedTable.readAll_of_forall fun partition hpartition =>
    h.untroubled.readPartition hservice (List.mem_range.1 hpartition) fun node hnode =>
      ReplicatedTable.select_inStep hservice.deployed h.grouped h.written hstep
        (List.mem_range.1 hpartition) hnode trivial
  rw [select, ReplicatedTable.select, Router.partitions, hread, Except.map, ← Router.partitions,
    ReplicatedTable.mergeRows_slices hservice.deployed h.grouped]

/-- Every replica of an aligned table holds as many rows as there are. -/
theorem length_select_aligned (h : live.Aligned groups rows) {partition : Nat}
    {node : StorageNode} (hnode : node ∈ live.table.nodes partition) :
    ∃ lines, node.store.select live.cluster.files = .ok lines ∧ lines.length = rows.length := by
  obtain ⟨held, hservice, hstep⟩ := h.inStep
  have hlt := hservice.deployed.lt_partitionCount hnode
  obtain ⟨text, hperform⟩ := ReplicatedTable.select_inStep hservice.deployed h.grouped h.written
    hstep hlt hnode trivial
  have hrun := RecordStore.run_select (hservice.serves.holds partition node hnode)
    hservice.serves.readable hperform
  refine ⟨_, (Prod.mk.inj hrun).1, ?_⟩
  simp [ReplicatedTable.slicesOf]

theorem aligned_created {c : Coordinator} {request : CreateRequest}
    (hresponds : c.cluster.registry.Responds) (hreads : c.cluster.files.Readable)
    (h : created c request = .ok live) (hg : live.table.Grouped groups) :
    live.Aligned groups [] := by
  obtain ⟨hservice, -, -, huntroubled⟩ := created_inService hresponds hreads h
  exact ⟨huntroubled, hg, by simp, _, hservice, inStep_created hservice hg _⟩

/-! ## Two tables side by side -/

/-- The same write on two tables. -/
def writeBoth (tables : LiveTable × LiveTable) (operation : Operation) : LiveTable × LiveTable :=
  (tables.1.act (.write operation), tables.2.act (.write operation))

/-- The first table accepts the operation, and both carry it out completely. -/
def BothComplete (tables : LiveTable × LiveTable) (operation : Operation) : Prop :=
  operation.validate tables.1.table.table = .ok () ∧ tables.1.completes operation = true ∧
    tables.2.completes operation = true

instance (tables : LiveTable × LiveTable) (operation : Operation) :
    Decidable (BothComplete tables operation) := inferInstanceAs (Decidable (_ ∧ _))

/-- **A table split by columns refines the table that is not split.**  The columns of the second
table are the groups of the first one put together.  After the same accepted operations, all of
them complete, both tables read the same, and all replicas of the first one hold the same number
of rows. -/
theorem split_refines_whole {c c' : Coordinator} {request request' : CreateRequest}
    (hresponds : c.cluster.registry.Responds) (hreads : c.cluster.files.Readable)
    (hresponds' : c'.cluster.registry.Responds) (hreads' : c'.cluster.files.Readable)
    (hlive : created c request = .ok live) (hwhole : created c' request' = .ok whole)
    (hkind : request.layout.kind = .vertical)
    (hgroups : request.layout.columnGroups = some groups)
    (hkind' : request'.layout.kind = .none)
    (hcolumns : request'.table.columns = some groups.flatten) {operations : List Operation}
    (hrun : Throughout writeBoth BothComplete (live, whole) operations) :
    ∃ payload count,
      (run writeBoth (live, whole) operations).1.select = .ok payload ∧
      (run writeBoth (live, whole) operations).2.select = .ok payload ∧
      ∀ partition, ∀ replica ∈ (run writeBoth (live, whole) operations).1.table.replicas partition,
        ∃ rows, replica.node.store.select
            (run writeBoth (live, whole) operations).1.cluster.files = .ok rows ∧
          rows.length = count := by
  have hg := grouped_created hresponds hreads hlive hkind hgroups
  have hg' : whole.table.Grouped [groups.flatten] := by
    obtain ⟨hservice, htable, hrouter, -⟩ := created_inService hresponds' hreads' hwhole
    refine ReplicatedTable.grouped_of_none hservice.deployed ?_ ?_ ?_
    · rw [htable]
      exact (created_ok hwhole).1
    · rw [hrouter]
      exact hkind'
    · rw [htable]
      exact hcolumns
  -- both tables refine the same rows
  let Refine := fun tables : LiveTable × LiveTable => ∃ rows,
    tables.1.Aligned groups rows ∧ tables.2.Aligned [groups.flatten] rows
  have hstep : ∀ tables operation, Refine tables → BothComplete tables operation →
      Refine (writeBoth tables operation) := by
    rintro tables operation ⟨rows, hfirst, hsecond⟩ ⟨hvalid, hcompletes, hcompletes'⟩
    have haccepted := hfirst.grouped.accepted hvalid
    exact ⟨_, aligned_act hfirst haccepted hcompletes,
      aligned_act hsecond (by simpa using haccepted) hcompletes'⟩
  obtain ⟨rows, hfirst, hsecond⟩ := hrun.invariant hstep
    ⟨[], aligned_created hresponds hreads hlive hg, aligned_created hresponds' hreads' hwhole hg'⟩
  refine ⟨_, rows.length, select_aligned hfirst, ?_, fun partition replica hreplica => ?_⟩
  · simpa using select_aligned hsecond
  · exact length_select_aligned hfirst (List.mem_map_of_mem hreplica)

/-- Students with their columns in two groups. -/
def splitStudents : CreateRequest :=
  ⟨⟨"students", .sql, some ["id", "name", "age"]⟩, 2, .byColumns [["age"], ["id", "name"]]⟩

/-- Students with all columns in one partition. -/
def wholeStudents : CreateRequest :=
  ⟨⟨"students", .sql, some ["age", "id", "name"]⟩, 1, .single⟩

/-- Columns in any order, given twice or not at all, and assignments across groups. -/
def studentChanges : List Operation :=
  [.insertion "students" ["name", "id", "age"] ["Alice", "1", "20"],
    .insertion "students" ["age", "age"] ["30", "31"],
    .assignment "students" ["name", "age", "name"] ["Bob", "21", "Carol"] ⟨"id", "1"⟩,
    .insertion "students" ["id"] ["3"],
    .removal "students" ⟨"age", "30"⟩]

/-- The changes to the students are complete on both tables. -/
theorem split_refines_whole_students :
    ∃ live whole, created emptyCoordinator splitStudents = .ok live ∧
      created emptyCoordinator wholeStudents = .ok whole ∧
      Throughout writeBoth BothComplete (live, whole) studentChanges ∧
      ∃ payload count,
        (run writeBoth (live, whole) studentChanges).1.select = .ok payload ∧
        (run writeBoth (live, whole) studentChanges).2.select = .ok payload ∧
        ∀ partition,
          ∀ replica ∈ (run writeBoth (live, whole) studentChanges).1.table.replicas partition,
            ∃ rows, replica.node.store.select
                (run writeBoth (live, whole) studentChanges).1.cluster.files = .ok rows ∧
              rows.length = count := by
  obtain ⟨live, whole, hlive, hwhole, hrun⟩ :=
    exists_both_of_test (created emptyCoordinator splitStudents)
      (created emptyCoordinator wholeStudents)
      (fun tables => Throughout writeBoth BothComplete tables studentChanges) (by decide +kernel)
  exact ⟨live, whole, hlive, hwhole, hrun,
    split_refines_whole (by trivial) (by decide) (by trivial) (by decide) hlive hwhole rfl rfl rfl
      rfl hrun⟩

end LiveTable

end TableStore
