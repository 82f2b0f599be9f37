import TableStore.Proofs.KeyPartitions

/-!
# Tables split by key refine tables that are not

As long as operations go by the key and every write is complete, each partition of a table that is
split by key holds the rows of a table that is not split whose key is sent there, in the same
order (`partitions_refine_whole`).  Both tables hold their shares of the same rows: `sharing_act`
is the step, and `select_sharing` says what is read of them.

Keys are sent to partitions as numbers and compared with conditions as texts.  Different texts for
one number meet in one partition, so no condition misses a row.
-/

namespace TableStore

namespace ReplicatedTable

/-- Whether the number that a row has for its key belongs to a partition. -/
def sends (t : ReplicatedTable) (key : String) (partition : Nat) (line : String) : Bool :=
  (Row.key? t.table.columns key line).any fun value =>
    t.router.partitionForKey value = .ok partition

theorem owns_of_horizontal {t : ReplicatedTable} (hkind : t.router.layout.kind = .horizontal)
    (key : String) : t.owns key = t.sends key := by
  funext partition line
  simp only [owns, sends, Router.routePredicate, hkind]

end ReplicatedTable

namespace LiveTable

variable {live whole : LiveTable} {key : String} {rows : List String} {operation : Operation}

/-! ## Runs -/

/-- The replicas of a table hold their shares of the rows, and nothing is wrong with them. -/
structure Sharing (live : LiveTable) (key : String) (rows : List String) : Prop where
  untroubled : live.Untroubled
  holdsRows : live.table.HoldsRows
  placed : live.table.Placed key rows
  shares : ∃ held, live.InService held ∧ live.table.Shares key held rows

/-- A complete write does to the shares what the operation does to the rows. -/
theorem sharing_act (h : live.Sharing key rows)
    (haccepted : operation.Accepted live.table.table.columns) (hkeyed : operation.KeyedBy key)
    (hcompletes : live.completes operation = true) :
    (live.act (.write operation)).Sharing key
      (operation.applyLines live.table.table.columns rows) := by
  obtain ⟨summary, cluster, hwrite, hfailures, hact⟩ := act_of_completes hcompletes
  obtain ⟨held, hservice, hshares⟩ := h.shares
  obtain ⟨hregistry, hplaced, held', hs', hshares'⟩ := ReplicatedTable.write_shares
    hservice.deployed h.holdsRows haccepted hkeyed hservice.serves h.placed hshares
    h.untroubled.reached hwrite (Summary.faultless_of_nil hfailures)
  rw [hact]
  refine ⟨⟨h.untroubled.alive, ?_⟩, h.holdsRows, hplaced, held', ⟨hservice.deployed, hs'⟩, hshares'⟩
  rw [hregistry]
  exact h.untroubled.reached

/-- A selection reads the shares of all partitions one after another. -/
theorem select_sharing (h : live.Sharing key rows) :
    live.select = .ok (Text.unlines (live.table.router.partitions.flatMap fun partition =>
      rows.filter (live.table.owns key partition))) := by
  obtain ⟨held, hservice, hshares⟩ := h.shares
  have hread := ReplicatedTable.readAll_of_forall fun partition hpartition =>
    h.untroubled.readPartition hservice (List.mem_range.1 hpartition) fun node hnode =>
      ReplicatedTable.select_shares hservice.deployed h.holdsRows h.placed hshares hnode
  rw [select, ReplicatedTable.select, Router.partitions, hread, Except.map,
    ReplicatedTable.mergeRows_of_ne_vertical h.holdsRows.kind, List.flatMap_def]

/-- Every replica holds the rows whose key is sent to its partition. -/
theorem select_replica_sharing (h : live.Sharing key rows) {partition : Nat} {replica : Replica}
    (hreplica : replica ∈ live.table.replicas partition) :
    replica.node.store.select live.cluster.files =
      .ok (rows.filter (live.table.owns key partition)) := by
  obtain ⟨held, hservice, hshares⟩ := h.shares
  have hnode : replica.node ∈ live.table.nodes partition := List.mem_map_of_mem hreplica
  obtain ⟨text, hperform⟩ := ReplicatedTable.select_shares hservice.deployed h.holdsRows h.placed
    hshares hnode
  have hrun := RecordStore.run_select (hservice.serves.holds partition replica.node hnode)
    hservice.serves.readable hperform
  exact (Prod.mk.inj hrun).1

/-- The replicas of a new table hold their shares of no rows. -/
theorem sharing_created {c : Coordinator} {request : CreateRequest}
    (hresponds : c.cluster.registry.Responds) (hreads : c.cluster.files.Readable)
    (h : created c request = .ok live) (hkind : request.layout.kind ≠ .vertical) (key : String) :
    live.Sharing key [] := by
  obtain ⟨hservice, htable, hrouter, huntroubled⟩ := created_inService hresponds hreads h
  have hholds : live.table.HoldsRows := by
    refine ⟨by rw [hrouter]; exact hkind, fun columns hcolumns => ?_⟩
    rw [htable] at hcolumns
    exact ((TableDef.validate_ok (created_ok h).1).2 columns hcolumns).2
  refine ⟨huntroubled, hholds, by simp [ReplicatedTable.Placed], _, hservice,
    fun partition node hnode => ?_⟩
  rw [ReplicatedTable.newText, hservice.deployed.partition_eq hnode,
    ReplicatedTable.storeColumns_of_holdsRows hholds]
  rfl

/-! ## Two tables side by side -/

/-- A write on two tables.  The second one is left alone if the first one refuses it. -/
def mirror (tables : LiveTable × LiveTable) (operation : Operation) : LiveTable × LiveTable :=
  (tables.1.act (.write operation),
    if (tables.1.summary? (.write operation)).isSome then tables.2.act (.write operation)
    else tables.2)

/-- What is asked of the steps of a run: operations go by the key and are accepted, and a write
that is not refused is complete on both tables. -/
def Mirrors (key : String) (tables : LiveTable × LiveTable) (operation : Operation) : Prop :=
  operation.KeyedBy key ∧ operation.validate tables.1.table.table = .ok () ∧
    ∀ summary ∈ tables.1.summary? (.write operation),
      summary.isComplete = true ∧ tables.2.completes operation = true

instance (key : String) (tables : LiveTable × LiveTable) (operation : Operation) :
    Decidable (Mirrors key tables operation) := inferInstanceAs (Decidable (_ ∧ _ ∧ ∀ _ ∈ _, _))

/-- The first table holds the same rows as the second one, split by their keys. -/
structure Splits (live whole : LiveTable) (key : String) (rows : List String) : Prop where
  /-- The rows are those of the second table. -/
  all : ∀ replica ∈ whole.table.replicas 0,
    replica.node.store.select whole.cluster.files = .ok rows
  selectAll : whole.select = .ok (Text.unlines rows)
  /-- The rows of a partition are those that are sent there, in the same order. -/
  part : ∀ partition, ∀ replica ∈ live.table.replicas partition,
    replica.node.store.select live.cluster.files =
      .ok (rows.filter (live.table.sends key partition))
  selectParts : live.select = .ok (Text.unlines
    (live.table.router.partitions.flatMap fun partition =>
      rows.filter (live.table.sends key partition)))
  /-- No row is lost, and none is there twice. -/
  perm : (live.table.router.partitions.flatMap fun partition =>
    rows.filter (live.table.sends key partition)).Perm rows

/-- Two tables that hold their shares of the same rows. -/
theorem splits_of_sharing (h : live.Sharing key rows) (h' : whole.Sharing key rows)
    (hkind : live.table.router.layout.kind = .horizontal)
    (hkind' : whole.table.router.layout.kind = .none) : live.Splits whole key rows := by
  obtain ⟨held, hservice, -⟩ := h'.shares
  have howns := ReplicatedTable.owns_of_horizontal hkind key
  have hall := ReplicatedTable.filter_owns_of_none hkind' h'.placed
  have hone : whole.table.router.partitions = [0] := by
    rw [Router.partitions, Router.partitionCount,
      Layout.check_none hservice.deployed.layout hkind']
    rfl
  refine ⟨fun replica hreplica => ?_, ?_, fun partition replica hreplica => ?_, ?_, ?_⟩
  · rw [select_replica_sharing h' hreplica, hall]
  · rw [select_sharing h', hone, List.flatMap_singleton, hall]
  · rw [select_replica_sharing h hreplica, howns]
  · rw [select_sharing h, howns]
  · rw [← howns]
    exact ReplicatedTable.perm_owns h.placed

/-- Both tables hold their shares of the same rows. -/
structure Mirrored (key : String) (tables : LiveTable × LiveTable) : Prop where
  columns : tables.2.table.table.columns = tables.1.table.table.columns
  kind : tables.1.table.router.layout.kind = .horizontal
  kind' : tables.2.table.router.layout.kind = .none
  sharing : ∃ rows, tables.1.Sharing key rows ∧ tables.2.Sharing key rows

theorem mirrored_mirror {tables : LiveTable × LiveTable} (h : Mirrored key tables)
    (hmirrors : Mirrors key tables operation) : Mirrored key (mirror tables operation) := by
  obtain ⟨rows, hfirst, hsecond⟩ := h.sharing
  obtain ⟨hkeyed, hvalid, hcomplete⟩ := hmirrors
  have haccepted := Operation.accepted_of_validate hvalid
  cases hsummary : tables.1.summary? (.write operation) with
  | none =>
    have hsame : tables.1.act (.write operation) = tables.1 := by
      cases houtcome : (tables.1.table.write operation tables.1.cluster).1 with
      | error e => exact act_write_of_error houtcome
      | ok summary => simp [summary?, houtcome, Except.toOption] at hsummary
    have hmirror : mirror tables operation = tables := by
      simp [mirror, hsame, hsummary]
    rwa [hmirror]
  | some summary =>
    obtain ⟨hfirstComplete, hsecondComplete⟩ := hcomplete summary hsummary
    have hmirror : mirror tables operation =
        (tables.1.act (.write operation), tables.2.act (.write operation)) := by
      simp [mirror, hsummary]
    have hcompletes : tables.1.completes operation = true := by
      rw [completes, hsummary, Option.any_some, hfirstComplete]
    rw [hmirror]
    refine ⟨h.columns, h.kind, h.kind', _, sharing_act hfirst haccepted hkeyed hcompletes, ?_⟩
    rw [← h.columns] at haccepted ⊢
    exact sharing_act hsecond haccepted hkeyed hsecondComplete

/-- **A table split by key refines the table that is not split.**  After the same operations, all
of them complete, each partition holds the rows of the whole table whose key is sent there, in the
same order, and a selection reads the partitions one after another. -/
theorem partitions_refine_whole {c c' : Coordinator} {request request' : CreateRequest}
    (hresponds : c.cluster.registry.Responds) (hreads : c.cluster.files.Readable)
    (hresponds' : c'.cluster.registry.Responds) (hreads' : c'.cluster.files.Readable)
    (hlive : created c request = .ok live) (hwhole : created c' request' = .ok whole)
    (hkind : request.layout.kind = .horizontal) (hkind' : request'.layout.kind = .none)
    (hcolumns : request'.table.columns = request.table.columns) {operations : List Operation}
    (hrun : Throughout mirror (Mirrors key) (live, whole) operations) :
    ∃ rows, (run mirror (live, whole) operations).1.Splits
      (run mirror (live, whole) operations).2 key rows := by
  have hfirst := sharing_created hresponds hreads hlive (by rw [hkind]; decide) key
  have hsecond := sharing_created hresponds' hreads' hwhole (by rw [hkind']; decide) key
  obtain ⟨-, htable, hrouter, -⟩ := created_inService hresponds hreads hlive
  obtain ⟨-, htable', hrouter', -⟩ := created_inService hresponds' hreads' hwhole
  have hinit : Mirrored key (live, whole) := by
    refine ⟨?_, ?_, ?_, [], hfirst, hsecond⟩
    · rw [htable, htable', hcolumns]
    · rw [hrouter, hkind]
    · rw [hrouter', hkind']
  have hmirrored := hrun.invariant (fun _ _ h hmirrors => mirrored_mirror h hmirrors) hinit
  obtain ⟨rows, hfirst, hsecond⟩ := hmirrored.sharing
  exact ⟨rows, splits_of_sharing hfirst hsecond hmirrored.kind hmirrored.kind'⟩

/-- People with their pairs in three partitions. -/
def splitPeople : CreateRequest := ⟨⟨"people", .noSql, none⟩, 2, .byKey 3⟩

/-- People with their pairs in one partition. -/
def wholePeople : CreateRequest := ⟨⟨"people", .noSql, none⟩, 1, .single⟩

/-- One number has several texts, and a key that is no number is refused. -/
def peopleChanges : List Operation :=
  [.insertion "people" ["id", "name", "name"] ["4", "Alice", "Ann"],
    .insertion "people" ["id", "age"] [" '4' ", "20"], .insertion "people" ["id"] ["-1"],
    .insertion "people" ["id", "name"] ["four", "Bob"], .insertion "people" ["id"] ["6"],
    .assignment "people" ["name", "city"] ["Alicia", "Bern"] ⟨"id", "4"⟩,
    .removal "people" ⟨"id", "+4"⟩, .removal "people" ⟨"id", "-1"⟩]

/-- The changes to the people are complete on both tables, as far as they are not refused. -/
theorem partitions_refine_whole_people :
    ∃ live whole, created emptyCoordinator splitPeople = .ok live ∧
      created emptyCoordinator wholePeople = .ok whole ∧
      Throughout mirror (Mirrors "id") (live, whole) peopleChanges ∧
      ∃ rows, (run mirror (live, whole) peopleChanges).1.Splits
        (run mirror (live, whole) peopleChanges).2 "id" rows := by
  obtain ⟨live, whole, hlive, hwhole, hrun⟩ :=
    exists_both_of_test (created emptyCoordinator splitPeople)
      (created emptyCoordinator wholePeople)
      (fun tables => Throughout mirror (Mirrors "id") tables peopleChanges) (by decide +kernel)
  exact ⟨live, whole, hlive, hwhole, hrun,
    partitions_refine_whole (by trivial) (by decide) (by trivial) (by decide) hlive hwhole rfl rfl
      rfl hrun⟩

end LiveTable

end TableStore
