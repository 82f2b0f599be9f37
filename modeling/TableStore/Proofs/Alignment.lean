import TableStore.Proofs.ColumnGroups
import TableStore.Proofs.JoinedRows

/-!
# Partitions stay in step

A replica is in step with rows when it holds the slices of its partition's columns (`InStep`).
`write_inStep` says which replicas stay in step when a write changes the rows.  A replica falls
behind in two ways: it misses the write, or it changes rows at positions that were told by a
replica that is behind itself (`Guided`).

A selection puts the parts of its partitions side by side.  If they are the slices of the same
rows, these rows are what it returns (`mergeRows_slices`).
-/

namespace TableStore

open LogicalRow (slice)
open RecordStore (fileText)

namespace ReplicatedTable

variable {t : ReplicatedTable} {groups : List (List String)} {operation : Operation}
  {rows : List LogicalRow}

/-! ## Writes -/

/-- The replicas in `current` hold the slices of the rows. -/
def InStep (t : ReplicatedTable) (groups : List (List String)) (held : ReplicaId → String)
    (rows : List LogicalRow) (current : ReplicaId → Prop) : Prop :=
  ∀ partition names, groups[partition]? = some names → ∀ node ∈ t.nodes partition,
    current node.id → held node.id = fileText (some names) (rows.map (slice names))

/-- The replica that says where the rows are that an update or removal is about: the first
registered one of the driver. -/
def source? (t : ReplicatedTable) (cluster : Cluster) (operation : Operation) : Option Replica :=
  match t.plan? operation with
  | .ok (.driven _ driver _ _) =>
    (t.replicas driver).find? fun replica => cluster.registry.reaches replica.id
  | _ => none

/-- The partitions that go by the positions of the source. -/
def followers (t : ReplicatedTable) (operation : Operation) : List Nat :=
  match t.plan? operation with
  | .ok (.driven _ _ _ others) => (others []).map Prod.fst
  | _ => []

/-- Positions that a replica goes by come from a replica in `current`. -/
def Guided (t : ReplicatedTable) (cluster : Cluster) (operation : Operation)
    (current : ReplicaId → Prop) (id : ReplicaId) : Prop :=
  (∀ replica ∈ t.source? cluster operation, current replica.id) ∨
    id.partition ∉ t.followers operation

/-- Calls on partitions that follow nobody do not depend on positions. -/
theorem mem_called_congr {plan : Plan} (hplan : t.plan? operation = .ok plan) (hfits : plan.Fits)
    {call : Nat × AnyCall} (hout : call.1 ∉ t.followers operation)
    (positions positions' : List Nat) :
    call ∈ plan.called positions ↔ call ∈ plan.called positions' := by
  cases plan with
  | each calls => rfl
  | driven checked driver first others =>
    have hothers : ∀ positions : List Nat,
        call ∉ (if positions = [] then [] else anyCalls (others positions)) := by
      intro positions hmem
      split at hmem
      · simp at hmem
      · have hpartition := List.mem_map_of_mem (f := Prod.fst) hmem
        rw [map_fst_anyCalls, (hfits.2 positions).2.2] at hpartition
        exact hout (by simpa only [followers, hplan] using hpartition)
    simp only [Plan.called, List.mem_cons, hothers]

/-- What a call makes of a file that holds slices. -/
theorem perform_slices (ht : t.Deployed) (hg : t.Grouped groups)
    (hwritten : ∀ row ∈ rows, row.IsWritten) {partition : Nat} {names : List String}
    (hnames : groups[partition]? = some names) {node : StorageNode}
    (hnode : node ∈ t.nodes partition) {kind : ReplyKind} (call : NodeCall kind) :
    call.perform node.store (fileText (some names) (rows.map (slice names))) =
      some ((call.onRows (some names) (rows.map (slice names))).1,
        fileText (some names) (call.onRows (some names) (rows.map (slice names))).2) := by
  have hcolumns := hg.columns_eq ht hnames hnode
  have hrows : ∀ text ∈ rows.map (slice names), RecordStore.IsRow text := by
    intro text htext
    obtain ⟨row, hrow, rfl⟩ := List.mem_map.1 htext
    exact LogicalRow.isRow_slice (hg.nonempty names (List.mem_of_getElem? hnames))
      (hwritten row hrow)
  have hperform := RecordStore.perform_fileText call (hg.isLine_header ht hnames hnode) hrows
  rwa [hcolumns] at hperform

variable {held held' : ReplicaId → String} {current : ReplicaId → Prop} {plan : Plan}
  {positions : List Nat}

/-- The driver of a plan has a registered node, if there is a driver. -/
def HasDriver (t : ReplicatedTable) (registry : Registry) : Plan → Prop
  | .each _ => True
  | .driven _ driver _ _ => ∃ node ∈ t.nodes driver, registry.reaches node.id = true

/-- If a plan calls a registered node at all, its driver has one. -/
theorem hasDriver_of_called {registry : Registry}
    (hanswered : plan.Answered t registry held positions) {call : Nat × AnyCall}
    (hcall : call ∈ plan.called positions) {node : StorageNode} (hnode : node ∈ t.nodes call.1)
    (hreached : registry.reaches node.id = true) : t.HasDriver registry plan := by
  cases plan with
  | each calls => trivial
  | driven checked driver first others =>
    simp only [Plan.Answered] at hanswered
    split at hanswered
    · -- without an answer nobody else is called
      rw [Plan.called, if_pos hanswered, List.mem_singleton] at hcall
      subst hcall
      exact ⟨node, hnode, hreached⟩
    · next found hfind =>
      exact ⟨found, List.mem_of_find?_eq_some hfind, by simpa using List.find?_some hfind⟩

/-- The positions that a driver in step answers are those of the rows concerned. -/
theorem positions_eq (ht : t.Deployed) (hg : t.Grouped groups)
    (hwritten : ∀ row ∈ rows, row.IsWritten) (heffects : Effects groups operation rows plan)
    (hplan : t.plan? operation = .ok plan) {cluster : Cluster}
    (hstep : t.InStep groups held rows current)
    (hsource : ∀ replica ∈ t.source? cluster operation, current replica.id)
    (hanswered : plan.Answered t cluster.registry held positions)
    (hdriver : t.HasDriver cluster.registry plan) : positions = operation.positions rows := by
  cases plan with
  | each calls => rw [heffects.undriven calls rfl, show positions = [] from hanswered]
  | driven checked driver call others =>
    simp only [Plan.Answered] at hanswered
    split at hanswered
    · next hfind =>
      rw [List.find?_eq_none] at hfind
      obtain ⟨node, hnode, hreached⟩ := hdriver
      exact absurd hreached (hfind node hnode)
    · next node hfind =>
      obtain ⟨text, hperform⟩ := hanswered
      obtain ⟨names, hnames, hpositions⟩ := heffects.answer _ _ _ _ rfl
      have hnode := List.mem_of_find?_eq_some hfind
      have hcurrent : current node.id := by
        rw [nodes, List.find?_map, Option.map_eq_some_iff] at hfind
        obtain ⟨replica, hreplica, rfl⟩ := hfind
        refine hsource replica ?_
        simp only [source?, hplan]
        exact hreplica
      rw [hstep driver names hnames node hnode hcurrent,
        perform_slices ht hg hwritten hnames hnode] at hperform
      rw [← hpositions]
      exact (Prod.mk.inj (Option.some.inj hperform)).1.symm

/-- The calls of a write change the slices of the replicas that carry out the right ones as the
operation changes the rows. -/
theorem carried_inStep (ht : t.Deployed) (hg : t.Grouped groups)
    (hwritten : ∀ row ∈ rows, row.IsWritten) (heffects : Effects groups operation rows plan)
    {registry : Registry} (hstep : t.InStep groups held rows current)
    (hcarried : t.Carried registry (plan.called positions) held held')
    (hright : ∀ id, current id → ∀ call : Nat × AnyCall, call.1 = id.partition →
      (call ∈ plan.called positions ↔ call ∈ plan.called (operation.positions rows)))
    (hreached : ∀ id, current id → ∀ call ∈ plan.called positions, id ∈ t.idsOf call.1 →
      registry.reaches id = true) :
    t.InStep groups held' (operation.apply rows) current := by
  intro partition names hnames node hnode hcurrent
  have hheld := hstep partition names hnames node hnode hcurrent
  have hpartition := ht.partition_eq hnode
  by_cases hcalled : ∃ call ∈ plan.called positions, call.1 = partition
  · obtain ⟨call, hcall, rfl⟩ := hcalled
    obtain ⟨value, hperform⟩ := hcarried.performed call hcall node hnode
      (hreached node.id hcurrent call hcall (List.mem_map_of_mem hnode))
    rw [hheld, perform_slices ht hg hwritten hnames hnode] at hperform
    rw [← heffects.called call ((hright node.id hcurrent call hpartition.symm).1 hcall) names
      hnames]
    exact (Prod.mk.inj (Option.some.inj hperform)).2.symm
  · have hout : partition ∉ (plan.called (operation.positions rows)).map Prod.fst := by
      rw [List.mem_map]
      rintro ⟨call, hcall, rfl⟩
      exact hcalled ⟨call, (hright node.id hcurrent call hpartition.symm).2 hcall, rfl⟩
    rw [hcarried.untouched node.id (by rw [hpartition, List.mem_map]; exact hcalled), hheld,
      heffects.uncalled partition hout names hnames]

/-- A write that reaches a replica at all has one to say where rows are. -/
theorem hasDriver_of_reached (ht : t.Deployed) (hg : t.Grouped groups)
    (heffects : Effects groups operation rows plan) {registry : Registry}
    (hanswered : plan.Answered t registry held positions)
    (hreached : (registry.summaryOf
          ((plan.called positions).flatMap fun call => t.idsOf call.1)).succeeded ≠ 0 ∨
        ∀ partition, ∀ node ∈ t.nodes partition, registry.reaches node.id = true) :
    t.HasDriver registry plan := by
  rcases hreached with hne | hall
  · by_contra hnone
    refine hne (Registry.succeeded_summaryOf_eq_zero.2 fun id hid => ?_)
    obtain ⟨call, hcall, hid⟩ := List.mem_flatMap.1 hid
    obtain ⟨node, hnode, rfl⟩ := List.mem_map.1 hid
    by_contra hreached
    exact hnone (hasDriver_of_called hanswered hcall hnode (by simpa using hreached))
  · cases plan with
    | each calls => trivial
    | driven checked driver call others =>
      obtain ⟨names, hnames, -⟩ := heffects.answer _ _ _ _ rfl
      have hlt := hg.length ▸ (List.getElem?_eq_some_iff.1 hnames).1
      obtain ⟨node, hnode⟩ := List.exists_mem_of_ne_nil _ (ht.nodes_ne_nil hlt)
      exact ⟨node, hnode, hall driver node hnode⟩

/-- **The step.**  A write that no replica carried out changes nothing.  After any other one, the
replicas hold the slices of the new rows that held those of the old ones, did not miss the write,
and went by the positions of such a replica if by any. -/
theorem write_inStep (ht : t.Deployed) (hg : t.Grouped groups)
    (haccepted : operation.Accepted (some groups.flatten))
    (hwritten : ∀ row ∈ rows, row.IsWritten) {cluster cluster' : Cluster} {summary : Summary}
    (hs : t.Serves held cluster) (hstep : t.InStep groups held rows current)
    (h : t.write operation cluster = (.ok summary, cluster')) (hf : summary.Faultless) :
    cluster'.registry = cluster.registry ∧ ∃ held', t.Serves held' cluster' ∧
      (summary.succeeded = 0 → t.InStep groups held' rows current) ∧
      (summary.succeeded ≠ 0 ∨
          (∀ partition, ∀ node ∈ t.nodes partition, cluster.registry.reaches node.id = true) →
        t.InStep groups held' (operation.apply rows) fun id =>
          current id ∧ id.text ∉ summary.failures.map ReplicaFailure.replica ∧
            t.Guided cluster operation current id) := by
  obtain ⟨hregistry, plan, positions, held', hplan, hfits, -, hanswered, rfl, hs', hcarried⟩ :=
    write_spec ht hs h hf
  have heffects : Effects groups operation rows plan :=
    effects_plan? ht hg haccepted hwritten hplan
  refine ⟨hregistry, held', hs', fun hzero => ?_, fun hreached => ?_⟩
  · rw [Registry.succeeded_summaryOf_eq_zero] at hzero
    intro partition names hnames node hnode hcurrent
    rw [← hstep partition names hnames node hnode hcurrent]
    by_cases hcalled : ∃ call ∈ plan.called positions, call.1 = partition
    · obtain ⟨call, hcall, rfl⟩ := hcalled
      exact hcarried.unreached node.id
        (hzero _ (List.mem_flatMap.2 ⟨call, hcall, List.mem_map_of_mem hnode⟩))
    · refine hcarried.untouched node.id ?_
      rw [ht.partition_eq hnode, List.mem_map]
      exact hcalled
  · have hdriver := hasDriver_of_reached ht hg heffects hanswered hreached
    refine carried_inStep ht hg hwritten heffects (fun partition names hnames node hnode hcurrent =>
      hstep partition names hnames node hnode hcurrent.1) hcarried ?_ ?_
    · rintro id ⟨-, -, hsource | hout⟩ call hpartition
      · rw [positions_eq ht hg hwritten heffects hplan hstep hsource hanswered hdriver]
      · exact mem_called_congr hplan hfits (hpartition ▸ hout) _ _
    · intro id hcurrent call hcall hid
      by_contra hreached
      exact hcurrent.2.1 (Registry.mem_failures_summaryOf.2
        ⟨List.mem_flatMap.2 ⟨call, hcall, hid⟩, by simpa using hreached⟩)

/-! ## Reads -/

/-- Among groups of the same number of rows, no row is missing. -/
theorem longest_eq {n : Nat} {lengths : List Nat} (hne : lengths ≠ [])
    (h : ∀ length ∈ lengths, length = n) : lengths.foldl max 0 = n :=
  (longest_eq_max hne).trans (h _ (List.max_mem hne))

/-- The slices of rows, put side by side, are the rows. -/
theorem zipGroups_slices {parts : List (Nat × List String)} (hne : groups ≠ [])
    (h : parts.map Prod.snd = groups.map fun names => rows.map (slice names)) :
    zipGroups parts = rows.map (slice groups.flatten) := by
  have hlengths : ∀ length ∈ parts.map fun part => part.2.length, length = rows.length := by
    intro length hlength
    obtain ⟨part, hpart, rfl⟩ := List.mem_map.1 hlength
    have hmem := List.mem_map_of_mem (f := Prod.snd) hpart
    rw [h] at hmem
    obtain ⟨names, -, hpart⟩ := List.mem_map.1 hmem
    rw [← hpart, List.length_map]
  have hparts : (parts.map fun part => part.2.length) ≠ [] := by
    intro hnil
    rw [List.map_eq_nil_iff] at hnil
    rw [hnil, List.map_nil, eq_comm, List.map_eq_nil_iff] at h
    exact hne h
  simp only [zipGroups, longest_eq hparts hlengths]
  refine List.ext_getElem (by simp) fun idx hidx hidx' => ?_
  have hlt : idx < rows.length := by simpa using hidx'
  have hblank : (parts.map fun part => rowOrBlank part.1 idx part.2) =
      (parts.map Prod.snd).map fun lines => (lines[idx]?).getD "" := by
    rw [List.map_map]
    refine List.map_congr_left fun part hpart => ?_
    have hlength := hlengths _ (List.mem_map_of_mem hpart)
    simp [rowOrBlank, List.getElem?_eq_getElem (hlength ▸ hlt)]
  rw [List.getElem_map, List.getElem_range, List.getElem_map, hblank, h, List.map_map,
    ← LogicalRow.slice_flatten]
  refine congrArg String.join (List.map_congr_left fun names _ => ?_)
  simp [hlt]

/-- What the partition of a group reads. -/
def slicesOf (groups : List (List String)) (rows : List LogicalRow) (partition : Nat) :
    List String :=
  rows.map (slice (groups[partition]?.getD []))

theorem mergeRows_slices (ht : t.Deployed) (hg : t.Grouped groups) :
    t.mergeRows (t.router.partitions.map (slicesOf groups rows)) =
      rows.map (slice groups.flatten) := by
  have hall : t.router.partitions.map (slicesOf groups rows) =
      groups.map fun names => rows.map (slice names) := by
    rw [Router.partitions, ← hg.length]
    refine List.ext_getElem (by simp) fun partition hlt hlt' => ?_
    have hlt : partition < groups.length := by simpa using hlt'
    simp [slicesOf, hlt]
  rw [hall]
  unfold mergeRows
  rcases hg.layout with ⟨hkind, -⟩ | ⟨hkind, columns, -, rfl⟩
  · have hne : groups ≠ [] := by
      have hpos := Layout.partitionCount_pos ht.layout
      intro hnil
      have hlength := hg.length
      rw [hnil] at hlength
      exact absurd hlength (Nat.ne_of_lt hpos)
    rw [hkind]
    refine zipGroups_slices hne ?_
    exact List.ext_getElem (by simp) fun partition hlt hlt' => by simp
  · simp [hkind]

/-- A store in step reads slices. -/
theorem select_inStep (ht : t.Deployed) (hg : t.Grouped groups)
    (hwritten : ∀ row ∈ rows, row.IsWritten) (hstep : t.InStep groups held rows current)
    {partition : Nat} (hlt : partition < t.router.partitionCount) {node : StorageNode}
    (hnode : node ∈ t.nodes partition) (hcurrent : current node.id) :
    ∃ text, NodeCall.select.perform node.store (held node.id) =
      some (slicesOf groups rows partition, text) := by
  obtain ⟨names, hnames⟩ := hg.exists_group hlt
  rw [hstep partition names hnames node hnode hcurrent,
    perform_slices ht hg hwritten hnames hnode, slicesOf, hnames]
  exact ⟨_, rfl⟩

end ReplicatedTable

end TableStore
