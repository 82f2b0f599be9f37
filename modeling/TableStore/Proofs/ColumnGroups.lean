import TableStore.Proofs.LogicalRows
import TableStore.Proofs.Reads

/-!
# Tables split by columns

The partitions of such a table hold slices of the same logical rows.  A table that is not split is
the case of one group that has all columns, so both kinds of tables are treated at once
(`Grouped`).

* Plans.  `insertPlan_grouped`, `updatePlan_grouped` and `deletePlan_grouped` say which calls a
  write makes on which group.
* Calls.  The lemmas `onRows_` say what a call makes of the slices of rows.
* Effects.  `effects_plan?` puts both together: a plan makes of all slices what the operation
  makes of the rows, provided that it is given the positions of the rows concerned.
-/

namespace TableStore

open LogicalRow (slice)

namespace ReplicatedTable

variable {t : ReplicatedTable} {groups : List (List String)}

/-! ## Groups -/

/-- The columns of the table's partitions, in order. -/
structure Grouped (t : ReplicatedTable) (groups : List (List String)) : Prop where
  length : groups.length = t.router.partitionCount
  nodup : groups.flatten.Nodup
  nonempty : ∀ names ∈ groups, names ≠ []
  fields : ∀ column ∈ groups.flatten, isField column = true
  known : ∃ columns, t.table.columns = some columns ∧
    ∀ column, column ∈ groups.flatten ↔ column ∈ columns
  /-- Either columns decide, or there is one partition with all of them. -/
  layout : (t.router.layout.kind = .vertical ∧ t.router.layout.columnGroups = some groups) ∨
    (t.router.layout.kind = .none ∧ ∃ columns, t.table.columns = some columns ∧
      groups = [columns])

namespace Grouped

theorem storeColumns_eq (hg : t.Grouped groups) {partition : Nat} {names : List String}
    (h : groups[partition]? = some names) :
    storeColumns t.table t.router partition = some names := by
  rcases hg.layout with ⟨hkind, hgroups⟩ | ⟨hkind, columns, hcolumns, rfl⟩
  · simp only [storeColumns, hkind, Router.group_eq hgroups, h]
  · obtain rfl : names = columns := by
      rcases partition with _ | partition <;> simp_all
    simp only [storeColumns, hkind, hcolumns]

theorem exists_group (hg : t.Grouped groups) {partition : Nat}
    (h : partition < t.router.partitionCount) : ∃ names, groups[partition]? = some names :=
  ⟨_, List.getElem?_eq_getElem (hg.length ▸ h)⟩

theorem nodup_group (hg : t.Grouped groups) {partition : Nat} {names : List String}
    (h : groups[partition]? = some names) : names.Nodup :=
  (List.nodup_flatten.1 hg.nodup).1 names (List.mem_of_getElem? h)

theorem columns_eq (ht : t.Deployed) (hg : t.Grouped groups) {partition : Nat}
    {names : List String} (h : groups[partition]? = some names) {node : StorageNode}
    (hnode : node ∈ t.nodes partition) : node.store.columns = some names :=
  (ht.columns partition node hnode).trans (hg.storeColumns_eq h)

theorem isLine_header (ht : t.Deployed) (hg : t.Grouped groups) {partition : Nat}
    {names : List String} (h : groups[partition]? = some names) {node : StorageNode}
    (hnode : node ∈ t.nodes partition) :
    ∀ columns ∈ node.store.columns, Text.IsLine (Row.renderHeader columns) := by
  rw [columns_eq ht hg h hnode]
  rintro columns ⟨rfl⟩
  refine TableStore.isLine_header fun column hcolumn => hg.fields column ?_
  exact List.mem_flatten.2 ⟨names, List.mem_of_getElem? h, hcolumn⟩

theorem accepted (hg : t.Grouped groups) {operation : Operation}
    (h : operation.validate t.table = .ok ()) : operation.Accepted (some groups.flatten) := by
  obtain ⟨columns, hcolumns, hmem⟩ := hg.known
  have haccepted := Operation.accepted_of_validate h
  refine ⟨haccepted.fields, haccepted.counts, ?_⟩
  rintro names ⟨rfl⟩
  obtain ⟨hknown, hcondition⟩ := haccepted.known columns hcolumns
  exact ⟨fun column hcolumn => (hmem column).2 (hknown column hcolumn),
    fun condition h => (hmem _).2 (hcondition condition h)⟩

/-- The groups of a table stay. -/
theorem congr {t' : ReplicatedTable} (hg : t.Grouped groups) (htable : t'.table = t.table)
    (hrouter : t'.router = t.router) : t'.Grouped groups where
  length := hrouter ▸ hg.length
  nodup := hg.nodup
  nonempty := hg.nonempty
  fields := hg.fields
  known := htable ▸ hg.known
  layout := by
    rw [htable, hrouter]
    exact hg.layout

end Grouped

/-- A table that is split by columns. -/
theorem grouped_of_vertical (ht : t.Deployed) (hvalid : t.table.validate = .ok ())
    (hkind : t.router.layout.kind = .vertical)
    (hgroups : t.router.layout.columnGroups = some groups) : t.Grouped groups := by
  obtain ⟨-, columns, groups', hcolumns, hgroups', hlength, hshares⟩ :=
    Layout.check_vertical ht.layout hkind
  obtain rfl : groups = groups' := Option.some.inj (hgroups.symm.trans hgroups')
  obtain ⟨-, -, hfields⟩ := (TableDef.validate_ok hvalid).2 columns hcolumns
  exact ⟨hlength, hshares.nodup, hshares.nonempty,
    fun column hcolumn => hfields column ((hshares.mem_iff column).1 hcolumn),
    ⟨columns, hcolumns, hshares.mem_iff⟩, Or.inl ⟨hkind, hgroups⟩⟩

/-- A table that is not split has one group. -/
theorem grouped_of_none (ht : t.Deployed) (hvalid : t.table.validate = .ok ())
    (hkind : t.router.layout.kind = .none) {columns : List String}
    (hcolumns : t.table.columns = some columns) : t.Grouped [columns] := by
  obtain ⟨hne, hnodup, hfields⟩ := (TableDef.validate_ok hvalid).2 columns hcolumns
  exact ⟨(Layout.check_none ht.layout hkind).symm, by simpa using hnodup, by simpa using hne,
    by simpa using hfields, ⟨columns, hcolumns, by simp⟩, Or.inr ⟨hkind, columns, hcolumns, rfl⟩⟩

/-! ## Plans -/

/-- Assignments do to the slice of every row what those of the operation do. -/
def AssignsAs (operation : Operation) (names : List String) (assignments : List (String × String)) :
    Prop :=
  ∀ row, slice names (LogicalRow.assign assignments row) =
    slice names (LogicalRow.assign (operation.columns.zip operation.values) row)

/-- The fields of a group assign to its slices what all fields do. -/
theorem assignsAs_fieldsOf (hgroups : t.router.layout.columnGroups = some groups)
    (hnodup : groups.flatten.Nodup) {partition : Nat} {names : List String}
    (h : groups[partition]? = some names) (operation : Operation) :
    AssignsAs operation names
      (t.router.fieldsOf operation.columns operation.values partition) := by
  intro row
  refine LogicalRow.slice_assign_filter (fun column hcolumn field hfield => ?_) _ row
  rw [hfield, decide_eq_true_eq]
  exact (Router.groupOf?_eq_some hgroups hnodup).2 ⟨names, h, hcolumn⟩

theorem insertPlan_grouped (hg : t.Grouped groups) {operation : Operation} {plan : Plan}
    (h : t.insertPlan operation = .ok plan) :
    ∃ calls, plan = .each calls ∧ ∀ partition names, groups[partition]? = some names →
      partition ∈ calls.map Prod.fst ∧ ∀ call ∈ calls, call.1 = partition →
        ∃ columns values, call.2 = .insert columns values ∧
          slice names (Row.valueOf columns values) =
            slice names (Row.valueOf operation.columns operation.values) := by
  unfold insertPlan Router.routeInsert at h
  rcases hg.layout with ⟨hkind, hgroups⟩ | ⟨hkind, columns, hcolumns, rfl⟩
  · simp only [hkind] at h
    cases hslices : t.router.slices operation.columns operation.values with
    | error e => simp [hslices, Except.map] at h
    | ok slices =>
      obtain rfl : _ = plan := by simpa [hslices, Except.map] using h
      obtain rfl := Router.slices_ok hslices
      refine ⟨_, rfl, fun partition names hnames => ⟨?_, ?_⟩⟩
      · have hlt : partition < t.router.partitionCount :=
          hg.length ▸ (List.getElem?_eq_some_iff.1 hnames).1
        simp [Router.partitions, ColumnSlice.ofFields, hlt]
      · intro call hcall heq
        obtain ⟨part, hpart, rfl⟩ := List.mem_map.1 hcall
        obtain ⟨other, -, rfl⟩ := List.mem_map.1 hpart
        obtain rfl : other = partition := heq
        refine ⟨_, _, rfl, LogicalRow.slice_congr fun column hcolumn => ?_⟩
        refine Row.valueOf_filter fun field hfield => ?_
        rw [hfield, decide_eq_true_eq]
        exact (Router.groupOf?_eq_some hgroups hg.nodup).2 ⟨names, hnames, hcolumn⟩
  · simp only [hkind] at h
    obtain rfl : _ = plan := by simpa [Except.map] using h
    refine ⟨_, rfl, fun partition names hnames => ?_⟩
    obtain rfl : partition = 0 := by
      have := (List.getElem?_eq_some_iff.1 hnames).1
      simpa using this
    refine ⟨by simp, fun call hcall _ => ?_⟩
    obtain rfl := List.mem_singleton.1 hcall
    exact ⟨_, _, rfl, rfl⟩

/-- The driver of a condition is the partition whose group has its column. -/
theorem routePredicate_grouped (hg : t.Grouped groups) {operation : Operation}
    (haccepted : operation.Accepted (some groups.flatten)) {condition : Predicate} {driver : Nat}
    (hcondition : operation.condition = some condition)
    (h : t.router.routePredicate condition = .ok driver) :
    ∃ names, groups[driver]? = some names ∧ condition.column ∈ names := by
  unfold Router.routePredicate at h
  rcases hg.layout with ⟨hkind, hgroups⟩ | ⟨hkind, columns, hcolumns, rfl⟩
  · simp only [hkind, Router.partitionOfColumn] at h
    cases hgroup : t.router.groupOf? condition.column with
    | none => simp [hgroup] at h
    | some group =>
      obtain rfl : group = driver := by simpa [hgroup] using h
      exact Router.mem_of_groupOf? hgroups hgroup
  · simp only [hkind] at h
    obtain rfl : 0 = driver := by simpa using h
    refine ⟨columns, rfl, ?_⟩
    simpa using (haccepted.known _ rfl).2 condition hcondition

theorem updatePlan_grouped (hg : t.Grouped groups) {operation : Operation}
    {condition : Predicate} {driver : Nat} (hdriver : driver < groups.length) {plan : Plan}
    (h : t.updatePlan operation condition driver = .ok plan) :
    ∃ checked columns values others,
      plan = .driven checked driver (.update columns values condition) others ∧
      (∀ names, groups[driver]? = some names →
        AssignsAs operation names (columns.zip values)) ∧
      ∀ positions partition names, groups[partition]? = some names → partition ≠ driver →
        (∀ call ∈ others positions, call.1 = partition → ∃ columns values,
          call.2 = .updateAt positions columns values ∧
            AssignsAs operation names (columns.zip values)) ∧
        (partition ∉ (others positions).map Prod.fst → AssignsAs operation names []) := by
  unfold updatePlan at h
  rcases hg.layout with ⟨hkind, hgroups⟩ | ⟨hkind, columns, hcolumns, rfl⟩
  · simp only [hkind] at h
    cases hslices : t.router.splitAssignments operation.columns operation.values with
    | error e => simp [hslices, Except.map] at h
    | ok slices =>
      obtain rfl : _ = plan := by simpa [hslices, Except.map] using h
      have hlt : ∀ {partition names}, groups[partition]? = some names →
          partition < t.router.partitionCount := fun hnames =>
        hg.length ▸ (List.getElem?_eq_some_iff.1 hnames).1
      refine ⟨_, _, _, _, rfl, fun names hnames => ?_, fun positions partition names hnames hne =>
        ⟨fun call hcall heq => ?_, fun hout => ?_⟩⟩
      · have hown := assignsAs_fieldsOf hgroups hg.nodup hnames operation
        cases hfind : slices.find? fun slice => slice.partition = driver with
        | none =>
          rw [List.find?_eq_none] at hfind
          rw [Router.fieldsOf_eq_nil hslices (hlt hnames) (by simpa using hfind)] at hown
          exact hown
        | some own =>
          have hdriver : own.partition = driver := by simpa using List.find?_some hfind
          rw [← hdriver, ← Router.zip_splitAssignments hslices (List.mem_of_find?_eq_some hfind)]
            at hown
          exact hown
      · obtain ⟨part, hmem, rfl⟩ := List.mem_map.1 hcall
        refine ⟨_, _, rfl, ?_⟩
        rw [Router.zip_splitAssignments hslices (List.mem_filter.1 hmem).1,
          show part.partition = partition from heq]
        exact assignsAs_fieldsOf hgroups hg.nodup hnames operation
      · have hown := assignsAs_fieldsOf hgroups hg.nodup hnames operation
        rw [Router.fieldsOf_eq_nil hslices (hlt hnames)] at hown
        · exact hown
        · rintro part hmem rfl
          refine hout (List.mem_map.2 ⟨_, List.mem_map_of_mem (List.mem_filter.2 ⟨hmem, ?_⟩), rfl⟩)
          simpa using hne
  · simp only [hkind] at h
    obtain rfl : _ = plan := by simpa using h
    refine ⟨_, _, _, _, rfl, fun names _ row => rfl, fun positions partition names hnames hne => ?_⟩
    have hlt := (List.getElem?_eq_some_iff.1 hnames).1
    simp only [List.length_singleton] at hlt hdriver
    omega

theorem deletePlan_grouped (hg : t.Grouped groups) {condition : Predicate} {driver : Nat}
    (hdriver : driver < groups.length) :
    ∃ checked others, t.deletePlan condition driver =
        .driven checked driver (.delete condition) others ∧
      ∀ positions partition names, groups[partition]? = some names → partition ≠ driver →
        partition ∈ (others positions).map Prod.fst ∧
          ∀ call ∈ others positions, call.2 = .deleteAt positions := by
  unfold deletePlan
  rcases hg.layout with ⟨hkind, hgroups⟩ | ⟨hkind, columns, hcolumns, rfl⟩
  · simp only [hkind]
    refine ⟨_, _, rfl, fun positions partition names hnames hne => ⟨?_, ?_⟩⟩
    · have hlt : partition < t.router.partitionCount :=
        hg.length ▸ (List.getElem?_eq_some_iff.1 hnames).1
      simp [Router.partitions, hlt, hne]
    · intro call hcall
      obtain ⟨other, -, rfl⟩ := List.mem_map.1 hcall
      rfl
  · simp only [hkind]
    refine ⟨_, _, rfl, fun positions partition names hnames hne => ?_⟩
    have hlt := (List.getElem?_eq_some_iff.1 hnames).1
    simp only [List.length_singleton] at hlt hdriver
    omega

end ReplicatedTable

/-! ## Calls on slices -/

/-- The positions of the rows that an operation changes or removes. -/
def Operation.positions (operation : Operation) (rows : List LogicalRow) : List Nat :=
  match operation.kind, operation.condition with
  | .update, some condition => Row.positionsOf (LogicalRow.satisfies condition) rows
  | .delete, some condition => Row.positionsOf (LogicalRow.satisfies condition) rows
  | _, _ => []

namespace NodeCall

open ReplicatedTable (AssignsAs)

variable {names : List String} {rows : List LogicalRow} {operation : Operation}
  {condition : Predicate}

theorem onRows_insert {columns values : List String}
    (h : slice names (Row.valueOf columns values) =
      slice names (Row.valueOf operation.columns operation.values)) :
    ((NodeCall.insert columns values).onRows (some names) (rows.map (slice names))).2 =
      (rows ++ [Row.valueOf operation.columns operation.values]).map (slice names) := by
  rw [List.map_append, List.map_singleton, ← h]
  rfl

/-- Assignments at the positions of rows change the slices of these rows. -/
theorem assignAt_slice (hne : names ≠ []) (hnodup : names.Nodup)
    {assignments : List (String × String)} (h : AssignsAs operation names assignments)
    (hwritten : ∀ row ∈ rows, row.IsWritten) (p : LogicalRow → Bool) :
    Row.assignAt (some names) assignments (Row.positionsOf p rows) (rows.map (slice names)) =
      (rows.map fun row =>
        if p row then row.assign (operation.columns.zip operation.values) else row).map
          (slice names) := by
  rw [Row.assignAt_positionsOf, List.map_map]
  refine List.map_congr_left fun row hrow => ?_
  simp only [Function.comp_apply]
  split
  · rw [LogicalRow.assign_slice hne hnodup assignments (hwritten row hrow), h row]
  · rfl

theorem onRows_update (hmem : condition.column ∈ names) (hnodup : names.Nodup)
    {columns values : List String} (h : AssignsAs operation names (columns.zip values))
    (hwritten : ∀ row ∈ rows, row.IsWritten) :
    (NodeCall.update columns values condition).onRows (some names) (rows.map (slice names)) =
      (Row.positionsOf (LogicalRow.satisfies condition) rows,
        (rows.map fun row => if row.satisfies condition
          then row.assign (operation.columns.zip operation.values) else row).map
            (slice names)) := by
  simp only [onRows, LogicalRow.positionsOf_slice hmem hwritten]
  rw [assignAt_slice (List.ne_nil_of_mem hmem) hnodup h hwritten]

theorem onRows_updateAt (hne : names ≠ []) (hnodup : names.Nodup)
    {columns values : List String} (h : AssignsAs operation names (columns.zip values))
    (hwritten : ∀ row ∈ rows, row.IsWritten) (p : LogicalRow → Bool) :
    ((NodeCall.updateAt (Row.positionsOf p rows) columns values).onRows (some names)
        (rows.map (slice names))).2 =
      (rows.map fun row =>
        if p row then row.assign (operation.columns.zip operation.values) else row).map
          (slice names) := by
  have htargets : (Row.positionsOf p rows).filter (· < (rows.map (slice names)).length) =
      Row.positionsOf p rows := by
    simpa using Row.filter_positionsOf p rows
  simp only [onRows, htargets]
  exact assignAt_slice hne hnodup h hwritten p

theorem onRows_delete (hmem : condition.column ∈ names) (hwritten : ∀ row ∈ rows, row.IsWritten) :
    (NodeCall.delete condition).onRows (some names) (rows.map (slice names)) =
      (Row.positionsOf (LogicalRow.satisfies condition) rows,
        (rows.filter fun row => !row.satisfies condition).map (slice names)) := by
  simp only [onRows, LogicalRow.positionsOf_slice hmem hwritten, Row.removeAt_positionsOf]

theorem onRows_deleteAt (p : LogicalRow → Bool) :
    ((NodeCall.deleteAt (Row.positionsOf p rows)).onRows (some names)
        (rows.map (slice names))).2 = (rows.filter fun row => !p row).map (slice names) := by
  simp only [onRows, Row.removeAt_positionsOf]

end NodeCall

namespace ReplicatedTable

variable {t : ReplicatedTable} {groups : List (List String)} {operation : Operation}
  {rows : List LogicalRow}

/-- A plan that changes all slices as the operation changes the rows, if its driver holds slices
of the rows. -/
structure Effects (groups : List (List String)) (operation : Operation)
    (rows : List LogicalRow) (plan : Plan) : Prop where
  answer : ∀ checked driver call others, plan = .driven checked driver call others →
    ∃ names, groups[driver]? = some names ∧
      (call.onRows (some names) (rows.map (slice names))).1 = operation.positions rows
  undriven : ∀ calls, plan = .each calls → operation.positions rows = []
  called : ∀ call ∈ plan.called (operation.positions rows), ∀ names,
    groups[call.1]? = some names →
      (call.2.2.onRows (some names) (rows.map (slice names))).2 =
        (operation.apply rows).map (slice names)
  uncalled : ∀ partition ∉ (plan.called (operation.positions rows)).map Prod.fst, ∀ names,
    groups[partition]? = some names →
      (operation.apply rows).map (slice names) = rows.map (slice names)

theorem effects_insert (hg : t.Grouped groups) (hkind : operation.kind = .insert) {plan : Plan}
    (h : t.insertPlan operation = .ok plan) : Effects groups operation rows plan := by
  obtain ⟨calls, rfl, hcalls⟩ := insertPlan_grouped hg h
  refine ⟨by simp, fun _ _ => by simp [Operation.positions, hkind], ?_, ?_⟩
  · intro call hcall names hnames
    obtain ⟨⟨partition, call⟩, hmem, rfl⟩ := List.mem_map.1 hcall
    obtain ⟨columns, values, rfl, hslice⟩ := (hcalls partition names hnames).2 _ hmem rfl
    have happly : operation.apply rows =
        rows ++ [Row.valueOf operation.columns operation.values] := by
      simp [Operation.apply, hkind]
    rw [happly]
    exact NodeCall.onRows_insert hslice
  · intro partition hout names hnames
    rw [Plan.called, map_fst_anyCalls] at hout
    exact absurd (hcalls partition names hnames).1 hout

theorem effects_update (hg : t.Grouped groups)
    (haccepted : operation.Accepted (some groups.flatten)) (hkind : operation.kind = .update)
    (hwritten : ∀ row ∈ rows, row.IsWritten) {condition : Predicate} {driver : Nat}
    (hcondition : operation.condition = some condition)
    (hdriver : t.router.routePredicate condition = .ok driver) {plan : Plan}
    (h : t.updatePlan operation condition driver = .ok plan) (hfits : plan.Fits) :
    Effects groups operation rows plan := by
  obtain ⟨own, hown, hmem⟩ := routePredicate_grouped hg haccepted hcondition hdriver
  obtain ⟨checked, columns, values, others, rfl, hassigns, hothers⟩ :=
    updatePlan_grouped hg (List.getElem?_eq_some_iff.1 hown).1 h
  have hpositions : operation.positions rows =
      Row.positionsOf (LogicalRow.satisfies condition) rows := by
    simp [Operation.positions, hkind, hcondition]
  have happly : operation.apply rows = rows.map fun row => if row.satisfies condition
      then row.assign (operation.columns.zip operation.values) else row := by
    simp [Operation.apply, hkind, hcondition]
  have honRows := NodeCall.onRows_update hmem (hg.nodup_group hown) (hassigns own hown) hwritten
  refine ⟨?_, by simp, ?_, ?_⟩
  · rintro _ _ _ _ ⟨rfl, rfl, rfl, rfl⟩
    exact ⟨own, hown, by rw [honRows, hpositions]⟩
  · intro call hcall names hnames
    rw [happly]
    rcases List.mem_cons.1 hcall with rfl | hcall
    · obtain rfl : own = names := Option.some.inj (hown.symm.trans hnames)
      exact congrArg Prod.snd honRows
    · split at hcall
      · simp at hcall
      · obtain ⟨⟨partition, call⟩, hmem', rfl⟩ := List.mem_map.1 hcall
        have hne : partition ≠ driver :=
          ((hfits.2 _).2.1 partition (List.mem_map_of_mem hmem')).2
        obtain ⟨columns', values', rfl, hassigns'⟩ :=
          (hothers _ partition names hnames hne).1 _ hmem' rfl
        rw [hpositions]
        exact NodeCall.onRows_updateAt (hg.nonempty names (List.mem_of_getElem? hnames))
          (hg.nodup_group hnames) hassigns' hwritten _
  · intro partition hout names hnames
    obtain ⟨hne, hout⟩ := not_or.1 (List.mem_cons.not.1 hout)
    rw [happly, List.map_map]
    refine List.map_congr_left fun row hrow => ?_
    simp only [Function.comp_apply]
    split
    · next hsatisfies =>
      -- the row is at one of the positions, so the others are called
      rw [hpositions, if_neg fun hnil => by
        simp [Row.positionsOf_eq_nil.1 hnil row hrow] at hsatisfies, map_fst_anyCalls] at hout
      exact ((hothers _ partition names hnames hne).2 hout row).symm
    · rfl

theorem effects_delete (hg : t.Grouped groups)
    (haccepted : operation.Accepted (some groups.flatten)) (hkind : operation.kind = .delete)
    (hwritten : ∀ row ∈ rows, row.IsWritten) {condition : Predicate} {driver : Nat}
    (hcondition : operation.condition = some condition)
    (hdriver : t.router.routePredicate condition = .ok driver)
    (hfits : (t.deletePlan condition driver).Fits) :
    Effects groups operation rows (t.deletePlan condition driver) := by
  obtain ⟨own, hown, hmem⟩ := routePredicate_grouped hg haccepted hcondition hdriver
  obtain ⟨checked, others, hplan, hothers⟩ :=
    deletePlan_grouped hg (List.getElem?_eq_some_iff.1 hown).1
  rw [hplan] at hfits ⊢
  have hpositions : operation.positions rows =
      Row.positionsOf (LogicalRow.satisfies condition) rows := by
    simp [Operation.positions, hkind, hcondition]
  have happly : operation.apply rows = rows.filter fun row => !row.satisfies condition := by
    simp [Operation.apply, hkind, hcondition]
  have honRows := NodeCall.onRows_delete hmem hwritten
  refine ⟨?_, by simp, ?_, ?_⟩
  · rintro _ _ _ _ ⟨rfl, rfl, rfl, rfl⟩
    exact ⟨own, hown, by rw [honRows, hpositions]⟩
  · intro call hcall names hnames
    rw [happly]
    rcases List.mem_cons.1 hcall with rfl | hcall
    · obtain rfl : own = names := Option.some.inj (hown.symm.trans hnames)
      exact congrArg Prod.snd honRows
    · split at hcall
      · simp at hcall
      · obtain ⟨⟨partition, call⟩, hmem', rfl⟩ := List.mem_map.1 hcall
        have hne : partition ≠ driver :=
          ((hfits.2 _).2.1 partition (List.mem_map_of_mem hmem')).2
        obtain rfl := (hothers _ partition names hnames hne).2 _ hmem'
        rw [hpositions]
        exact NodeCall.onRows_deleteAt _
  · intro partition hout names hnames
    obtain ⟨hne, hout⟩ := not_or.1 (List.mem_cons.not.1 hout)
    -- every other partition is called, unless no row satisfies the condition
    have hnil : operation.positions rows = [] := by
      by_contra hsome
      rw [if_neg hsome, map_fst_anyCalls] at hout
      exact hout (hothers _ partition names hnames hne).1
    rw [hpositions, Row.positionsOf_eq_nil] at hnil
    rw [happly, List.filter_eq_self.2 fun row hrow => by simp [hnil row hrow]]

/-- **The plan of a write changes the slices as the operation changes the rows.** -/
theorem effects_plan? (ht : t.Deployed) (hg : t.Grouped groups)
    (haccepted : operation.Accepted (some groups.flatten))
    (hwritten : ∀ row ∈ rows, row.IsWritten) {plan : Plan} (h : t.plan? operation = .ok plan) :
    Effects groups operation rows plan := by
  have hfits := fits_plan? ht h
  unfold plan? at h
  split at h
  · next hkind => exact effects_insert hg hkind h
  · next hkind =>
    split at h
    · simp at h
    · next condition driver hroute =>
      obtain ⟨hcondition, hdriver⟩ := routeCondition_ok hroute
      exact effects_update hg haccepted hkind hwritten hcondition hdriver h hfits
  · next hkind =>
    cases hroute : t.routeCondition operation with
    | error e => simp [hroute, Except.map] at h
    | ok routed =>
      obtain ⟨condition, driver⟩ := routed
      obtain rfl : t.deletePlan condition driver = plan := by
        simpa [hroute, Except.map] using h
      obtain ⟨hcondition, hdriver⟩ := routeCondition_ok hroute
      exact effects_delete hg haccepted hkind hwritten hcondition hdriver hfits
  · next hkind =>
    obtain rfl : _ = plan := by simpa using h
    have hpositions : operation.positions rows = [] := by simp [Operation.positions, hkind]
    have happly : operation.apply rows = rows := by simp [Operation.apply, hkind]
    exact ⟨by simp, fun _ _ => hpositions, by simp [Plan.called, anyCalls],
      fun _ _ _ _ => by rw [happly]⟩

end ReplicatedTable

end TableStore
