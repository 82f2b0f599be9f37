import TableStore.Proofs.AnyRuns
import TableStore.Proofs.WriteGates

/-!
# Accepted writes meet known columns only

The columns of a table are written down three times: in the table itself, by which operations are
checked, in the groups of its layout, by which writes are split, and in the headers of its files.
This module shows that the three agree for every table of a coordinator.

* Routers.  Every column of a table has a group (`exists_groupOf?`), so writes of known columns can
  be split (`slices_of_known`), and a slice has columns of its own group only.
* Operations.  An accepted write has a text that counts as its key (`exists_keyValue?`).  It is
  routed unless the key should be a number and is none (`routes_of_validate`,
  `plan?_of_no_number`).
* Calls.  `MayUse` says which columns an operation may use in a partition.  Calls name no others
  (`mayUse_of_mem_called`), and the files of the partition have these (`MayUse.mem_storeColumns`).
* `columns_are_known` puts this together for every table of a run.
-/

namespace TableStore

/-! ## Routers -/

namespace Router

variable {router : Router} {groups : List (List String)} {columns values names : List String}

theorem exists_groupOf? (hgroups : router.layout.columnGroups = some groups)
    (hshares : Layout.Shares groups names) {column : String} (h : column ∈ names) :
    ∃ partition, router.groupOf? column = some partition := by
  obtain ⟨group, hgroup, hcolumn⟩ := List.mem_flatten.1 ((hshares.mem_iff column).2 h)
  obtain ⟨partition, hpartition⟩ := List.mem_iff_getElem?.1 hgroup
  exact ⟨partition, (groupOf?_eq_some hgroups hshares.nodup).2 ⟨group, hpartition, hcolumn⟩⟩

/-- A write is split if all of its columns have a group. -/
theorem slices_of_known
    (h : ∀ column ∈ columns, ∃ partition, router.groupOf? column = some partition)
    (values : List String) : ∃ parts, router.slices columns values = .ok parts := by
  have hnone : router.orphan? (columns.zip values) = none := by
    refine orphan?_eq_none.2 fun field hfield => ?_
    obtain ⟨partition, hpartition⟩ := h field.1 (List.of_mem_zip hfield).1
    simp [hpartition]
  exact ⟨_, by rw [slices_eq, hnone]⟩

section

variable {parts : List ColumnSlice} {part : ColumnSlice} {column : String}

/-- The columns of a slice are columns of the write, and of the group of its partition. -/
theorem known_of_mem_slices (h : router.slices columns values = .ok parts) (hpart : part ∈ parts)
    (hcolumn : column ∈ part.columns) :
    column ∈ columns ∧ router.groupOf? column = some part.partition := by
  rw [slices_ok h] at hpart
  obtain ⟨partition, -, rfl⟩ := List.mem_map.1 hpart
  obtain ⟨field, hfield, rfl⟩ := List.mem_map.1 hcolumn
  obtain ⟨hfield, hgroup⟩ := List.mem_filter.1 hfield
  exact ⟨(List.of_mem_zip hfield).1, of_decide_eq_true hgroup⟩

theorem known_of_mem_splitAssignments (h : router.splitAssignments columns values = .ok parts)
    (hpart : part ∈ parts) (hcolumn : column ∈ part.columns) :
    column ∈ columns ∧ router.groupOf? column = some part.partition := by
  unfold splitAssignments at h
  cases hslices : router.slices columns values with
  | error e => simp [hslices, Except.map] at h
  | ok all =>
    obtain rfl : _ = parts := by simpa [hslices, Except.map] using h
    exact known_of_mem_slices hslices (List.mem_filter.1 hpart).1 hcolumn

theorem known_of_mem_routeInsert (h : router.routeInsert columns values = .ok parts)
    (hpart : part ∈ parts) (hcolumn : column ∈ part.columns) : column ∈ columns ∧
      (router.layout.kind = .vertical → router.groupOf? column = some part.partition) := by
  by_cases hkind : router.layout.kind = .vertical
  · simp only [routeInsert, hkind] at h
    exact (known_of_mem_slices h hpart hcolumn).imp_right fun hgroup _ => hgroup
  · have hall := (routeInsert_ok h hpart).2 hkind
    exact ⟨hall.1 ▸ hcolumn, fun hvertical => absurd hvertical hkind⟩

end

/-- The failure to send a key to a partition. -/
def noNumber (key : String) : Error :=
  .invalidOperation ("horizontal partition key must be an integer, got '" ++ key ++ "'")

theorem partitionForKey_of_none {key : String} (h : keyNumber? key = none) :
    router.partitionForKey key = .error (noNumber key) := by
  simp only [partitionForKey, h, noNumber]

end Router

/-! ## Operations -/

namespace Operation

variable {operation : Operation} {table : TableDef}

/-- An accepted update or removal has a condition. -/
theorem exists_condition (h : operation.validate table = .ok ())
    (hneeds : operation.kind.needsCondition = true) :
    ∃ condition, operation.condition = some condition := by
  unfold validate at h
  split at h
  · simp at h
  · simp at h
  · simp at h
  · next _ hcondition _ =>
    unfold checkCondition at hcondition
    cases hfound : operation.condition with
    | none => simp [hneeds, hfound] at hcondition
    | some condition => exact ⟨condition, rfl⟩

/-- An accepted write has a text that stands for the key. -/
theorem exists_keyValue? (h : operation.validate table = .ok ())
    (hkind : operation.kind ≠ .select) : ∃ text, operation.keyValue? = some text := by
  unfold keyValue?
  cases hoperation : operation.kind with
  | insert =>
    obtain ⟨hne, hlength⟩ := (accepted_of_validate h).counts (by rw [hoperation]; rfl)
    have hpos := List.length_pos_of_ne_nil hne
    cases hvalues : operation.values with
    | nil => simp [hvalues] at hlength; exact absurd hlength hne
    | cons key rest => exact ⟨key, rfl⟩
  | update =>
    obtain ⟨condition, hcondition⟩ := exists_condition h (by rw [hoperation]; rfl)
    exact ⟨condition.value, by simp [hcondition]⟩
  | delete =>
    obtain ⟨condition, hcondition⟩ := exists_condition h (by rw [hoperation]; rfl)
    exact ⟨condition.value, by simp [hcondition]⟩
  | select => exact absurd hoperation hkind

end Operation

namespace ReplicatedTable

variable {t : ReplicatedTable} {operation : Operation}

/-- Under a layout by columns, all columns of an accepted operation have a group. -/
theorem exists_groupOf?_of_validate (ht : t.Deployed) (hlayout : t.router.layout.kind = .vertical)
    (h : operation.validate t.table = .ok ()) :
    (∀ column ∈ operation.columns, ∃ partition, t.router.groupOf? column = some partition) ∧
      ∀ condition ∈ operation.condition,
        ∃ partition, t.router.groupOf? condition.column = some partition := by
  obtain ⟨-, names, groups, hnames, hgroups, -, hshares⟩ := Layout.check_vertical ht.layout hlayout
  obtain ⟨hcolumns, hcondition⟩ := (Operation.accepted_of_validate h).known names hnames
  exact ⟨fun column hcolumn => Router.exists_groupOf? hgroups hshares (hcolumns column hcolumn),
    fun condition hmem => Router.exists_groupOf? hgroups hshares (hcondition condition hmem)⟩

theorem isOk_of_eq {ε α : Type} {reply : Except ε α} {value : α} (h : reply = .ok value) :
    reply.isOk = true := by
  rw [h]
  rfl

/-- A condition is routed if its column has a group, or its value is a number, where that counts. -/
theorem isOk_routePredicate {condition : Predicate}
    (hcolumn : t.router.layout.kind = .vertical →
      ∃ partition, t.router.groupOf? condition.column = some partition)
    (hkey : t.router.layout.kind = .horizontal → Router.keyNumber? condition.value ≠ none) :
    (t.router.routePredicate condition).isOk = true := by
  unfold Router.routePredicate
  cases hlayout : t.router.layout.kind with
  | none => rfl
  | horizontal =>
    obtain ⟨partition, hpartition⟩ := t.router.exists_partitionForKey_iff.2 (hkey hlayout)
    exact isOk_of_eq hpartition
  | vertical =>
    obtain ⟨partition, hpartition⟩ := hcolumn hlayout
    simp only [Router.partitionOfColumn, hpartition]
    rfl

/-- An accepted insertion is routed. -/
theorem isOk_routeInsert (ht : t.Deployed) (h : operation.validate t.table = .ok ())
    {key : String} (hvalue : operation.values.head? = some key)
    (hkey : t.router.layout.kind = .horizontal → Router.keyNumber? key ≠ none) :
    (t.router.routeInsert operation.columns operation.values).isOk = true := by
  unfold Router.routeInsert
  cases hlayout : t.router.layout.kind with
  | none => rfl
  | horizontal =>
    obtain ⟨partition, hpartition⟩ := t.router.exists_partitionForKey_iff.2 (hkey hlayout)
    simp only [hvalue, hpartition]
    rfl
  | vertical =>
    obtain ⟨parts, hparts⟩ := Router.slices_of_known
      (exists_groupOf?_of_validate ht hlayout h).1 operation.values
    exact isOk_of_eq hparts

/-- **An accepted write is routed** unless its key should be a number and is none. -/
theorem routes_of_validate (ht : t.Deployed) (hkind : operation.kind ≠ .select)
    (h : operation.validate t.table = .ok ()) {key : String}
    (hvalue : operation.keyValue? = some key)
    (hkey : t.router.layout.kind = .horizontal → Router.keyNumber? key ≠ none) :
    t.Routes operation := by
  have hcondition (hneeds : operation.kind.needsCondition = true)
      (hvalue : operation.condition.map Predicate.value = some key) :
      ∃ condition ∈ operation.condition, (t.router.routePredicate condition).isOk = true := by
    obtain ⟨condition, hcondition, rfl⟩ := Option.map_eq_some_iff.1 hvalue
    exact ⟨condition, hcondition, isOk_routePredicate
      (fun hlayout => (exists_groupOf?_of_validate ht hlayout h).2 condition hcondition) hkey⟩
  unfold Operation.keyValue? at hvalue
  unfold Routes
  cases hoperation : operation.kind with
  | insert =>
    simp only [hoperation] at hvalue ⊢
    exact isOk_routeInsert ht h hvalue hkey
  | update =>
    simp only [hoperation] at hvalue ⊢
    obtain ⟨condition, hmem, hrouted⟩ := hcondition (by rw [hoperation]; rfl) hvalue
    refine ⟨condition, hmem, hrouted, fun hlayout => ?_⟩
    obtain ⟨parts, hparts⟩ := Router.slices_of_known
      (exists_groupOf?_of_validate ht hlayout h).1 operation.values
    rw [Router.splitAssignments, hparts]
    rfl
  | delete =>
    simp only [hoperation] at hvalue ⊢
    exact hcondition (by rw [hoperation]; rfl) hvalue
  | select => exact absurd hoperation hkind

/-- A write is refused if its key should be a number and is none. -/
theorem plan?_of_no_number (hlayout : t.router.layout.kind = .horizontal) {key : String}
    (hvalue : operation.keyValue? = some key) (hkey : Router.keyNumber? key = none) :
    t.plan? operation = .error (Router.noNumber key) := by
  have hcondition (hvalue : operation.condition.map Predicate.value = some key) :
      t.routeCondition operation = .error (Router.noNumber key) := by
    obtain ⟨condition, hcondition, rfl⟩ := Option.map_eq_some_iff.1 hvalue
    simp only [routeCondition, requiredCondition, hcondition, Router.routePredicate, hlayout,
      Router.partitionForKey_of_none hkey]
    rfl
  unfold Operation.keyValue? at hvalue
  unfold plan?
  cases hoperation : operation.kind with
  | insert =>
    simp only [hoperation] at hvalue ⊢
    simp only [insertPlan, Router.routeInsert, hlayout, hvalue, Router.partitionForKey_of_none hkey]
    rfl
  | update =>
    simp only [hoperation] at hvalue ⊢
    rw [hcondition hvalue]
  | delete =>
    simp only [hoperation] at hvalue ⊢
    rw [hcondition hvalue]
    rfl
  | select => simp [hoperation] at hvalue

end ReplicatedTable

/-! ## Calls -/

/-- The columns that a call names, the one of its condition included. -/
def NodeCall.columns {kind : ReplyKind} : NodeCall kind → List String
  | .insert names _ => names
  | .update names _ condition => names ++ [condition.column]
  | .updateAt _ names _ => names
  | .delete condition => [condition.column]
  | .select | .deleteAt _ | .heartbeat => []

namespace ReplicatedTable

variable {t : ReplicatedTable} {operation : Operation} {positions : List Nat}
  {call : Nat × AnyCall} {column : String} {condition : Predicate} {driver : Nat} {plan : Plan}

/-- An operation may use a column in a partition: it names the column itself, and if columns decide
about partitions, the column is in the group of this one. -/
def MayUse (t : ReplicatedTable) (operation : Operation) (partition : Nat) (column : String) :
    Prop :=
  (column ∈ operation.columns ∨ ∃ condition ∈ operation.condition, condition.column = column) ∧
    (t.router.layout.kind = .vertical → t.router.groupOf? column = some partition)

theorem mayUse_condition (hcondition : operation.condition = some condition)
    (hdriver : t.router.routePredicate condition = .ok driver) :
    t.MayUse operation driver condition.column := by
  refine ⟨Or.inr ⟨condition, hcondition, rfl⟩, fun hvertical => ?_⟩
  simp only [Router.routePredicate, hvertical, Router.partitionOfColumn] at hdriver
  cases hgroup : t.router.groupOf? condition.column with
  | none => simp [hgroup] at hdriver
  | some group => simpa [hgroup] using hdriver

theorem mayUse_insertPlan (h : t.insertPlan operation = .ok plan)
    (hcall : call ∈ plan.called positions) (hcolumn : column ∈ call.2.2.columns) :
    t.MayUse operation call.1 column := by
  unfold insertPlan at h
  cases hslices : t.router.routeInsert operation.columns operation.values with
  | error e => simp [hslices, Except.map] at h
  | ok slices =>
    obtain rfl : _ = plan := by simpa [hslices, Except.map] using h
    obtain ⟨own, hown, rfl⟩ := mem_anyCalls hcall
    obtain ⟨slice, hslice, rfl⟩ := List.mem_map.1 hown
    exact (Router.known_of_mem_routeInsert hslices hslice hcolumn).imp_left Or.inl

theorem mayUse_updatePlan (hcondition : operation.condition = some condition)
    (hdriver : t.router.routePredicate condition = .ok driver)
    (h : t.updatePlan operation condition driver = .ok plan)
    (hcall : call ∈ plan.called positions) (hcolumn : column ∈ call.2.2.columns) :
    t.MayUse operation call.1 column := by
  unfold updatePlan at h
  split at h
  · cases hslices : t.router.splitAssignments operation.columns operation.values with
    | error e => simp [hslices, Except.map] at h
    | ok slices =>
      obtain rfl : _ = plan := by simpa [hslices, Except.map] using h
      have hslice {slice : ColumnSlice} (hmem : slice ∈ slices) (hcolumn : column ∈ slice.columns) :
          t.MayUse operation slice.partition column :=
        have hknown := Router.known_of_mem_splitAssignments hslices hmem hcolumn
        ⟨Or.inl hknown.1, fun _ => hknown.2⟩
      rcases mem_called_driven hcall with rfl | ⟨own, hown, rfl⟩
      · rcases List.mem_append.1 hcolumn with hassigned | hlooked
        · -- the driver has a slice of its own, or nothing is assigned there
          cases hfind : slices.find? fun slice => slice.partition = driver with
          | none => simp [hfind] at hassigned
          | some slice =>
            have hpartition : slice.partition = driver := by simpa using List.find?_some hfind
            rw [hfind] at hassigned
            exact hpartition ▸ hslice (List.mem_of_find?_eq_some hfind) hassigned
        · rw [List.mem_singleton.1 hlooked]
          exact mayUse_condition hcondition hdriver
      · obtain ⟨slice, hmem, rfl⟩ := List.mem_map.1 hown
        exact hslice (List.mem_filter.1 hmem).1 hcolumn
  all_goals
    next hkind =>
    obtain rfl : _ = plan := by simpa using h
    rcases mem_called_driven hcall with rfl | ⟨own, hown, -⟩
    · rcases List.mem_append.1 hcolumn with hassigned | hlooked
      · exact ⟨Or.inl hassigned, fun hvertical => absurd hvertical hkind⟩
      · rw [List.mem_singleton.1 hlooked]
        exact mayUse_condition hcondition hdriver
    · simp at hown

theorem mayUse_deletePlan (hcondition : operation.condition = some condition)
    (hdriver : t.router.routePredicate condition = .ok driver)
    (hcall : call ∈ (t.deletePlan condition driver).called positions)
    (hcolumn : column ∈ call.2.2.columns) : t.MayUse operation call.1 column := by
  rcases mem_called_deletePlan hcall with rfl | ⟨partition, rfl⟩
  · rw [List.mem_singleton.1 hcolumn]
    exact mayUse_condition hcondition hdriver
  · simp [NodeCall.columns] at hcolumn

/-- A call names only columns that the operation may use in its partition. -/
theorem mayUse_of_mem_called (hplan : t.plan? operation = .ok plan)
    (hcall : call ∈ plan.called positions) (hcolumn : column ∈ call.2.2.columns) :
    t.MayUse operation call.1 column := by
  unfold plan? at hplan
  split at hplan
  · exact mayUse_insertPlan hplan hcall hcolumn
  · split at hplan
    · simp at hplan
    · next condition driver hroute =>
      obtain ⟨hcondition, hdriver⟩ := routeCondition_ok hroute
      exact mayUse_updatePlan hcondition hdriver hplan hcall hcolumn
  · cases hroute : t.routeCondition operation with
    | error e => simp [hroute, Except.map] at hplan
    | ok routed =>
      obtain rfl : _ = plan := by simpa [hroute, Except.map] using hplan
      obtain ⟨hcondition, hdriver⟩ := routeCondition_ok hroute
      exact mayUse_deletePlan hcondition hdriver hcall hcolumn
  · obtain rfl : _ = plan := by simpa using hplan
    simp [Plan.called, anyCalls] at hcall

/-- The stores of a partition have all columns that an accepted operation may use there. -/
theorem MayUse.mem_storeColumns {partition : Nat} (h : t.MayUse operation partition column)
    (ht : t.Deployed) (hvalid : operation.validate t.table = .ok ()) {names : List String}
    (hnames : storeColumns t.table t.router partition = some names) : column ∈ names := by
  obtain ⟨hnamed, hgroup⟩ := h
  unfold storeColumns at hnames
  split at hnames
  · next hvertical =>
    obtain ⟨-, columns, groups, -, hgroups, -⟩ := Layout.check_vertical ht.layout hvertical
    obtain ⟨found, hfound, hmem⟩ := Router.mem_of_groupOf? hgroups (hgroup hvertical)
    rw [Router.group_eq hgroups, hfound] at hnames
    exact Option.some.inj hnames ▸ hmem
  · obtain ⟨hcolumns, hcondition⟩ := (Operation.accepted_of_validate hvalid).known names hnames
    rcases hnamed with hcolumn | ⟨condition, hmem, rfl⟩
    · exact hcolumns column hcolumn
    · exact hcondition condition hmem

end ReplicatedTable

/-! ## Runs -/

namespace Coordinator

/-- **Checks, routing and headers agree.**  After any run, an accepted write on a table is routed
unless rows go by keys and its key is no number.  Whatever calls the write makes then, each column
that is named to a store with columns is one of the store's own. -/
theorem columns_are_known (cluster : Cluster) (settings : ReplicationSettings)
    (events : List Event) {key : String} {t : ReplicatedTable}
    (hget : (run next (empty cluster settings) events).tables.get? key = some t)
    {operation : Operation} (hkind : operation.kind ≠ .select)
    (hvalid : operation.validate t.table = .ok ()) :
    (∀ others, t.write operation others = t.follow others (t.plan? operation)) ∧
    (t.router.layout.kind ≠ .horizontal → ∃ plan, t.plan? operation = .ok plan) ∧
    (∀ e, t.plan? operation = .error e ↔ t.router.layout.kind = .horizontal ∧
      ∃ text ∈ operation.keyValue?, Router.keyNumber? text = none ∧ e = .invalidOperation
        ("horizontal partition key must be an integer, got '" ++ text ++ "'")) ∧
    ∀ partition call, t.Plans operation (partition, call) → ∀ replica ∈ t.replicas partition,
      ∀ node, (run next (empty cluster settings) events).cluster.registry.get? replica.id =
          some node →
        ∀ names, node.store.columns = some names → ∀ column ∈ call.2.columns,
          ∃ idx, names.idxOf? column = some idx := by
  obtain ⟨-, ht, -, hknown, -⟩ := orderly_run (orderly_empty cluster settings) events key t hget
  obtain ⟨text, hvalue⟩ := Operation.exists_keyValue? hvalid hkind
  have hplan (hkey : t.router.layout.kind = .horizontal → Router.keyNumber? text ≠ none) :
      ∃ plan, t.plan? operation = .ok plan := by
    obtain ⟨plan, hplan, -⟩ :=
      t.checks_plan? ht (t.routes_of_validate ht hkind hvalid hvalue hkey)
    exact ⟨plan, hplan⟩
  refine ⟨fun others => t.write_eq_plan operation others,
    fun hlayout => hplan fun h => absurd h hlayout, fun e => ⟨fun herror => ?_, ?_⟩, ?_⟩
  · by_cases hrefused : t.router.layout.kind = .horizontal ∧ Router.keyNumber? text = none
    · have hfails := ReplicatedTable.plan?_of_no_number hrefused.1 hvalue hrefused.2
      exact ⟨hrefused.1, text, hvalue, hrefused.2, Except.error.inj (herror.symm.trans hfails)⟩
    · obtain ⟨plan, hok⟩ := hplan fun hlayout hnone => hrefused ⟨hlayout, hnone⟩
      simp [hok] at herror
  · rintro ⟨hlayout, text', hvalue', hnone, rfl⟩
    exact ReplicatedTable.plan?_of_no_number hlayout hvalue' hnone
  · rintro partition call ⟨plan, positions, hok, hcall⟩ replica hreplica node hfound names hnames
      column hcolumn
    have hnode : replica.node ∈ t.nodes partition := List.mem_map_of_mem hreplica
    obtain rfl := hknown.node_eq hnode hfound
    rw [ht.columns partition _ hnode] at hnames
    have hmem : column ∈ names :=
      (ReplicatedTable.mayUse_of_mem_called hok hcall hcolumn).mem_storeColumns ht hvalid hnames
    cases hidx : names.idxOf? column with
    | none => exact absurd hmem (List.idxOf?_eq_none_iff.1 hidx)
    | some idx => exact ⟨idx, rfl⟩

/-- Ships by columns, and berths by their numbers. -/
def shipyard : List Event :=
  [.create ⟨⟨"ships", .sql, some ["name", "flag", "berth"]⟩, 2,
      .byColumns [["flag", "berth"], ["name"]]⟩,
    .create ⟨⟨"berths", .sql, some ["number", "depth"]⟩, 1, .byKey 2⟩,
    .stop ⟨.sql, "ships", 0, 1⟩, .beat]

/-- An update of ships reads one column and assigns another one, which the file of another partition
has.  A berth without a number is refused. -/
theorem columns_are_known_shipyard :
    let c := run next (empty ⟨.direct, .empty⟩ ⟨["data"], 1000⟩) shipyard
    ∃ ships berths, c.tables.get? "ships-SQL" = some ships ∧
      c.tables.get? "berths-SQL" = some berths ∧
      (∃ plan, ships.plan? (.assignment "ships" ["berth"] ["7"] ⟨"name", "Fram"⟩) = .ok plan) ∧
      (∀ call, ships.Plans (.assignment "ships" ["berth"] ["7"] ⟨"name", "Fram"⟩) (0, call) →
        ∀ replica ∈ ships.replicas 0, ∀ node, c.cluster.registry.get? replica.id = some node →
          ∀ names, node.store.columns = some names → ∀ column ∈ call.2.columns,
            ∃ idx, names.idxOf? column = some idx) ∧
      berths.plan? (.insertion "berths" ["number"] ["north"]) = .error (.invalidOperation
        "horizontal partition key must be an integer, got 'north'") := by
  intro c
  have hships : (c.tables.get? "ships-SQL").any (fun t => decide
      (t.router.layout.kind ≠ .horizontal ∧
        ((Operation.assignment "ships" ["berth"] ["7"] ⟨"name", "Fram"⟩).validate
          t.table).isOk)) = true := by decide
  have hberths : (c.tables.get? "berths-SQL").any (fun t => decide
      (t.router.layout.kind = .horizontal ∧
        ((Operation.insertion "berths" ["number"] ["north"]).validate t.table).isOk)) = true := by
    decide
  obtain ⟨ships, hgetShips, hships⟩ := (Option.any_eq_true _ _).1 hships
  obtain ⟨berths, hgetBerths, hberths⟩ := (Option.any_eq_true _ _).1 hberths
  obtain ⟨hlayout, hvalid⟩ := of_decide_eq_true hships
  obtain ⟨hlayout', hvalid'⟩ := of_decide_eq_true hberths
  obtain ⟨-, hplan, -, hknown⟩ := columns_are_known _ _ shipyard hgetShips (by decide)
    (ReplicatedTable.exists_of_isOk hvalid).choose_spec
  obtain ⟨-, -, hrefused, -⟩ := columns_are_known _ _ shipyard hgetBerths (by decide)
    (ReplicatedTable.exists_of_isOk hvalid').choose_spec
  refine ⟨ships, berths, hgetShips, hgetBerths, hplan hlayout, hknown 0, ?_⟩
  exact (hrefused _).2 ⟨hlayout', "north", rfl, by decide, rfl⟩

end Coordinator

end TableStore
