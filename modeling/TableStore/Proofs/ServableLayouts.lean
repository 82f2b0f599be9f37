import TableStore.Proofs.Routing

/-!
# Which layouts can be served

A layout has one of three forms (`Suits`): one partition, partitions by key, or groups that share
out the columns of an SQL table among the partitions.  The check of a layout refuses everything
else and nothing more (`check_iff`).

The lemmas `_ok` of the module on routing say what a check that passed establishes; here are the
lemmas `_of_known` and `_of_shares` for the other direction, one for each of the nested loops.
The columns seen by a loop are the invariant in both directions: they are the columns of the groups
before, last one first.
-/

namespace TableStore

namespace Layout

variable {layout : Layout} {table : TableDef} {columns seen : List String}

/-! ## Groups that pass -/

/-- New columns of the table pass, and have been seen afterwards. -/
theorem checkGroup_of_known {names : List String} (group : Nat)
    (hknown : ∀ column ∈ names, column ∈ columns) (hnodup : (names.reverse ++ seen).Nodup) :
    checkGroup columns group seen names = .ok (names.reverse ++ seen) := by
  induction names generalizing seen with
  | nil => rfl
  | cons column rest ih =>
    obtain ⟨hcolumn, hrest⟩ := List.forall_mem_cons.1 hknown
    have hnodup : (rest.reverse ++ column :: seen).Nodup := by simpa using hnodup
    have hfresh : column ∉ seen := (List.nodup_cons.1 (List.nodup_append.1 hnodup).2.1).1
    rw [checkGroup, if_neg (not_not.2 hcolumn), if_neg hfresh, ih hrest hnodup]
    simp

theorem checkGroups_of_known {groups : List (List String)} (group : Nat)
    (hnonempty : ∀ names ∈ groups, names ≠ [])
    (hknown : ∀ column ∈ groups.flatten, column ∈ columns)
    (hnodup : (groups.flatten.reverse ++ seen).Nodup) :
    checkGroups columns group seen groups = .ok (groups.flatten.reverse ++ seen) := by
  induction groups generalizing seen group with
  | nil => rfl
  | cons names rest ih =>
    obtain ⟨hne, hrest⟩ := List.forall_mem_cons.1 hnonempty
    obtain ⟨hnames, hothers⟩ := List.forall_mem_append.1 (List.flatten_cons ▸ hknown)
    have hnodup : (rest.flatten.reverse ++ (names.reverse ++ seen)).Nodup := by
      simpa using hnodup
    have hgroup := checkGroup_of_known group hnames (List.nodup_append.1 hnodup).2.1
    simp only [checkGroups, if_neg hne, hgroup, ih (group + 1) hrest hothers hnodup]
    simp

theorem checkColumns_of_shares {groups : List (List String)} (h : Shares groups columns) :
    checkColumns groups.length columns groups = .ok () := by
  have hnodup : (groups.flatten.reverse ++ []).Nodup := by simpa using h.nodup
  have hgroups := checkGroups_of_known 0 h.nonempty
    (fun column hcolumn => (h.mem_iff column).1 hcolumn) hnodup
  have hmissing : columns.find? (· ∉ groups.flatten.reverse ++ []) = none := by
    simpa [List.find?_eq_none] using fun column hcolumn => (h.mem_iff column).2 hcolumn
  simp only [checkColumns, ne_eq, not_true_eq_false, if_false, hgroups, hmissing]

/-! ## Layouts that pass -/

/-- The layouts that suit a table, as far as the number of partitions does not matter. -/
inductive Suits (table : TableDef) : Layout → Prop
  | single : Suits table .single
  | byKey (count : Nat) : Suits table (.byKey count)
  | byColumns {columns : List String} {groups : List (List String)} (sql : table.kind = .sql)
      (named : table.columns = some columns) (shares : Shares groups columns) :
      Suits table (.byColumns groups)

theorem checkNoGroups_iff : layout.checkNoGroups = .ok () ↔ layout.columnGroups = none := by
  unfold checkNoGroups
  cases layout.columnGroups <;> simp

/-- A layout that passes the check has one of the three forms. -/
theorem suits_of_check (h : layout.check table = .ok ()) : layout.Suits table := by
  have hcheck := h
  obtain ⟨kind, count, groups?⟩ := layout
  unfold check at h
  split at h
  · simp at h
  · cases kind with
    | none =>
      simp only at h
      split at h
      · simp at h
      · next hone =>
        obtain rfl : count = 1 := not_not.1 hone
        obtain rfl : groups? = none := checkNoGroups_iff.1 h
        exact .single
    | horizontal =>
      obtain rfl : groups? = none := checkNoGroups_iff.1 h
      exact .byKey count
    | vertical =>
      obtain ⟨hsql, columns, groups, hnamed, hgroups, hlength, hshares⟩ :=
        check_vertical hcheck rfl
      obtain rfl : groups? = some groups := hgroups
      obtain rfl : groups.length = count := hlength
      exact .byColumns hsql hnamed hshares

theorem partitionCount_le (h : layout.check table = .ok ()) :
    layout.partitionCount ≤ maxPartitions := by
  unfold check at h
  split at h
  · simp at h
  · next hrange => exact Nat.le_of_not_lt fun hlt => hrange (Or.inr hlt)

/-- A layout of one of the three forms passes if it has an allowed number of partitions. -/
theorem check_of_suits (hpos : 1 ≤ layout.partitionCount)
    (hle : layout.partitionCount ≤ maxPartitions) (h : layout.Suits table) :
    layout.check table = .ok () := by
  have hrange : ¬(layout.partitionCount = 0 ∨ maxPartitions < layout.partitionCount) := by omega
  rw [check, if_neg hrange]
  cases h with
  | single => rfl
  | byKey count => rfl
  | byColumns hsql hnamed hshares =>
    simp only [byColumns, hsql, hnamed]
    exact checkColumns_of_shares hshares

theorem check_iff : layout.check table = .ok () ↔
    (1 ≤ layout.partitionCount ∧ layout.partitionCount ≤ maxPartitions) ∧ layout.Suits table :=
  ⟨fun h => ⟨⟨partitionCount_pos h, partitionCount_le h⟩, suits_of_check h⟩,
    fun ⟨⟨hpos, hle⟩, h⟩ => check_of_suits hpos hle h⟩

theorem validate_iff : layout.validate table = .ok () ↔ layout.check table = .ok () := by
  unfold validate
  cases layout.check table <;> simp [Except.mapError]

/-! ## Routers of layouts that pass -/

/-- **Validation accepts exactly the layouts that can be served.**  They have an allowed number of
partitions and one of the three forms.  The router of such a layout with groups finds the group of
a column if and only if the group names the column, and the group is one of the partitions. -/
theorem servable_layouts (layout : Layout) (table : TableDef) :
    (layout.validate table = .ok () ↔
      (1 ≤ layout.partitionCount ∧ layout.partitionCount ≤ maxPartitions) ∧
        layout.Suits table) ∧
      ∀ router, Router.create layout table = .ok router → layout.kind = .vertical →
        ∃ groups, layout.columnGroups = some groups ∧ ∀ column group,
          router.groupOf? column = some group ↔ group < layout.partitionCount ∧
            ∃ names, groups[group]? = some names ∧ column ∈ names := by
  refine ⟨validate_iff.trans check_iff, fun router hrouter hkind => ?_⟩
  obtain ⟨rfl, hcheck⟩ := Router.check_of_create hrouter
  obtain ⟨-, -, groups, -, hgroups, -, -⟩ := check_vertical hcheck hkind
  obtain ⟨hlength, hnamed⟩ := Router.groupOf?_of_check hcheck hkind hgroups
  refine ⟨groups, hgroups, fun column group => (hnamed column group).trans ?_⟩
  constructor
  · rintro ⟨names, hnames, hcolumn⟩
    exact ⟨hlength ▸ (List.getElem?_eq_some_iff.1 hnames).1, names, hnames, hcolumn⟩
  · rintro ⟨-, named⟩
    exact named

/-- Maps with their columns in two groups, in an order of their own. -/
def splitMaps : Layout := .byColumns [["sheet"], ["year", "title"]]

/-- The layout of the maps suits their table but no table with a further column, and its router
finds the columns of the second group there. -/
theorem servable_layouts_maps :
    splitMaps.Suits ⟨"maps", .sql, some ["title", "sheet", "year"]⟩ ∧
      ¬splitMaps.Suits ⟨"maps", .sql, some ["title", "sheet", "year", "scale"]⟩ ∧
      ∃ router, Router.create splitMaps ⟨"maps", .sql, some ["title", "sheet", "year"]⟩ =
          .ok router ∧ router.groupOf? "title" = some 1 ∧ router.groupOf? "scale" ≠ some 1 := by
  obtain ⟨hvalid, hrouter⟩ := servable_layouts splitMaps
    ⟨"maps", .sql, some ["title", "sheet", "year"]⟩
  obtain ⟨groups, hgroups, hiff⟩ := hrouter ⟨splitMaps⟩ (by decide) rfl
  obtain rfl := Option.some.inj hgroups
  refine ⟨(hvalid.1 (by decide)).2, fun hsuits => ?_, ⟨splitMaps⟩, by decide, ?_, fun hscale => ?_⟩
  · have haccepted := (servable_layouts splitMaps
      ⟨"maps", .sql, some ["title", "sheet", "year", "scale"]⟩).1.2 ⟨by decide, hsuits⟩
    exact absurd haccepted (by decide)
  · exact (hiff "title" 1).2 ⟨by decide, ["year", "title"], rfl, by decide⟩
  · obtain ⟨-, names, hnames, hmem⟩ := (hiff "scale" 1).1 hscale
    obtain rfl : ["year", "title"] = names := Option.some.inj hnames
    exact absurd hmem (by decide)

end Layout

end TableStore
