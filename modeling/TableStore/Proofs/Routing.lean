import Mathlib.Data.List.Nodup
import TableStore.Layout.Router
import TableStore.Proofs.Rows

/-!
# Where rows, columns and conditions go

What the check of a layout establishes (`check_vertical`, `check_none`), and how a router splits
the fields of a write.  Under a layout by columns every column has one group (`groupOf?_eq_some`),
so the slice of a partition holds the fields of its columns and no others (`slices_ok`), and a
column has the same value in its slice as in the whole write (`valueOf_filter`).
-/

namespace TableStore

/-! ## Checked layouts -/

namespace Layout

theorem checkGroup_ok {columns names seen seen' : List String} {group : Nat}
    (h : checkGroup columns group seen names = .ok seen') :
    seen' = names.reverse ++ seen ∧ (∀ column ∈ names, column ∈ columns) ∧
      (seen.Nodup → seen'.Nodup) := by
  induction names generalizing seen with
  | nil =>
    obtain rfl : seen = seen' := by simpa [checkGroup] using h
    exact ⟨rfl, by simp, id⟩
  | cons column rest ih =>
    simp only [checkGroup] at h
    split at h
    · simp at h
    · next hknown =>
      split at h
      · simp at h
      · next hfresh =>
        obtain ⟨rfl, hrest, hnodup⟩ := ih h
        refine ⟨by simp, List.forall_mem_cons.2 ⟨not_not.1 hknown, hrest⟩, fun hseen => ?_⟩
        exact hnodup (List.nodup_cons.2 ⟨hfresh, hseen⟩)

theorem checkGroups_ok {columns seen seen' : List String} {groups : List (List String)}
    {group : Nat} (h : checkGroups columns group seen groups = .ok seen') :
    seen' = groups.flatten.reverse ++ seen ∧ (∀ column ∈ groups.flatten, column ∈ columns) ∧
      (seen.Nodup → seen'.Nodup) ∧ ∀ names ∈ groups, names ≠ [] := by
  induction groups generalizing seen group with
  | nil =>
    obtain rfl : seen = seen' := by simpa [checkGroups] using h
    exact ⟨rfl, by simp, id, by simp⟩
  | cons names rest ih =>
    simp only [checkGroups] at h
    split at h
    · simp at h
    · next hne =>
      split at h
      · simp at h
      · next seen₁ hgroup =>
        obtain ⟨rfl, hknown, hnodup⟩ := checkGroup_ok hgroup
        obtain ⟨rfl, hrest, hnodup', hnonempty⟩ := ih h
        refine ⟨by simp, ?_, fun hseen => hnodup' (hnodup hseen),
          List.forall_mem_cons.2 ⟨hne, hnonempty⟩⟩
        intro column hcolumn
        rcases List.mem_append.1 (List.flatten_cons ▸ hcolumn) with hcolumn | hcolumn
        · exact hknown column hcolumn
        · exact hrest column hcolumn

/-- The columns of a table, shared out among groups. -/
structure Shares (groups : List (List String)) (columns : List String) : Prop where
  nodup : groups.flatten.Nodup
  nonempty : ∀ names ∈ groups, names ≠ []
  mem_iff : ∀ column, column ∈ groups.flatten ↔ column ∈ columns

theorem checkColumns_ok {count : Nat} {columns : List String} {groups : List (List String)}
    (h : checkColumns count columns groups = .ok ()) :
    groups.length = count ∧ Shares groups columns := by
  unfold checkColumns at h
  split at h
  · simp at h
  · next hlength =>
    split at h
    · simp at h
    · next seen hgroups =>
      obtain ⟨rfl, hknown, hnodup, hnonempty⟩ := checkGroups_ok hgroups
      split at h
      · simp at h
      · next hmissing =>
        rw [List.find?_eq_none] at hmissing
        refine ⟨not_not.1 hlength, ?_, hnonempty, fun column => ⟨hknown column, fun hcolumn => ?_⟩⟩
        · simpa using hnodup List.nodup_nil
        · simpa using hmissing column hcolumn

variable {layout : Layout} {table : TableDef}

theorem partitionCount_pos (h : layout.check table = .ok ()) : 0 < layout.partitionCount := by
  unfold check at h
  split at h
  · simp at h
  · next hrange => exact Nat.pos_of_ne_zero fun hzero => hrange (Or.inl hzero)

theorem check_none (h : layout.check table = .ok ()) (hkind : layout.kind = .none) :
    layout.partitionCount = 1 := by
  unfold check at h
  split at h
  · simp at h
  · rw [hkind] at h
    simp only at h
    split at h
    · simp at h
    · next hone => exact not_not.1 hone

/-- The groups of a layout by columns share out the columns of the table. -/
theorem check_vertical (h : layout.check table = .ok ()) (hkind : layout.kind = .vertical) :
    table.kind = .sql ∧ ∃ columns groups, table.columns = some columns ∧
      layout.columnGroups = some groups ∧ groups.length = layout.partitionCount ∧
      Shares groups columns := by
  unfold check at h
  split at h
  · simp at h
  · rw [hkind] at h
    simp only at h
    split at h
    · simp at h
    · simp at h
    · simp at h
    · next columns groups hsql hcolumns hgroups =>
      exact ⟨hsql, columns, groups, hcolumns, hgroups, checkColumns_ok h⟩

end Layout

/-! ## Groups of columns -/

/-- The slice of a partition, as a list of its fields. -/
def ColumnSlice.ofFields (partition : Nat) (fields : List (String × String)) : ColumnSlice :=
  ⟨partition, fields.map Prod.fst, fields.map Prod.snd⟩

theorem zip_map_fst_snd (fields : List (String × String)) :
    (fields.map Prod.fst).zip (fields.map Prod.snd) = fields := by
  simp [List.zip_map']

/-- Partitions that own every row once hold all rows. -/
theorem perm_flatMap_filter {α : Type} {rows : List α} {owns : Nat → α → Bool}
    {partitions : List Nat} (hnodup : partitions.Nodup)
    (hsome : ∀ row ∈ rows, ∃ partition ∈ partitions, owns partition row)
    (honce : ∀ row ∈ rows, ∀ partition partition', owns partition row → owns partition' row →
      partition = partition') :
    (partitions.flatMap fun partition => rows.filter (owns partition)).Perm rows := by
  induction partitions generalizing rows with
  | nil =>
    have hnil : rows = [] := List.eq_nil_iff_forall_not_mem.2 fun row hrow => by
      simpa using hsome row hrow
    rw [hnil]
    exact List.Perm.refl []
  | cons partition rest ih =>
    obtain ⟨hout, hrest⟩ := List.nodup_cons.1 hnodup
    -- the other partitions share the rows that the first one does not own
    have hothers : ∀ other ∈ rest, rows.filter (owns other) =
        (rows.filter fun row => !owns partition row).filter (owns other) := by
      intro other hother
      rw [List.filter_filter]
      refine List.filter_congr fun row hrow => ?_
      cases howns : owns other row with
      | false => rfl
      | true =>
        cases hfirst : owns partition row with
        | false => rfl
        | true => exact absurd (honce row hrow _ _ hfirst howns ▸ hother) hout
    have hleft : ∀ row ∈ rows.filter fun row => !owns partition row,
        ∃ other ∈ rest, owns other row := by
      intro row hrow
      obtain ⟨hrow, hnot⟩ := List.mem_filter.1 hrow
      obtain ⟨other, hother, howns⟩ := hsome row hrow
      rcases List.mem_cons.1 hother with rfl | hother
      · simp [howns] at hnot
      · exact ⟨other, hother, howns⟩
    have hperm := ih hrest hleft fun row hrow => honce row (List.mem_filter.1 hrow).1
    rw [List.flatMap_cons, List.flatMap_congr hothers]
    exact (hperm.append_left _).trans (List.filter_append_perm (owns partition) rows)

namespace Router

variable {router : Router} {groups : List (List String)}

theorem check_of_create {layout : Layout} {table : TableDef}
    (h : Router.create layout table = .ok router) :
    router = ⟨layout⟩ ∧ layout.check table = .ok () := by
  unfold Router.create Layout.validate at h
  cases hcheck : layout.check table with
  | error fault => simp [hcheck, Except.mapError] at h
  | ok _ => exact ⟨by simpa [hcheck, Except.mapError] using h.symm, rfl⟩

theorem group_eq (hgroups : router.layout.columnGroups = some groups) (partition : Nat) :
    router.group partition = groups[partition]? := by
  rw [group, hgroups]
  rfl

/-- The group that is found for a column names it. -/
theorem mem_of_groupOf? (hgroups : router.layout.columnGroups = some groups) {column : String}
    {partition : Nat} (h : router.groupOf? column = some partition) :
    ∃ names, groups[partition]? = some names ∧ column ∈ names := by
  simp only [groupOf?, hgroups] at h
  have hmem := List.mem_of_getLast? h
  obtain ⟨⟨names, i⟩, hentry, rfl⟩ := List.mem_map.1 hmem
  obtain ⟨hzip, hcolumn⟩ := List.mem_filter.1 hentry
  exact ⟨names, List.mem_zipIdx_iff_getElem?.1 hzip, by simpa using hcolumn⟩

/-- A column occurs in one group only. -/
theorem group_unique (hnodup : groups.flatten.Nodup) {column : String} {i j : Nat}
    {names names' : List String} (hi : groups[i]? = some names) (hj : groups[j]? = some names')
    (hmem : column ∈ names) (hmem' : column ∈ names') : i = j := by
  obtain ⟨hilt, rfl⟩ := List.getElem?_eq_some_iff.1 hi
  obtain ⟨hjlt, rfl⟩ := List.getElem?_eq_some_iff.1 hj
  have hpairwise := List.pairwise_iff_getElem.1 (List.nodup_flatten.1 hnodup).2
  rcases Nat.lt_trichotomy i j with hlt | heq | hgt
  · exact absurd hmem' (hpairwise i j hilt hjlt hlt hmem)
  · exact heq
  · exact absurd hmem (hpairwise j i hjlt hilt hgt hmem')

/-- A column has the number of the group that names it. -/
theorem groupOf?_eq_some (hgroups : router.layout.columnGroups = some groups)
    (hnodup : groups.flatten.Nodup) {column : String} {partition : Nat} :
    router.groupOf? column = some partition ↔
      ∃ names, groups[partition]? = some names ∧ column ∈ names := by
  refine ⟨mem_of_groupOf? hgroups, ?_⟩
  rintro ⟨names, hnames, hcolumn⟩
  cases hfound : router.groupOf? column with
  | some other =>
    obtain ⟨names', hnames', hcolumn'⟩ := mem_of_groupOf? hgroups hfound
    rw [group_unique hnodup hnames hnames' hcolumn hcolumn']
  | none =>
    simp only [groupOf?, hgroups, List.getLast?_eq_none_iff, List.map_eq_nil_iff,
      List.filter_eq_nil_iff] at hfound
    exact absurd hcolumn (by
      simpa using hfound (names, partition) (List.mem_zipIdx_iff_getElem?.2 hnames))

/-- The router of a layout that passed the check knows the groups. -/
theorem groupOf?_of_check {layout : Layout} {table : TableDef}
    (hcheck : layout.check table = .ok ()) (hkind : layout.kind = .vertical)
    (hgroups : layout.columnGroups = some groups) :
    groups.length = layout.partitionCount ∧
      ∀ column group, (Router.mk layout).groupOf? column = some group ↔
        ∃ names, groups[group]? = some names ∧ column ∈ names := by
  obtain ⟨-, columns, groups', -, hgroups', hlength, hshares⟩ :=
    Layout.check_vertical hcheck hkind
  obtain rfl : groups = groups' := Option.some.inj (hgroups.symm.trans hgroups')
  exact ⟨hlength, fun column group => groupOf?_eq_some hgroups hshares.nodup⟩

/-! ## Slices -/

theorem placeAll_ok {fields : List (String × String)} {placed : List (Nat × String × String)}
    (h : router.placeAll fields = .ok placed) :
    placed.map Prod.snd = fields ∧ ∀ field ∈ placed, router.groupOf? field.2.1 = some field.1 := by
  induction fields generalizing placed with
  | nil =>
    obtain rfl : [] = placed := by simpa [placeAll] using h
    exact ⟨rfl, by simp⟩
  | cons field rest ih =>
    simp only [placeAll, partitionOfColumn] at h
    cases hgroup : router.groupOf? field.1 with
    | none => simp [hgroup] at h
    | some group =>
      simp only [hgroup] at h
      split at h
      · simp at h
      · next others hothers =>
        obtain rfl : (group, field) :: others = placed := by simpa using h
        obtain ⟨hmap, hplaced⟩ := ih hothers
        exact ⟨by simp [hmap], List.forall_mem_cons.2 ⟨hgroup, hplaced⟩⟩

/-- The fields of a write whose columns a partition holds. -/
def fieldsOf (router : Router) (columns values : List String) (partition : Nat) :
    List (String × String) :=
  (columns.zip values).filter fun field => router.groupOf? field.1 = some partition

/-- Every partition receives the fields of its columns. -/
theorem slices_ok {columns values : List String} {parts : List ColumnSlice}
    (h : router.slices columns values = .ok parts) :
    parts = router.partitions.map fun partition =>
      ColumnSlice.ofFields partition (router.fieldsOf columns values partition) := by
  unfold slices at h
  cases hplaced : router.placeAll (columns.zip values) with
  | error e => simp [hplaced, Except.map] at h
  | ok placed =>
    obtain rfl : _ = parts := by simpa [hplaced, Except.map] using h
    obtain ⟨hmap, hgroups⟩ := placeAll_ok hplaced
    refine List.map_congr_left fun partition _ => ?_
    have hfilter : (placed.filter fun field => field.1 = partition) =
        placed.filter fun field => router.groupOf? field.2.1 = some partition := by
      refine List.filter_congr fun field hfield => ?_
      simp [hgroups field hfield]
    simp only [sliceOf, ColumnSlice.ofFields, fieldsOf, hfilter, ← hmap, List.filter_map]
    rfl

/-! ### Fields without a group -/

/-- The first field whose column has no group. -/
def orphan? (router : Router) (fields : List (String × String)) : Option (String × String) :=
  fields.find? fun field => router.groupOf? field.1 = none

theorem orphan?_eq_none {fields : List (String × String)} :
    router.orphan? fields = none ↔ ∀ field ∈ fields, router.groupOf? field.1 ≠ none := by
  simp [orphan?, List.find?_eq_none]

/-- Fields cannot be placed because of the first one without a group. -/
theorem placeAll_error {fields : List (String × String)} {e : Error}
    (h : router.placeAll fields = .error e) :
    ∃ field, router.orphan? fields = some field ∧ e = noPartition field.1 := by
  induction fields with
  | nil => simp [placeAll] at h
  | cons field rest ih =>
    simp only [placeAll, partitionOfColumn] at h
    cases hgroup : router.groupOf? field.1 with
    | none =>
      simp only [hgroup, Except.error.injEq] at h
      exact ⟨field, by simp [orphan?, hgroup], h.symm⟩
    | some group =>
      simp only [hgroup] at h
      split at h
      · next other hrest =>
        obtain rfl : other = e := by simpa using h
        obtain ⟨first, hfirst, he⟩ := ih hrest
        refine ⟨first, ?_, he⟩
        rw [orphan?, List.find?_cons_of_neg (by simp [hgroup])]
        exact hfirst
      · simp at h

/-- The slices that hold the given fields. -/
def dealt (router : Router) (fields : List (String × String)) : List ColumnSlice :=
  router.partitions.map fun partition =>
    .ofFields partition (fields.filter fun field => router.groupOf? field.1 = some partition)

/-- A write is split unless one of its fields has no group. -/
theorem slices_eq (router : Router) (columns values : List String) :
    router.slices columns values =
      match router.orphan? (columns.zip values) with
      | some field => .error (noPartition field.1)
      | none => .ok (router.dealt (columns.zip values)) := by
  cases hplaced : router.placeAll (columns.zip values) with
  | error e =>
    obtain ⟨field, hfield, rfl⟩ := placeAll_error hplaced
    rw [slices, hplaced, hfield]
    rfl
  | ok placed =>
    obtain ⟨hmap, hgroups⟩ := placeAll_ok hplaced
    have hnone : router.orphan? (columns.zip values) = none := by
      rw [orphan?_eq_none, ← hmap]
      intro field hfield
      obtain ⟨entry, hentry, rfl⟩ := List.mem_map.1 hfield
      simp [hgroups entry hentry]
    have hslices : router.slices columns values = .ok (router.partitions.map (sliceOf placed)) := by
      rw [slices, hplaced]
      rfl
    rw [hslices, hnone, slices_ok hslices]
    rfl

/-! ### Keys -/

/-- A key is sent somewhere if and only if it has a number. -/
theorem exists_partitionForKey_iff (router : Router) {key : String} :
    (∃ partition, router.partitionForKey key = .ok partition) ↔ keyNumber? key ≠ none := by
  unfold partitionForKey
  cases keyNumber? key <;> simp

/-- A key is sent to one of the partitions, whatever the sign of its number is. -/
theorem lt_of_partitionForKey (hpos : 0 < router.partitionCount) {key : String} {partition : Nat}
    (h : router.partitionForKey key = .ok partition) : partition < router.partitionCount := by
  unfold partitionForKey at h
  split at h
  · simp at h
  · next number _ =>
    obtain rfl : (number % (router.partitionCount : Int)).toNat = partition := by simpa using h
    have hle : 0 ≤ number % (router.partitionCount : Int) := Int.emod_nonneg number (by omega)
    have hlt : number % (router.partitionCount : Int) < router.partitionCount :=
      Int.emod_lt_of_pos number (by omega)
    omega

/-! ### Assignments -/

theorem splitAssignments_ok {columns values : List String} {parts : List ColumnSlice}
    (h : router.splitAssignments columns values = .ok parts) :
    parts = (router.partitions.map fun partition =>
      ColumnSlice.ofFields partition (router.fieldsOf columns values partition)).filter
        fun part => part.columns ≠ [] := by
  unfold splitAssignments at h
  cases hslices : router.slices columns values with
  | error e => simp [hslices, Except.map] at h
  | ok parts' =>
    rw [← slices_ok hslices]
    simpa [hslices, Except.map] using h.symm

/-- The partitions that receive assignments are those of the assigned columns. -/
theorem mem_splitAssignments {columns values : List String} {parts : List ColumnSlice}
    (h : router.splitAssignments columns values = .ok parts) {partition : Nat} :
    partition ∈ parts.map ColumnSlice.partition ↔ partition < router.partitionCount ∧
      ∃ field ∈ columns.zip values, router.groupOf? field.1 = some partition := by
  rw [splitAssignments_ok h]
  constructor
  · intro hmem
    obtain ⟨part, hpart, rfl⟩ := List.mem_map.1 hmem
    obtain ⟨hpart, hne⟩ := List.mem_filter.1 hpart
    obtain ⟨number, hnumber, rfl⟩ := List.mem_map.1 hpart
    have hfields : router.fieldsOf columns values number ≠ [] := by
      simpa [ColumnSlice.ofFields] using hne
    obtain ⟨field, hfield⟩ := List.exists_mem_of_ne_nil _ hfields
    obtain ⟨hfield, hgroup⟩ := List.mem_filter.1 hfield
    exact ⟨List.mem_range.1 hnumber, field, hfield, of_decide_eq_true hgroup⟩
  · rintro ⟨hlt, field, hfield, hgroup⟩
    have hmem : field ∈ router.fieldsOf columns values partition :=
      List.mem_filter.2 ⟨hfield, by simpa using hgroup⟩
    refine List.mem_map.2 ⟨.ofFields partition (router.fieldsOf columns values partition), ?_, rfl⟩
    refine List.mem_filter.2 ⟨List.mem_map_of_mem (List.mem_range.2 hlt), ?_⟩
    simpa [ColumnSlice.ofFields] using List.ne_nil_of_mem hmem

/-- The fields of a slice are those of its partition. -/
theorem zip_splitAssignments {columns values : List String} {parts : List ColumnSlice}
    (h : router.splitAssignments columns values = .ok parts) {part : ColumnSlice}
    (hpart : part ∈ parts) :
    part.columns.zip part.values = router.fieldsOf columns values part.partition := by
  rw [splitAssignments_ok h] at hpart
  obtain ⟨partition, -, rfl⟩ := List.mem_map.1 (List.mem_filter.1 hpart).1
  exact zip_map_fst_snd _

/-- A partition without a slice has no fields. -/
theorem fieldsOf_eq_nil {columns values : List String} {parts : List ColumnSlice}
    (h : router.splitAssignments columns values = .ok parts) {partition : Nat}
    (hlt : partition < router.partitionCount)
    (hout : ∀ part ∈ parts, part.partition ≠ partition) :
    router.fieldsOf columns values partition = [] := by
  by_contra hne
  refine hout (.ofFields partition (router.fieldsOf columns values partition)) ?_ rfl
  rw [splitAssignments_ok h, List.mem_filter]
  refine ⟨List.mem_map_of_mem (List.mem_range.2 hlt), ?_⟩
  simpa [ColumnSlice.ofFields] using hne

/-! ### Slices are made of what a write brings -/

section

variable {columns values : List String} {parts : List ColumnSlice}

theorem mem_of_mem_slices (h : router.slices columns values = .ok parts) {part : ColumnSlice}
    (hpart : part ∈ parts) : ∀ text ∈ part.columns ++ part.values, text ∈ columns ++ values := by
  rw [slices_ok h] at hpart
  obtain ⟨partition, -, rfl⟩ := List.mem_map.1 hpart
  intro text htext
  have hfield : ∀ field ∈ router.fieldsOf columns values partition,
      field.1 ∈ columns ∧ field.2 ∈ values :=
    fun field hfield => List.of_mem_zip (List.mem_filter.1 hfield).1
  rcases List.mem_append.1 htext with hcolumn | hvalue
  · obtain ⟨field, hmem, rfl⟩ := List.mem_map.1 hcolumn
    exact List.mem_append_left _ (hfield field hmem).1
  · obtain ⟨field, hmem, rfl⟩ := List.mem_map.1 hvalue
    exact List.mem_append_right _ (hfield field hmem).2

/-- The parts of an insertion are made of what the insertion brings; unless columns decide, each
of them is all of it. -/
theorem routeInsert_ok (h : router.routeInsert columns values = .ok parts) {part : ColumnSlice}
    (hpart : part ∈ parts) :
    (∀ text ∈ part.columns ++ part.values, text ∈ columns ++ values) ∧
      (router.layout.kind ≠ .vertical → part.columns = columns ∧ part.values = values) := by
  unfold routeInsert at h
  split at h
  · obtain rfl : _ = parts := by simpa using h
    obtain rfl := List.mem_singleton.1 hpart
    exact ⟨fun _ htext => htext, fun _ => ⟨rfl, rfl⟩⟩
  · split at h
    · simp at h
    · next key _ =>
      cases hkey : router.partitionForKey key with
      | error e => simp [hkey, Except.map] at h
      | ok partition =>
        obtain rfl : _ = parts := by simpa [hkey, Except.map] using h
        obtain rfl := List.mem_singleton.1 hpart
        exact ⟨fun _ htext => htext, fun _ => ⟨rfl, rfl⟩⟩
  · next hkind => exact ⟨mem_of_mem_slices h hpart, fun hnot => absurd hkind hnot⟩

theorem mem_of_mem_splitAssignments (h : router.splitAssignments columns values = .ok parts)
    {part : ColumnSlice} (hpart : part ∈ parts) :
    ∀ text ∈ part.columns ++ part.values, text ∈ columns ++ values := by
  unfold splitAssignments at h
  cases hslices : router.slices columns values with
  | error e => simp [hslices, Except.map] at h
  | ok all =>
    obtain rfl : _ = parts := by simpa [hslices, Except.map] using h
    exact mem_of_mem_slices hslices (List.mem_filter.1 hpart).1

end

end Router

/-! ## Values -/

namespace Row

/-- The value of a column is that of its first field. -/
theorem valueOf_eq_find? (columns values : List String) (column : String) :
    valueOf columns values column =
      (((columns.zip values).find? fun field => field.1 = column).map Prod.snd).getD "" := by
  unfold valueOf
  congr 1
  induction columns generalizing values with
  | nil => rfl
  | cons first rest ih =>
    cases values with
    | nil => simp
    | cons value values =>
      rw [List.idxOf?_cons, List.zip_cons_cons, List.find?_cons]
      by_cases heq : first = column
      · simp [heq]
      · simp [heq, ← ih, Option.bind_map]

/-- A column has the same value among the fields with a property that its fields have. -/
theorem valueOf_filter {p : String × String → Bool} {columns values : List String}
    {column : String} (h : ∀ field : String × String, field.1 = column → p field = true) :
    valueOf (((columns.zip values).filter p).map Prod.fst)
      (((columns.zip values).filter p).map Prod.snd) column = valueOf columns values column := by
  rw [valueOf_eq_find?, valueOf_eq_find?, zip_map_fst_snd, List.find?_filter]
  congr 3
  funext field
  by_cases heq : field.1 = column
  · simp [heq, h field heq]
  · simp [heq]

end Row

end TableStore
