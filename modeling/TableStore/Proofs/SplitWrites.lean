import TableStore.Proofs.Routing

/-!
# How writes are split

Under a layout by columns, every field of a write goes to the slice of its column's group.  A
router first places all fields and then makes the slices (`slices_eq`).  `deal?` hands the fields
out one after another instead, and has no outcome if there is no slice for a field.  Both come to
the same (`deal?_dealt`): up to the first field without a group, every slice holds the fields of
its group so far, in the order of the write.

`splits_keep_fields` says what this means for insertions and assignments, in terms of the groups
themselves.
-/

namespace TableStore

/-- The slice with one more field. -/
def ColumnSlice.push (slice : ColumnSlice) (field : String × String) : ColumnSlice :=
  ⟨slice.partition, slice.columns ++ [field.1], slice.values ++ [field.2]⟩

theorem ColumnSlice.push_ofFields (partition : Nat) (fields : List (String × String))
    (field : String × String) :
    (ofFields partition fields).push field = ofFields partition (fields ++ [field]) := by
  simp [push, ofFields]

namespace Router

/-- Hands out fields to the slices with the numbers of their groups, up to the first field without
a group.  There is no outcome if such a number is not the number of a slice. -/
def deal? (router : Router) (slices : List ColumnSlice) :
    List (String × String) → Option (Except Error (List ColumnSlice))
  | [] => some (.ok slices)
  | field :: rest =>
    match router.partitionOfColumn field.1 with
    | .error e => some (.error e)
    | .ok group =>
      if group < slices.length then
        deal? router (slices.modify group fun slice => slice.push field) rest
      else none

variable {router : Router} {fields : List (String × String)} {field : String × String}

/-! ## Handing out fields one after another -/

theorem length_dealt : (router.dealt fields).length = router.partitionCount := by
  simp [dealt, partitions]

/-- One more field is one more in the slice of its group. -/
theorem modify_dealt {group : Nat} (h : router.groupOf? field.1 = some group) :
    ((router.dealt fields).modify group fun slice => slice.push field) =
      router.dealt (fields ++ [field]) := by
  refine List.ext_getElem (by simp [length_dealt]) fun i _ _ => ?_
  have hfilter : [field].filter (fun field => router.groupOf? field.1 = some i) =
      if group = i then [field] else [] := by
    by_cases heq : group = i <;> simp [h, heq]
  rw [List.getElem_modify]
  simp only [dealt, partitions, List.getElem_map, List.getElem_range, List.filter_append, hfilter]
  split
  · rw [ColumnSlice.push_ofFields]
  · rw [List.append_nil]

/-- **The loop.**  After the fields `front`, the rest is handed out as if all were split at once. -/
theorem deal?_dealt
    (hrange : ∀ column group, router.groupOf? column = some group →
      group < router.partitionCount) (front rest : List (String × String)) :
    router.deal? (router.dealt front) rest = some (
      match router.orphan? rest with
      | some field => .error (noPartition field.1)
      | none => .ok (router.dealt (front ++ rest))) := by
  induction rest generalizing front with
  | nil => simp [deal?, orphan?]
  | cons field rest ih =>
    cases hgroup : router.groupOf? field.1 with
    | none => simp [deal?, partitionOfColumn, orphan?, hgroup]
    | some group =>
      have hlt : group < (router.dealt front).length :=
        length_dealt ▸ hrange field.1 group hgroup
      have horphan : router.orphan? (field :: rest) = router.orphan? rest :=
        List.find?_cons_of_neg (by simp [hgroup])
      simp only [deal?, partitionOfColumn, hgroup, if_pos hlt, modify_dealt hgroup, ih, horphan,
        List.append_assoc, List.singleton_append]

/-- Slices that hold every field have lost none of them, and have none twice. -/
theorem dealt_perm (hrange : ∀ column group, router.groupOf? column = some group →
      group < router.partitionCount) (hnone : router.orphan? fields = none) :
    ((router.dealt fields).flatMap fun part => part.columns.zip part.values).Perm fields := by
  have hzip (partition : Nat) (fields : List (String × String)) :
      (ColumnSlice.ofFields partition fields).columns.zip
        (ColumnSlice.ofFields partition fields).values = fields := zip_map_fst_snd fields
  simp only [dealt, List.flatMap_map, hzip]
  refine perm_flatMap_filter List.nodup_range (fun field hfield => ?_)
    fun field _ first second => ?_
  · obtain ⟨group, hgroup⟩ := Option.ne_none_iff_exists'.1 (orphan?_eq_none.1 hnone field hfield)
    exact ⟨group, List.mem_range.2 (hrange field.1 group hgroup), by simpa using hgroup⟩
  · intro hfirst hsecond
    have hfirst := of_decide_eq_true hfirst
    exact Option.some.inj (hfirst.symm.trans (of_decide_eq_true hsecond))

/-! ## Groups -/

section

variable {groups : List (List String)}
  (hnamed : ∀ column group, router.groupOf? column = some group ↔
    ∃ names, groups[group]? = some names ∧ column ∈ names)
include hnamed

theorem exists_orphan_iff : (∃ field, router.orphan? fields = some field) ↔
    ∃ field ∈ fields, ∀ names ∈ groups, field.1 ∉ names := by
  have hnone (column : String) :
      router.groupOf? column = none ↔ ∀ names ∈ groups, column ∉ names := by
    rw [Option.eq_none_iff_forall_ne_some]
    constructor
    · intro h names hnames hcolumn
      obtain ⟨group, hgroup⟩ := List.mem_iff_getElem?.1 hnames
      exact h group ((hnamed column group).2 ⟨names, hgroup, hcolumn⟩)
    · intro h group hgroup
      obtain ⟨names, hnames, hcolumn⟩ := (hnamed column group).1 hgroup
      exact h names (List.mem_of_getElem? hnames) hcolumn
  simp only [← Option.isSome_iff_exists, orphan?, List.find?_isSome, decide_eq_true_eq, hnone]

/-- The slices by groups. -/
theorem dealt_eq_mapIdx (hlength : groups.length = router.partitionCount) :
    router.dealt fields = groups.mapIdx fun group names =>
      ColumnSlice.ofFields group (fields.filter fun field => field.1 ∈ names) := by
  refine List.ext_getElem (by simp [length_dealt, hlength]) fun i _ hi => ?_
  have hlt : i < groups.length := by simpa using hi
  simp only [dealt, partitions, List.getElem_map, List.getElem_range, List.getElem_mapIdx]
  congr 1
  refine List.filter_congr fun field _ => decide_eq_decide.2 ?_
  simp [hnamed, List.getElem?_eq_getElem hlt]

end

/-- **Splitting a write loses, repeats and reorders nothing.**  It fails exactly if a field has a
column that no group names, for insertions and assignments alike.  Otherwise an insertion has one
slice for every partition, in ascending order, which holds the fields of its group in their order,
and assignments have those of these slices that are not empty.  Handing out the fields one by one
comes to the same and never misses a slice. -/
theorem splits_keep_fields {layout : Layout} {table : TableDef} {groups : List (List String)}
    (hrouter : Router.create layout table = .ok router) (hkind : layout.kind = .vertical)
    (hgroups : layout.columnGroups = some groups) (columns values : List String) :
    ((∃ e, router.routeInsert columns values = .error e) ↔
        ∃ field ∈ columns.zip values, ∀ names ∈ groups, field.1 ∉ names) ∧
      ((∃ e, router.splitAssignments columns values = .error e) ↔
        ∃ field ∈ columns.zip values, ∀ names ∈ groups, field.1 ∉ names) ∧
      router.deal? (router.partitions.map fun partition => ⟨partition, [], []⟩)
          (columns.zip values) = some (router.routeInsert columns values) ∧
      ∀ parts, router.routeInsert columns values = .ok parts →
        parts.map ColumnSlice.partition = List.range layout.partitionCount ∧
        parts = groups.mapIdx (fun group names => ColumnSlice.ofFields group
          ((columns.zip values).filter fun field => field.1 ∈ names)) ∧
        (parts.flatMap fun part => part.columns.zip part.values).Perm (columns.zip values) ∧
        router.splitAssignments columns values =
          .ok (parts.filter fun part => part.columns ≠ []) := by
  obtain ⟨rfl, hcheck⟩ := check_of_create hrouter
  obtain ⟨hlength, hnamed⟩ := groupOf?_of_check hcheck hkind hgroups
  have hrange : ∀ column group, (Router.mk layout).groupOf? column = some group →
      group < (Router.mk layout).partitionCount := by
    intro column group hgroup
    obtain ⟨names, hnames, -⟩ := (hnamed column group).1 hgroup
    exact Nat.lt_of_lt_of_eq (List.getElem?_eq_some_iff.1 hnames).1 hlength
  have hroute : (Router.mk layout).routeInsert columns values =
      (Router.mk layout).slices columns values := by
    simp only [routeInsert, hkind]
  have hsplit := slices_eq ⟨layout⟩ columns values
  have hdeal := deal?_dealt hrange [] (columns.zip values)
  rw [← exists_orphan_iff hnamed, hroute]
  cases horphan : (Router.mk layout).orphan? (columns.zip values) with
  | some field =>
    rw [horphan] at hsplit hdeal
    refine ⟨by simp [hsplit], by simp [splitAssignments, hsplit, Except.map], ?_, by simp [hsplit]⟩
    rw [hsplit]
    exact hdeal
  | none =>
    rw [horphan] at hsplit hdeal
    refine ⟨by simp [hsplit], by simp [splitAssignments, hsplit, Except.map], ?_, ?_⟩
    · rw [hsplit]
      exact hdeal
    · rintro parts hparts
      obtain rfl : _ = parts := Except.ok.inj (hsplit.symm.trans hparts)
      refine ⟨?_, dealt_eq_mapIdx hnamed hlength, dealt_perm hrange horphan, ?_⟩
      · simp [dealt, partitions, partitionCount, ColumnSlice.ofFields, Function.comp_def]
      · rw [splitAssignments, hsplit]
        rfl

/-- Exam marks in three groups of columns. -/
def splitMarks : Layout := .byColumns [["id"], ["mark", "grade"], ["remark"]]

/-- A column that is given twice keeps both values in their order, and a column without a value does
not count, although it is unknown; with a value it does. -/
theorem splits_keep_fields_marks :
    ∃ router, Router.create splitMarks ⟨"exam", .sql, some ["id", "mark", "grade", "remark"]⟩ =
        .ok router ∧
      router.routeInsert ["grade", "id", "grade", "age"] ["A", "1", "B"] =
        .ok [⟨0, ["id"], ["1"]⟩, ⟨1, ["grade", "grade"], ["A", "B"]⟩, ⟨2, [], []⟩] ∧
      router.splitAssignments ["grade", "id", "grade", "age"] ["A", "1", "B"] =
        .ok [⟨0, ["id"], ["1"]⟩, ⟨1, ["grade", "grade"], ["A", "B"]⟩] ∧
      ∃ e, router.routeInsert ["grade", "id", "grade", "age"] ["A", "1", "B", "20"] =
        .error e := by
  have hrouter : Router.create splitMarks
      ⟨"exam", .sql, some ["id", "mark", "grade", "remark"]⟩ = .ok ⟨splitMarks⟩ := by decide
  obtain ⟨hfails, -, -, hparts⟩ := splits_keep_fields hrouter rfl rfl
    ["grade", "id", "grade", "age"] ["A", "1", "B"]
  refine ⟨_, hrouter, ?_⟩
  cases hroute : (Router.mk splitMarks).routeInsert ["grade", "id", "grade", "age"]
      ["A", "1", "B"] with
  | error e => exact absurd (hfails.1 ⟨e, hroute⟩) (by decide)
  | ok parts =>
    obtain ⟨-, rfl, -, hassignments⟩ := hparts parts hroute
    refine ⟨by decide, hassignments.trans (by decide), ?_⟩
    exact (splits_keep_fields hrouter rfl rfl ["grade", "id", "grade", "age"]
      ["A", "1", "B", "20"]).1.2 ⟨("age", "20"), by decide, by decide⟩

end Router

end TableStore
