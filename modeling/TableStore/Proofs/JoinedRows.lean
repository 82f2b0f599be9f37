import Mathlib.Algebra.BigOperators.Group.List.Lemmas
import Mathlib.Algebra.Ring.Nat
import TableStore.Proofs.Routing
import TableStore.ReplicatedTable.Read

/-!
# Rows joined from groups of columns

A selection puts the rows of column groups with the same number side by side.  The groups need not
have the same number of rows: where a group has no row of a number, empty fields take its place.
Each group then fills a block of its own in the joined row, whichever groups are short
(`parse_zipGroups`), so a field never moves to another column (`joined_rows`).

What is joined are texts, and the fields are found again by the separators.  So all that matters of
a group is how many separators its rows have (`HasFields`), and that blank fields have as many.
-/

namespace TableStore

namespace Row

/-- Whether a line has the given number of fields, each ended by a separator. -/
def HasFields (width : Nat) (line : String) : Prop :=
  ∃ fields, fields.length = width ∧ (∀ field ∈ fields, separator ∉ field.toList) ∧
    line = render fields

/-- The fields of one group among the fields of all groups, which follow one another. -/
def block (widths : List Nat) (group : Nat) (fields : List String) : List String :=
  (fields.take (widths.take (group + 1)).sum).drop (widths.take group).sum

/-- The fields of the row with the given number, or as many empty ones as there should be. -/
def fieldsAt (width idx : Nat) (rows : List String) : List String :=
  ((rows[idx]?).map parse).getD (List.replicate width "")

variable {width idx : Nat} {rows : List String}

theorem render_flatten (parts : List (List String)) :
    render parts.flatten = String.join (parts.map render) := by
  induction parts with
  | nil => rfl
  | cons fields rest ih =>
    rw [List.flatten_cons, render_append, ih, List.map_cons, String.join_cons]

theorem render_replicate_empty (width : Nat) :
    render (List.replicate width "") = ReplicatedTable.blankFields width := by
  refine String.toList_injective ?_
  induction width with
  | zero => rfl
  | succ width ih =>
    rw [List.replicate_succ, render_cons, String.toList_append, ih]
    simp [toList_renderField, ReplicatedTable.blankFields, List.replicate_succ]

/-- Rows of the width of their group have that many fields in any place. -/
theorem fieldsAt_spec (hpos : 0 < width) (hrows : ∀ row ∈ rows, HasFields width row) (idx : Nat) :
    (fieldsAt width idx rows).length = width ∧
      (∀ field ∈ fieldsAt width idx rows, separator ∉ field.toList) ∧
      ReplicatedTable.rowOrBlank width idx rows = render (fieldsAt width idx rows) := by
  unfold fieldsAt ReplicatedTable.rowOrBlank
  cases hrow : rows[idx]? with
  | none =>
    refine ⟨List.length_replicate, fun field hfield => ?_, (render_replicate_empty width).symm⟩
    rw [List.eq_of_mem_replicate hfield]
    exact List.not_mem_nil
  | some row =>
    obtain ⟨fields, hlength, hfree, rfl⟩ := hrows row (List.mem_of_getElem? hrow)
    have hne : fields ≠ [] := List.ne_nil_of_length_pos (hlength ▸ hpos)
    rw [Option.map_some, Option.getD_some, parse_render hne hfree]
    exact ⟨hlength, hfree, rfl⟩

end Row

namespace ReplicatedTable

open Row (HasFields fieldsAt block)

/-! ## The longest of the groups -/

theorem longest_eq_max {lengths : List Nat} (hne : lengths ≠ []) :
    lengths.foldl max 0 = lengths.max hne := by
  rw [List.foldl_max, List.max?_eq_some_max hne, Option.getD_some, Nat.zero_max]

/-- There are as many joined rows as rows of the longest group. -/
theorem length_zipGroups {parts : List (Nat × List String)} (hne : parts ≠ []) :
    (∀ part ∈ parts, part.2.length ≤ (zipGroups parts).length) ∧
      ∃ part ∈ parts, part.2.length = (zipGroups parts).length := by
  have hlengths : (parts.map fun part => part.2.length) ≠ [] := by simpa using hne
  have hlength : (zipGroups parts).length = (parts.map fun part => part.2.length).max hlengths := by
    rw [← longest_eq_max hlengths]
    simp [zipGroups]
  rw [hlength]
  refine ⟨fun part hpart => ?_, List.mem_map.1 (List.max_mem hlengths)⟩
  have hmem : part.2.length ∈ parts.map fun part => part.2.length :=
    List.mem_map.2 ⟨part, hpart, rfl⟩
  exact List.le_max_of_mem hmem

/-! ## Joined rows -/

section

variable {parts : List (Nat × List String)}
  (hparts : ∀ part ∈ parts, 0 < part.1 ∧ ∀ row ∈ part.2, HasFields part.1 row)
include hparts

/-- **A joined row is read back as the fields of its groups**, one group after the other. -/
theorem parse_zipGroups (hne : parts ≠ []) {idx : Nat} {row : String}
    (h : (zipGroups parts)[idx]? = some row) :
    Row.parse row = (parts.map fun part => fieldsAt part.1 idx part.2).flatten := by
  have hspec := fun part hpart =>
    Row.fieldsAt_spec (hparts part hpart).1 (hparts part hpart).2 idx
  obtain ⟨hlt, hrow⟩ := List.getElem?_eq_some_iff.1 h
  have hjoined : row = Row.render (parts.map fun part => fieldsAt part.1 idx part.2).flatten := by
    rw [← hrow, Row.render_flatten, List.map_map]
    simp only [zipGroups, List.getElem_map, List.getElem_range]
    exact congrArg String.join (List.map_congr_left fun part hpart => (hspec part hpart).2.2)
  rw [hjoined]
  refine Row.parse_render ?_ fun field hfield => ?_
  · obtain ⟨part, hpart⟩ := List.exists_mem_of_ne_nil parts hne
    obtain ⟨hlength, -, -⟩ := hspec part hpart
    have hpos : 0 < (fieldsAt part.1 idx part.2).length := by
      rw [hlength]
      exact (hparts part hpart).1
    obtain ⟨field, hfield⟩ := List.exists_mem_of_length_pos hpos
    exact List.ne_nil_of_mem (List.mem_flatten.2 ⟨_, List.mem_map.2 ⟨part, hpart, rfl⟩, hfield⟩)
  · obtain ⟨fields, hfields, hmem⟩ := List.mem_flatten.1 hfield
    obtain ⟨part, hpart, rfl⟩ := List.mem_map.1 hfields
    exact (hspec part hpart).2.1 field hmem

/-- The groups have as many fields in a row as they have columns. -/
theorem lengths_fieldsAt (idx : Nat) :
    (parts.map fun part => fieldsAt part.1 idx part.2).map List.length = parts.map Prod.fst := by
  rw [List.map_map]
  refine List.map_congr_left fun part hpart => ?_
  exact (Row.fieldsAt_spec (hparts part hpart).1 (hparts part hpart).2 idx).1

theorem length_parse_zipGroups (hne : parts ≠ []) {idx : Nat} {row : String}
    (h : (zipGroups parts)[idx]? = some row) :
    (Row.parse row).length = (parts.map Prod.fst).sum := by
  rw [parse_zipGroups hparts hne h, List.length_flatten, lengths_fieldsAt hparts]

/-- The block of a group in a joined row is its own row, or blank. -/
theorem block_zipGroups {group : Nat} {part : Nat × List String}
    (hpart : parts[group]? = some part) {idx : Nat} {row : String}
    (h : (zipGroups parts)[idx]? = some row) :
    block (parts.map Prod.fst) group (Row.parse row) = fieldsAt part.1 idx part.2 := by
  obtain ⟨hlt, rfl⟩ := List.getElem?_eq_some_iff.1 hpart
  have hne : parts ≠ [] := List.ne_nil_of_length_pos (Nat.zero_lt_of_lt hlt)
  rw [parse_zipGroups hparts hne h, block, ← lengths_fieldsAt hparts idx,
    List.drop_take_succ_flatten_eq_getElem _ _ (by simpa using hlt), List.getElem_map]

end

/-- The rows that partitions by columns hold, with the numbers of their columns. -/
theorem mergeRows_eq {t : ReplicatedTable} (hkind : t.router.layout.kind = .vertical)
    {groups : List (List String)} (hgroups : t.router.layout.columnGroups = some groups)
    {perPartition : List (List String)} (hlength : perPartition.length = groups.length) :
    t.mergeRows perPartition = zipGroups ((groups.map List.length).zip perPartition) := by
  rw [mergeRows, hkind]
  refine congrArg zipGroups (List.ext_getElem (by simp [hlength]) fun i hi hi' => ?_)
  have hlt : i < groups.length := by simpa [hlength] using hi
  simp [groupWidth, Router.group_eq hgroups, hlt]

/-- Rows with a field for each column of their group can be joined. -/
theorem hasFields_zip {groups : List (List String)} {perPartition : List (List String)}
    (hnonempty : ∀ names ∈ groups, names ≠ [])
    (hrows : ∀ (group : Nat) (rows names : List String), perPartition[group]? = some rows →
      groups[group]? = some names → ∀ row ∈ rows, HasFields names.length row) :
    ∀ part ∈ (groups.map List.length).zip perPartition,
      0 < part.1 ∧ ∀ row ∈ part.2, HasFields part.1 row := by
  intro part hpart
  obtain ⟨group, hgroup⟩ := List.mem_iff_getElem?.1 hpart
  obtain ⟨hwidth, hpartRows⟩ := List.getElem?_zip_eq_some.1 hgroup
  rw [List.getElem?_map] at hwidth
  obtain ⟨names, hnames, hlength⟩ := Option.map_eq_some_iff.1 hwidth
  rw [← hlength]
  exact ⟨List.length_pos_of_ne_nil (hnonempty names (List.mem_of_getElem? hnames)),
    hrows group part.2 names hpartRows hnames⟩

/-- **Fields stay in their columns when rows are joined**, even if some groups are short.  There
are as many joined rows as rows of the longest group.  Each has a field for every column, and the
fields of a group are those of its row with this number, or empty where it has none. -/
theorem joined_rows {t : ReplicatedTable} {layout : Layout} {table : TableDef}
    {groups : List (List String)} (hrouter : Router.create layout table = .ok t.router)
    (hkind : layout.kind = .vertical) (hgroups : layout.columnGroups = some groups)
    {perPartition : List (List String)} (hlength : perPartition.length = layout.partitionCount)
    (hrows : ∀ (group : Nat) (rows names : List String), perPartition[group]? = some rows →
      groups[group]? = some names → ∀ row ∈ rows, HasFields names.length row) :
    ((∀ rows ∈ perPartition, rows.length ≤ (t.mergeRows perPartition).length) ∧
        ∃ rows ∈ perPartition, rows.length = (t.mergeRows perPartition).length) ∧
      ∀ idx row, (t.mergeRows perPartition)[idx]? = some row →
        (Row.parse row).length = groups.flatten.length ∧
        ∀ (group : Nat) (rows names : List String), perPartition[group]? = some rows →
          groups[group]? = some names →
            block (groups.map List.length) group (Row.parse row) =
              fieldsAt names.length idx rows := by
  obtain ⟨hlayout, hcheck⟩ := Router.check_of_create hrouter
  obtain ⟨-, columns, groups', -, hgroups', hcount, hshares⟩ := Layout.check_vertical hcheck hkind
  obtain rfl : groups = groups' := Option.some.inj (hgroups.symm.trans hgroups')
  have hpair : perPartition.length = groups.length := hlength.trans hcount.symm
  have hmerge : t.mergeRows perPartition =
      zipGroups ((groups.map List.length).zip perPartition) := by
    refine mergeRows_eq ?_ ?_ hpair <;> rw [hlayout]
    · exact hkind
    · exact hgroups
  have hwidths : ((groups.map List.length).zip perPartition).map Prod.fst =
      groups.map List.length := List.map_fst_zip (by simp [hpair])
  have hpartsOf : ((groups.map List.length).zip perPartition).map Prod.snd = perPartition :=
    List.map_snd_zip (by simp [hpair])
  have hparts := hasFields_zip hshares.nonempty hrows
  have hne : (groups.map List.length).zip perPartition ≠ [] := by
    refine List.ne_nil_of_length_pos ?_
    simpa [hpair, hcount] using Layout.partitionCount_pos hcheck
  rw [hmerge]
  obtain ⟨hle, part, hpart, hlongest⟩ := length_zipGroups hne
  refine ⟨⟨fun rows hmem => ?_, part.2, ?_, hlongest⟩, fun idx row hrow => ⟨?_, ?_⟩⟩
  · rw [← hpartsOf] at hmem
    obtain ⟨part, hpart, rfl⟩ := List.mem_map.1 hmem
    exact hle part hpart
  · exact (List.of_mem_zip hpart).2
  · rw [length_parse_zipGroups hparts hne hrow, hwidths, List.length_flatten]
  · intro group rows names hpartRows hnames
    have hpart : ((groups.map List.length).zip perPartition)[group]? =
        some (names.length, rows) :=
      List.getElem?_zip_eq_some.2 ⟨by rw [List.getElem?_map, hnames]; rfl, hpartRows⟩
    have hblock := block_zipGroups hparts hpart hrow
    rwa [hwidths] at hblock

/-- Patients of a clinic with their columns in three groups. -/
def clinic : ReplicatedTable where
  table := ⟨"patients", .sql, some ["id", "name", "ward", "note"]⟩
  router := ⟨.byColumns [["id"], ["name", "ward"], ["note"]]⟩
  partitions := []

/-- Numbers, names and notes of patients.  There are too few numbers and names. -/
def clinicRows : List (List String) := [["1,", "2,"], ["ann,north,"], ["well,", "ill,", "new,"]]

/-- The last note stays a note, although it has neither number nor name before it. -/
theorem joined_rows_clinic :
    Router.create (.byColumns [["id"], ["name", "ward"], ["note"]]) clinic.table =
        .ok clinic.router ∧
      (clinic.mergeRows clinicRows)[2]? = some ",,,new," ∧
      (Row.parse ",,,new,").length = 4 ∧ block [1, 2, 1] 1 (Row.parse ",,,new,") = ["", ""] ∧
      block [1, 2, 1] 2 (Row.parse ",,,new,") = ["new"] := by
  have hrouter : Router.create (.byColumns [["id"], ["name", "ward"], ["note"]]) clinic.table =
      .ok clinic.router := by decide
  have hrow : (clinic.mergeRows clinicRows)[2]? = some ",,,new," := by decide
  have hrows : ∀ (group : Nat) (rows names : List String), clinicRows[group]? = some rows →
      [["id"], ["name", "ward"], ["note"]][group]? = some names →
        ∀ row ∈ rows, HasFields names.length row := by
    rintro (_ | _ | _ | group) rows names hpart hnames row hmem
    · obtain rfl : ["1,", "2,"] = rows := Option.some.inj hpart
      obtain rfl : ["id"] = names := Option.some.inj hnames
      rcases List.mem_pair.1 hmem with rfl | rfl
      · exact ⟨["1"], rfl, by decide, by decide⟩
      · exact ⟨["2"], rfl, by decide, by decide⟩
    · obtain rfl : ["ann,north,"] = rows := Option.some.inj hpart
      obtain rfl : ["name", "ward"] = names := Option.some.inj hnames
      obtain rfl := List.mem_singleton.1 hmem
      exact ⟨["ann", "north"], rfl, by decide, by decide⟩
    · obtain rfl : ["well,", "ill,", "new,"] = rows := Option.some.inj hpart
      obtain rfl : ["note"] = names := Option.some.inj hnames
      simp only [List.mem_cons, List.not_mem_nil, or_false] at hmem
      rcases hmem with rfl | rfl | rfl
      · exact ⟨["well"], rfl, by decide, by decide⟩
      · exact ⟨["ill"], rfl, by decide, by decide⟩
      · exact ⟨["new"], rfl, by decide, by decide⟩
    · simp [clinicRows] at hpart
  obtain ⟨-, hjoined⟩ := joined_rows hrouter rfl rfl (by decide) hrows
  obtain ⟨hlength, hblock⟩ := hjoined 2 _ hrow
  exact ⟨hrouter, hrow, hlength, hblock 1 _ _ rfl rfl, (hblock 2 _ _ rfl rfl).trans (by decide)⟩

end ReplicatedTable

end TableStore
