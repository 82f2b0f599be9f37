import TableStore.Proofs.Insertions
import TableStore.Proofs.PairRows
import TableStore.Proofs.PositionalCalls
import TableStore.Proofs.RowFormat

/-!
# Calls that are made again

The answer to a call can get lost on its way, and then the call is made again.  For updates, by
condition or by positions, and for removals by condition this is harmless: however often the call is
made again, the store's file keeps the text that it got at the first time.  The call does not find
the same rows then, because an update can assign to the column of its own condition.

* Lines.  What is read from a line is written and read again (`isUnbroken_of_mem_parse`,
  `isWritten_parsePairs`), whatever the line is: it can have too few fields, or too many.
* Assignments.  The last value for a column decides (`getElem?_foldl_setField`), so that
  `assign_again` holds even if columns are repeated.
* Calls.  `onRows_again` is the result for rows, `perform_again` for texts, and `run_again` for
  files.  In between, other actions on files can fail at every attempt.
-/

namespace TableStore

namespace Row

/-! ## Lines that are read and written again -/

/-- The fields of a line are read back when they are written. -/
theorem isUnbroken_of_mem_parse {line field : String} (hline : '\n' ∉ line.toList)
    (h : field ∈ parse line) : IsUnbroken field := by
  obtain ⟨piece, hpiece, rfl⟩ := List.mem_map.1 h
  have hbody {c : Char} (hc : c ∈ body line.toList) : c ∈ line.toList := by
    unfold body at hc
    split at hc
    · exact List.dropLast_subset _ hc
    · exact hc
  rw [IsUnbroken, String.toList_ofList]
  exact ⟨fun hc => (mem_of_mem_splitOn hpiece hc).2 rfl,
    fun hc => hline (hbody (mem_of_mem_splitOn hpiece hc).1)⟩

theorem isUnbroken_empty : IsUnbroken "" := by
  decide

theorem isUnbroken_of_mem_parsePadded {line field : String} {width : Nat}
    (hline : '\n' ∉ line.toList) (h : field ∈ parsePadded line width) : IsUnbroken field := by
  rcases List.mem_append.1 h with hmem | hpad
  · exact isUnbroken_of_mem_parse hline hmem
  · rw [List.eq_of_mem_replicate hpad]
    exact isUnbroken_empty

theorem length_parsePadded (line : String) (width : Nat) :
    (parsePadded line width).length = max (parse line).length width := by
  simp only [parsePadded, List.length_append, List.length_replicate]
  omega

/-- The pairs of a line are read back when they are written. -/
theorem isWritten_parsePairs {line : String} (hline : '\n' ∉ line.toList) :
    PairRow.IsWritten (parsePairs line) := by
  have hpaired (fields : List String) (hfields : ∀ field ∈ fields, IsUnbroken field) :
      ∀ pair ∈ pairUp fields, IsUnbroken pair.1 ∧ IsUnbroken pair.2 := by
    induction fields using pairUp.induct with
    | case1 => simp [pairUp]
    | case2 key => simpa [pairUp] using ⟨hfields key (by simp), isUnbroken_empty⟩
    | case3 key value rest ih =>
      obtain ⟨hkey, hvalue, hrest⟩ := by simpa only [List.forall_mem_cons] using hfields
      exact List.forall_mem_cons.2 ⟨⟨hkey, hvalue⟩, ih hrest⟩
  refine ⟨?_, hpaired _ fun field hfield => isUnbroken_of_mem_parse hline hfield⟩
  unfold parsePairs
  cases hfields : parse line with
  | nil => exact absurd hfields (parse_ne_nil line)
  | cons key rest => cases rest <;> simp [pairUp]

/-! ## Assignments that are made again -/

/-- The last value that assignments give to the column at an index. -/
def lastField? (columns : List String) (assignments : List (String × String)) (idx : Nat) :
    Option String :=
  (assignments.reverse.find? fun assignment => columns.idxOf? assignment.1 = some idx).map Prod.snd

theorem lastField?_concat (columns : List String) (front : List (String × String))
    (assignment : String × String) (idx : Nat) :
    lastField? columns (front ++ [assignment]) idx =
      if columns.idxOf? assignment.1 = some idx then some assignment.2
      else lastField? columns front idx := by
  rw [lastField?, List.reverse_concat]
  split
  · next heq => rw [List.find?_cons_of_pos (by simpa using heq), Option.map_some]
  · next hne =>
    rw [List.find?_cons_of_neg (by simpa using hne)]
    rfl

/-- Assignments to fields, the first one first, leave each field with the last value for it. -/
theorem getElem?_foldl_setField (columns : List String) (assignments : List (String × String))
    (fields : List String) (idx : Nat) :
    (assignments.foldl (setField columns) fields)[idx]? =
      fields[idx]?.map (lastField? columns assignments idx).getD := by
  induction assignments using List.reverseRecOn with
  | nil => exact (Option.map_id' (x := fields[idx]?)).symm
  | append_singleton front assignment ih =>
    rw [List.foldl_concat, lastField?_concat, setField]
    split
    · next hnone => rw [ih, if_neg (by simp [hnone])]
    · next found hfound =>
      rw [List.getElem?_set', ih, hfound]
      by_cases heq : found = idx
      · rw [if_pos heq, if_pos (congrArg some heq), Option.map_eq_map, Option.map_map]
        rfl
      · rw [if_neg heq, if_neg (by simpa using heq)]

/-- Assignments to fields that are made again change nothing. -/
theorem foldl_setField_again (columns : List String) (assignments : List (String × String))
    (fields : List String) :
    assignments.foldl (setField columns) (assignments.foldl (setField columns) fields) =
      assignments.foldl (setField columns) fields := by
  refine List.ext_getElem? fun idx => ?_
  rw [getElem?_foldl_setField, getElem?_foldl_setField, Option.map_map]
  congr 1
  funext old
  cases lastField? columns assignments idx <;> rfl

/-- **Assignments that are made again change nothing**, and what they leave is read as one row.  The
line can have too many or too few fields, and a column can be assigned to several times. -/
theorem assign_again {assignments : List (String × String)}
    (hvalues : ∀ assignment ∈ assignments, IsUnbroken assignment.2)
    (columns : Option (List String)) {line : String} (hline : '\n' ∉ line.toList) :
    RecordStore.IsRow (assign columns assignments line) ∧
      assign columns assignments (assign columns assignments line) =
        assign columns assignments line := by
  cases columns with
  | some names =>
    have hlength := length_foldl_setField names assignments (parsePadded line names.length)
    have hread : ∀ field ∈ parsePadded line names.length, IsUnbroken field :=
      fun _ hfield => isUnbroken_of_mem_parsePadded hline hfield
    have hfields := forall_mem_foldl_setField names hvalues hread
    have hagain := foldl_setField_again names assignments (parsePadded line names.length)
    simp only [assign]
    generalize assignments.foldl (setField names) (parsePadded line names.length) = fields at *
    rw [length_parsePadded] at hlength
    have hne : fields ≠ [] := by
      have hpos := List.length_pos_of_ne_nil (parse_ne_nil line)
      exact List.ne_nil_of_length_pos (by omega)
    refine ⟨RecordStore.isRow_render hne fun field hfield => (hfields field hfield).2, ?_⟩
    rw [parsePadded_render hne (fun field hfield => (hfields field hfield).1) (by omega),
      hagain]
  | none =>
    have hwritten := (isWritten_parsePairs hline).assign hvalues
    have hassign : assign none assignments line =
        PairRow.line (PairRow.assign assignments (parsePairs line)) := by
      rw [assign, foldl_setPair]
      rfl
    rw [hassign]
    refine ⟨PairRow.isRow_line hwritten, ?_⟩
    rw [PairRow.assign_line _ hwritten, PairRow.assign_assign]

/-- Assignments are made again only in rows that they were made in. -/
theorem assignAt_again {columns : Option (List String)} {assignments : List (String × String)}
    (hvalues : ∀ assignment ∈ assignments, IsUnbroken assignment.2) {rows : List String}
    (hrows : ∀ row ∈ rows, '\n' ∉ row.toList) {positions again : List Nat}
    (hagain : ∀ position < rows.length, position ∈ again → position ∈ positions) :
    assignAt columns assignments again (assignAt columns assignments positions rows) =
      assignAt columns assignments positions rows := by
  refine List.ext_getElem? fun i => ?_
  simp only [assignAt, List.getElem?_mapIdx]
  cases hrow : rows[i]? with
  | none => rfl
  | some row =>
    have hlt : i < rows.length := (List.getElem?_eq_some_iff.1 hrow).1
    simp only [Option.map_some, Option.some.injEq]
    split
    · next hmem =>
      rw [if_pos (hagain i hlt hmem)]
      exact (assign_again hvalues columns (hrows row (List.mem_of_getElem? hrow))).2
    · rfl

theorem isRow_assignAt {columns : Option (List String)} {assignments : List (String × String)}
    (hvalues : ∀ assignment ∈ assignments, IsUnbroken assignment.2) {rows : List String}
    (hrows : ∀ row ∈ rows, RecordStore.IsRow row) (positions : List Nat) :
    ∀ row ∈ assignAt columns assignments positions rows, RecordStore.IsRow row := by
  intro row hrow
  obtain ⟨i, hi, rfl⟩ := List.mem_mapIdx.1 hrow
  have hold := hrows _ (List.getElem_mem hi)
  split
  · exact (assign_again hvalues columns hold.1.1).1
  · exact hold

/-- A row that a condition does not pick at first stays, and is not picked afterwards. -/
theorem mem_matching_of_assignAt {columns : Option (List String)} {condition : Predicate}
    {assignments : List (String × String)} {rows : List String} {position : Nat}
    (h : position ∈ matching columns condition
      (assignAt columns assignments (matching columns condition rows) rows)) :
    position ∈ matching columns condition rows := by
  by_contra hout
  rw [matching_eq_positionsOf] at h
  obtain ⟨row, hrow, hmeets⟩ := mem_positionsOf.1 h
  rw [assignAt, List.getElem?_mapIdx] at hrow
  simp only [if_neg hout, Option.map_id'] at hrow
  exact hout (mem_positionsOf.2 ⟨row, hrow, hmeets⟩)

/-- No row that is left satisfies the condition by which rows were removed. -/
theorem matching_removeAt (columns : Option (List String)) (condition : Predicate)
    (rows : List String) :
    matching columns condition (removeAt (matching columns condition rows) rows) = [] := by
  have hleft : removeAt (positionsOf (satisfies columns condition) rows) rows =
      rows.filter fun row => !satisfies columns condition row := by
    simpa using removeAt_positionsOf (p := satisfies columns condition) (α := String) id
  rw [matching_eq_positionsOf, matching_eq_positionsOf, hleft, positionsOf_eq_nil]
  intro row hrow
  simpa using (List.mem_filter.1 hrow).2

end Row

/-! ## Calls on rows -/

namespace NodeCall

/-- Whether a call can be made again without harm.  An insertion that is made again adds a second
row, and a removal by positions removes other rows then. -/
def isRepeatable {kind : ReplyKind} : NodeCall kind → Bool
  | .insert .. | .deleteAt _ => false
  | _ => true

variable {kind : ReplyKind} {call : NodeCall kind} {columns : Option (List String)}
  {rows : List String}

theorem isUnbroken_of_mem_zip {names values : List String}
    (h : ∀ text ∈ names ++ values, Row.IsUnbroken text) :
    ∀ assignment ∈ names.zip values, Row.IsUnbroken assignment.2 :=
  fun _ hmem => h _ (List.mem_append_right _ (List.of_mem_zip hmem).2)

/-- A call that is made again changes nothing in the rows. -/
theorem onRows_again (hcall : call.isRepeatable = true)
    (hwritten : ∀ text ∈ call.written, Row.IsUnbroken text)
    (hrows : ∀ row ∈ rows, '\n' ∉ row.toList) :
    (call.onRows columns (call.onRows columns rows).2).2 = (call.onRows columns rows).2 := by
  cases call with
  | insert names values => simp [NodeCall.isRepeatable] at hcall
  | deleteAt positions => simp [NodeCall.isRepeatable] at hcall
  | select => rfl
  | heartbeat => rfl
  | update names values condition =>
    exact Row.assignAt_again (isUnbroken_of_mem_zip hwritten) hrows
      fun _ _ => Row.mem_matching_of_assignAt
  | updateAt positions names values =>
    refine Row.assignAt_again (isUnbroken_of_mem_zip hwritten) hrows fun position hlt hmem => ?_
    exact List.mem_filter.2 ⟨(List.mem_filter.1 hmem).1, decide_eq_true hlt⟩
  | delete condition =>
    simp only [onRows, Row.matching_removeAt, Row.removeAt_nil]

/-- What such a call leaves is read as rows. -/
theorem isRow_onRows (hcall : call.isRepeatable = true)
    (hwritten : ∀ text ∈ call.written, Row.IsUnbroken text)
    (hrows : ∀ row ∈ rows, RecordStore.IsRow row) :
    ∀ row ∈ (call.onRows columns rows).2, RecordStore.IsRow row := by
  cases call with
  | insert names values => simp [NodeCall.isRepeatable] at hcall
  | deleteAt positions => simp [NodeCall.isRepeatable] at hcall
  | select => exact hrows
  | heartbeat => exact hrows
  | update names values condition =>
    exact Row.isRow_assignAt (isUnbroken_of_mem_zip hwritten) hrows _
  | updateAt positions names values =>
    exact Row.isRow_assignAt (isUnbroken_of_mem_zip hwritten) hrows _
  | delete condition => exact fun row hrow => hrows row (Row.mem_of_mem_removeAt hrow)

end NodeCall

/-! ## Files -/

namespace RecordStore

/-- Whether a text consists of the header for the columns, if there are any, and of lines.  The
lines can be empty, and they can have any number of fields. -/
def HasLines (columns : Option (List String)) (text : String) : Prop :=
  (∀ names ∈ columns, Text.IsLine (Row.renderHeader names)) ∧
    ∃ lines, (∀ line ∈ lines, Text.IsLine line) ∧ text = fileText columns lines

/-- A file in the row format consists of lines. -/
theorem HasFormat.hasLines {columns : Option (List String)} {text : String}
    (hcolumns : ∀ names ∈ columns, ∀ name ∈ names, IsClean name) (h : HasFormat columns text) :
    HasLines columns text := by
  obtain ⟨rows, hrows, rfl⟩ := h
  refine ⟨fun names hnames => isLine_renderHeader fun name hname => ?_, rows, fun row hrow => ?_,
    rfl⟩
  · exact (hcolumns names hnames name hname).2
  · obtain ⟨fields, -, hclean, rfl⟩ := hrows row hrow
    by_cases hne : fields = []
    · subst hne
      exact ⟨by simp [Row.render], by simp [Row.render]⟩
    · exact Row.isLine_render hne fun field hfield => (hclean field hfield).2.2

variable {store : RecordStore} {fs fs' : FileSystem} {text text' : String} {kind : ReplyKind}
  {call : NodeCall kind}

/-- What a call leaves is read as the rows that it makes of some rows.  They are written as the text
is, unless the call concerns none of them. -/
theorem exists_parse?_of_perform (hreads : call.reads = true) (hcall : call.isRepeatable = true)
    (hwritten : ∀ field ∈ call.written, Row.IsUnbroken field)
    (hlines : HasLines store.columns text) {value : kind.Value}
    (h : call.perform store text = some (value, text')) :
    ∃ contents rows, store.parse? text' = some contents ∧ (∀ row ∈ rows, '\n' ∉ row.toList) ∧
      contents.rows = (call.onRows store.columns rows).2 ∧
      (call.isIdle (call.onRows store.columns contents.rows).1 = true ∨
        text' = contents.text) := by
  obtain ⟨hheader, lines, hended, rfl⟩ := hlines
  have hparse := parse?_lines hheader hended
  have hrows : ∀ row ∈ lines.filter (· ≠ ""), IsRow row := fun row hrow =>
    have hmem := List.mem_filter.1 hrow
    ⟨hended row hmem.1, by simpa using hmem.2⟩
  rw [NodeCall.perform_of_reads hreads, hparse, Option.map_some] at h
  generalize lines.filter (· ≠ "") = rows at h hparse hrows
  obtain ⟨-, htext⟩ := Prod.mk.inj (Option.some.inj h)
  split at htext
  · next hidle =>
    exact ⟨_, rows, htext ▸ hparse, fun row hrow => (hrows row hrow).1.1,
      (onRows_of_isIdle hidle).symm, Or.inl hidle⟩
  · obtain rfl : fileText store.columns (call.onRows store.columns rows).2 = text' := htext
    exact ⟨_, rows, parse?_fileText hheader (NodeCall.isRow_onRows hcall hwritten hrows),
      fun row hrow => (hrows row hrow).1.1, rfl, Or.inr rfl⟩

/-- A call that is made again on the text that it has made leaves that text. -/
theorem perform_again (hreads : call.reads = true) (hcall : call.isRepeatable = true)
    (hwritten : ∀ field ∈ call.written, Row.IsUnbroken field)
    (hlines : HasLines store.columns text) {value : kind.Value}
    (h : call.perform store text = some (value, text')) :
    ∃ again, call.perform store text' = some (again, text') := by
  obtain ⟨contents, rows, hparse, hrows, hleft, hsettled⟩ :=
    exists_parse?_of_perform hreads hcall hwritten hlines h
  have hagain : (call.onRows store.columns contents.rows).2 = contents.rows := by
    rw [hleft, NodeCall.onRows_again hcall hwritten hrows]
  rw [NodeCall.perform_of_reads hreads, hparse, Option.map_some, hagain]
  refine ⟨_, congrArg some (Prod.ext rfl ?_)⟩
  split
  · rfl
  · next hbusy => exact (hsettled.resolve_left hbusy).symm

/-- A removal that is made again on the text that it has made finds no row. -/
theorem contents_again (hlines : HasLines store.columns text) {condition : Predicate}
    {positions : List Nat}
    (h : (NodeCall.delete condition).perform store text = some (positions, text')) :
    ∃ contents, store.parse? text' = some contents ∧
      Row.matching store.columns condition contents.rows = [] := by
  obtain ⟨contents, rows, hparse, -, hleft, -⟩ :=
    exists_parse?_of_perform rfl rfl (by simp [NodeCall.written]) hlines h
  refine ⟨contents, hparse, ?_⟩
  rw [hleft]
  exact Row.matching_removeAt store.columns condition rows

end RecordStore

namespace StorageNode

variable {node : StorageNode} {fs fs' : FileSystem} {text : String} {kind : ReplyKind}
  {call : NodeCall kind}

/-- The files after further attempts at a call.  In each of them other actions can fail. -/
def attempt (node : StorageNode) {kind : ReplyKind} (call : NodeCall kind)
    (attempts : List (List Fault × Uuid)) (fs : FileSystem) : FileSystem :=
  attempts.foldl (fun fs surroundings =>
    (node.run call (fs.under surroundings.1 surroundings.2)).2) fs

/-- If a call makes nothing else of a text, no attempt at it changes the file. -/
theorem holds_attempt (hcall : call.isRepeatable = true) {again : kind.Value}
    (hagain : call.perform node.store text = some (again, text))
    (attempts : List (List Fault × Uuid)) (hheld : fs.Holds node.store.path text) :
    (node.attempt call attempts fs).Holds node.store.path text := by
  induction attempts generalizing fs with
  | nil => exact hheld
  | cons surroundings rest ih =>
    refine ih ?_
    have hunder : (fs.under surroundings.1 surroundings.2).Holds node.store.path text :=
      hheld.under surroundings.1 surroundings.2
    have hwhole : ¬ call.Tears node.store (fs.under surroundings.1 surroundings.2) := by
      cases call with
      | insert names values => simp [NodeCall.isRepeatable] at hcall
      | _ => exact fun htears => htears
    obtain ⟨name, hlast, hname⟩ := hunder.leadsToFile.getLast?
    obtain ⟨text', rfl | ⟨value, hperform⟩, hafter⟩ :=
      RecordStore.holds_run call hlast hname hunder hwhole
    · exact hafter
    · obtain ⟨-, rfl⟩ := Prod.mk.inj (Option.some.inj (hagain.symm.trans hperform))
      exact hafter

/-- A call that reads a text and is carried out does what `perform` says, and what it has made of
the text can be read. -/
theorem perform_of_run (hcall : call.reads = true) (hread : fs.readText node.store.path = .ok text)
    {value : kind.Value} (h : node.run call fs = (.ok value, fs')) :
    ∃ text', call.perform node.store text = some (value, text') ∧
      fs'.readText node.store.path = .ok text' := by
  obtain ⟨contents, hcontents, rfl, hafter⟩ := readText_of_run hcall h
  have hparse : node.store.parse? text = some contents := by
    cases hparse : node.store.parse? text <;>
      simp [RecordStore.contents, hread, hparse] at hcontents ⊢
    exact hcontents
  rw [NodeCall.perform_of_reads hcall, hparse, Option.map_some]
  refine ⟨_, rfl, ?_⟩
  rw [hafter, hread]
  split <;> rfl

/-- After a removal has been carried out, the same removal finds no row. -/
theorem run_delete_again (hlines : RecordStore.HasLines node.store.columns text)
    (hread : fs.readText node.store.path = .ok text) {condition : Predicate}
    {positions : List Nat} (h : node.run (.delete condition) fs = (.ok positions, fs'))
    (scratch : Uuid) : node.run (.delete condition) (fs'.under fs'.faults scratch) =
      (.ok [], fs'.under fs'.faults scratch) := by
  obtain ⟨text', hperform, hread'⟩ := perform_of_run rfl hread h
  obtain ⟨contents, hparse, hnone⟩ := RecordStore.contents_again hlines hperform
  have hsame : (fs'.under fs'.faults scratch).readText node.store.path =
      fs'.readText node.store.path := FileSystem.readText_congr rfl fun _ => rfl
  have hcontents : node.store.contents (fs'.under fs'.faults scratch) = .ok contents := by
    simp only [RecordStore.contents, hsame, hread', hparse]
  rw [run_of_reads rfl, hcontents]
  simp only [NodeCall.onRows, hnone]
  rfl

/-- **Calls can be made again.**  Once an update, or a removal by condition, has been carried out on
a file of lines, the file keeps its text however often the call is made again, whatever fails then.
Nothing that the call writes may be divided; the rows of the file and the columns that the call
names do not need to fit the store's columns.  A removal that is made again finds no row. -/
theorem run_again (hlines : RecordStore.HasLines node.store.columns text)
    (hread : fs.readText node.store.path = .ok text) :
    (∀ {kind : ReplyKind} (call : NodeCall kind) (value : kind.Value) (fs' : FileSystem),
      call.isRepeatable = true → (∀ field ∈ call.written, Row.IsUnbroken field) →
      node.run call fs = (.ok value, fs') →
      ∃ text', fs'.Holds node.store.path text' ∧
        ∀ attempts, (node.attempt call attempts fs').Holds node.store.path text') ∧
    ∀ (condition : Predicate) (positions : List Nat) (fs' : FileSystem),
      node.run (.delete condition) fs = (.ok positions, fs') →
      ∀ scratch, node.run (.delete condition) (fs'.under fs'.faults scratch) =
        (.ok [], fs'.under fs'.faults scratch) := by
  refine ⟨?_, fun condition positions fs' h => run_delete_again hlines hread h⟩
  intro kind call value fs' hcall hwritten h
  have hreads : call.reads = true → ∃ text', fs'.Holds node.store.path text' ∧
      ∀ attempts, (node.attempt call attempts fs').Holds node.store.path text' := by
    intro hreads
    obtain ⟨text', hperform, hread'⟩ := perform_of_run hreads hread h
    obtain ⟨again, hagain⟩ := RecordStore.perform_again hreads hcall hwritten hlines hperform
    have hheld := FileSystem.holds_of_readText hread'
    exact ⟨text', hheld, fun attempts => holds_attempt hcall hagain attempts hheld⟩
  cases call with
  | insert names values => simp [NodeCall.isRepeatable] at hcall
  | heartbeat =>
    obtain ⟨-, rfl⟩ := Prod.mk.inj h
    have hheld := FileSystem.holds_of_readText hread
    exact ⟨text, hheld, fun attempts => holds_attempt rfl rfl attempts hheld⟩
  | _ => exact hreads rfl

/-- The files of a club with three members. -/
def roster : FileSystem :=
  let content := "id,name\n1,Ida,\n3,Eva,\n1,Ola,\n".toUTF8
  { entries := (∅ : KeyMap Path Entry).insert ["members.csv"] (.file content)
    faults := []
    scratch := ⟨0⟩ }

theorem hasFormat_roster :
    RecordStore.HasFormat members.store.columns "id,name\n1,Ida,\n3,Eva,\n1,Ola,\n" := by
  have hrow (values : List String) (hvalues : ∀ value ∈ values, IsClean value) :
      Row.IsRowOf (some ["id", "name"]) (Row.compose (some ["id", "name"]) ["id", "name"] values) :=
    Row.isRowOf_compose (by simp [IsClean]) hvalues (by simp)
  refine ⟨[["1", "Ida"], ["3", "Eva"], ["1", "Ola"]].map
    (Row.compose (some ["id", "name"]) ["id", "name"]), ?_, by decide⟩
  simp only [List.forall_mem_map]
  exact fun values hvalues => hrow values (by revert values; simp [IsClean])

/-- A call that assigns to the column of its own condition, and to another column twice. -/
def renumbering : NodeCall .positions :=
  .update ["id", "name", "name"] ["2", "Kai", "Uma"] ⟨"id", "1"⟩

/-- The first and the third member get a new number, by which they are not found again, and the last
one of two names.  Removing the second member again finds nothing. -/
theorem run_again_roster :
    (∃ fs' text', members.run renumbering roster = (.ok [0, 2], fs') ∧
      fs'.Holds ["members.csv"] text' ∧
      ∀ attempts, (members.attempt renumbering attempts fs').Holds ["members.csv"] text') ∧
    ∃ fs', members.run (.delete ⟨"name", "Eva"⟩) roster = (.ok [1], fs') ∧
      ∀ scratch, members.run (.delete ⟨"name", "Eva"⟩) (fs'.under fs'.faults scratch) =
        (.ok [], fs'.under fs'.faults scratch) := by
  have hlines := hasFormat_roster.hasLines (by simp [members, IsClean])
  obtain ⟨hcalls, hremovals⟩ := run_again hlines (by decide : roster.readText _ = .ok _)
  constructor
  · obtain ⟨text', hheld, hattempts⟩ :=
      hcalls renumbering [0, 2] _ rfl (by decide) (Prod.ext (by decide) rfl)
    exact ⟨_, text', Prod.ext (by decide) rfl, hheld, hattempts⟩
  · exact ⟨_, Prod.ext (by decide) rfl,
      hremovals ⟨"name", "Eva"⟩ [1] _ (Prod.ext (by decide) rfl)⟩

end StorageNode

end TableStore
