import TableStore.Node.Basic
import TableStore.Proofs.Files
import TableStore.Proofs.Rows

/-!
# What calls make of a store's file

A call on a storage node reads the text of one file and may write another text in its place.  What
the calls that read the rows have in common is stated once (`StorageNode.run_of_reads`).
`NodeCall.perform` says which text is written, as a function of the text alone.  Two results
specify the node's actions by it:

* a call that does not fail does what `perform` says (`run_ok_of_holds`), if no file is reported as
  missing that is there;
* whatever comes of a call, the text is what it was or what `perform` makes of it (`holds_run`),
  unless the call adds a row and its writing fails within the row (`NodeCall.Tears`).  A row that is
  there need not have been acknowledged: its writing can fail after the last byte.

`confined_run` says that no other file is concerned, because a call writes only under the name of
its store's file and under the name of a temporary file.

Where the file consists of a header and of rows that are lines, `perform` is in turn a function of
the rows alone (`NodeCall.onRows`, `perform_fileText`).
-/

namespace TableStore

open FileSystem (Confined Frame Holds Outcome)
open TableStore.Path (IsName)

/-! ## The rows and the text after a call -/

namespace NodeCall

/-- The answer of a store with the given rows, and the rows afterwards. -/
def onRows {kind : ReplyKind} (columns : Option (List String)) (call : NodeCall kind)
    (rows : List String) : kind.Value × List String :=
  match call with
  | .select => (rows, rows)
  | .insert names values => ((), rows ++ [Row.compose columns names values])
  | .update names values condition =>
    let positions := Row.matching columns condition rows
    (positions, Row.assignAt columns (names.zip values) positions rows)
  | .updateAt positions names values =>
    let targets := positions.filter (· < rows.length)
    (targets.length, Row.assignAt columns (names.zip values) targets rows)
  | .delete condition =>
    let positions := Row.matching columns condition rows
    (positions, Row.removeAt positions rows)
  | .deleteAt positions =>
    let rest := Row.removeAt positions rows
    (rows.length - rest.length, rest)
  | .heartbeat => ((), rows)

/-- Whether an answer says that no row was concerned, so that the file is not written. -/
def isIdle {kind : ReplyKind} (call : NodeCall kind) (answer : kind.Value) : Bool :=
  match call, answer with
  | .update .., positions => positions.isEmpty
  | .updateAt .., count => count == 0
  | .delete _, positions => positions.isEmpty
  | .deleteAt _, count => count == 0
  | .select, _ => true
  | .insert .., _ => false
  | .heartbeat, _ => true

/-- Whether a call reads the rows.  An insertion only adds one, and a heartbeat is not about
rows. -/
def reads {kind : ReplyKind} : NodeCall kind → Bool
  | .insert .. | .heartbeat => false
  | _ => true

/-- Where there are no rows, none is concerned. -/
theorem isIdle_nil {kind : ReplyKind} {call : NodeCall kind} (h : call.reads = true)
    (columns : Option (List String)) : call.isIdle (call.onRows columns []).1 = true := by
  cases call with
  | insert names values => simp [reads] at h
  | heartbeat => simp [reads] at h
  | updateAt positions names values => simp [isIdle, onRows]
  | _ => rfl

/-- The answer of a store whose file has the given text, and the text afterwards.  There is none
if the header is missing. -/
def perform {kind : ReplyKind} (store : RecordStore) (call : NodeCall kind) (text : String) :
    Option (kind.Value × String) :=
  match call with
  | .insert names values => some ((), text ++ (Row.compose store.columns names values ++ "\n"))
  | .heartbeat => some ((), text)
  | call => (store.parse? text).map fun contents =>
      let (answer, rows) := call.onRows store.columns contents.rows
      (answer, if call.isIdle answer then text else Contents.text { contents with rows })

theorem perform_of_reads {kind : ReplyKind} {call : NodeCall kind} (h : call.reads = true)
    (store : RecordStore) (text : String) : call.perform store text =
      (store.parse? text).map fun contents =>
        ((call.onRows store.columns contents.rows).1,
          if call.isIdle (call.onRows store.columns contents.rows).1 then text
          else Contents.text
            { contents with rows := (call.onRows store.columns contents.rows).2 }) := by
  cases call with
  | insert names values => simp [reads] at h
  | heartbeat => simp [reads] at h
  | _ => rfl

/-- A call adds a row to the file of its store, and the writing fails within the row. -/
def Tears {kind : ReplyKind} (call : NodeCall kind) (store : RecordStore) (fs : FileSystem) :
    Prop :=
  match call with
  | .insert names values =>
    fs.Tears store.path (Row.compose store.columns names values ++ "\n")
  | _ => False

theorem tears_of_frame {kind : ReplyKind} {call : NodeCall kind} {store : RecordStore}
    {fs fs' : FileSystem} {names : List String} {text : String} (hheld : fs.Holds store.path text)
    (hframe : Frame names fs fs') (h : call.Tears store fs') : call.Tears store fs := by
  cases call with
  | insert names values => exact hheld.tears_of_frame hframe h
  | _ => exact h

theorem not_tears_of_writesWhole {kind : ReplyKind} (call : NodeCall kind) (store : RecordStore)
    {fs : FileSystem} (h : fs.WritesWhole) : ¬ call.Tears store fs := by
  cases call with
  | insert names values => exact h.not_tears _ _
  | _ => exact id

end NodeCall

/-- **What a call that reads the rows does.**  It answers what it finds in the rows, and replaces
them unless it concerns none. -/
theorem StorageNode.run_of_reads {kind : ReplyKind} {call : NodeCall kind}
    (h : call.reads = true) (node : StorageNode) (fs : FileSystem) : node.run call fs =
      match node.store.contents fs with
      | .error e => (.error e, fs)
      | .ok contents =>
        if call.isIdle (call.onRows node.store.columns contents.rows).1 then
          (.ok (call.onRows node.store.columns contents.rows).1, fs)
        else
          node.store.replace
            { contents with rows := (call.onRows node.store.columns contents.rows).2 }
            (call.onRows node.store.columns contents.rows).1 fs := by
  cases call with
  | insert names values => simp [NodeCall.reads] at h
  | heartbeat => simp [NodeCall.reads] at h
  | select =>
    simp only [run, RecordStore.select]
    cases node.store.contents fs <;> rfl
  | update names values condition =>
    simp only [run, RecordStore.update]
    cases node.store.contents fs with
    | error e => rfl
    | ok contents =>
      simp only [NodeCall.isIdle, NodeCall.onRows, List.isEmpty_iff]
      split
      · next hnil => rw [hnil]
      · rfl
  | updateAt positions names values =>
    simp only [run, RecordStore.updateAt]
    cases node.store.contents fs with
    | error e => rfl
    | ok contents =>
      simp only [NodeCall.isIdle, NodeCall.onRows, beq_iff_eq, List.length_eq_zero_iff]
      split
      · next hnil => rw [hnil]; rfl
      · rfl
  | delete condition =>
    simp only [run, RecordStore.delete]
    cases node.store.contents fs with
    | error e => rfl
    | ok contents =>
      simp only [NodeCall.isIdle, NodeCall.onRows, List.isEmpty_iff]
      split
      · next hnil => rw [hnil]
      · rfl
  | deleteAt positions =>
    simp only [run, RecordStore.deleteAt]
    cases node.store.contents fs with
    | error e => rfl
    | ok contents =>
      simp only [NodeCall.isIdle, NodeCall.onRows, beq_iff_eq]
      split
      · next hzero => rw [hzero]
      · rfl

/-! ## Temporary files -/

/-- The digits of a number are in five groups. -/
theorem Uuid.groups_eq (n : Nat) : ∃ i j k l m, groups n [8, 4, 4, 4, 12] =
    [Text.hexDigits 8 i, Text.hexDigits 4 j, Text.hexDigits 4 k, Text.hexDigits 4 l,
      Text.hexDigits 12 m] :=
  ⟨_, _, _, _, _, rfl⟩

namespace RecordStore

/-- The name of the temporary file for a file. -/
def scratchName (scratch : Uuid) (name : String) : String :=
  "temp-" ++ scratch.text ++ "-" ++ name

theorem length_scratchName (scratch : Uuid) (name : String) :
    (scratchName scratch name).length = scratch.text.length + name.length + 6 := by
  simp only [scratchName, String.length_append]
  have htemp : "temp-".length = 5 := rfl
  have hhyphen : "-".length = 1 := rfl
  omega

theorem isName_scratchName (scratch : Uuid) (name : String) :
    IsName (scratchName scratch name) := by
  have hlength := length_scratchName scratch name
  refine ⟨fun h => ?_, fun h => ?_, fun h => ?_⟩ <;> rw [h] at hlength
  · have : "".length = 0 := rfl
    omega
  · have : ".".length = 1 := rfl
    omega
  · have : "..".length = 2 := rfl
    omega

theorem getLast?_join {dir : Path} {name : String} :
    (Path.join dir [name]).getLast? = some name := by
  unfold Path.join
  split
  · rfl
  · split <;> simp

/-- The temporary file for a store lies under a name of its own. -/
theorem getLast?_scratchPath {store : RecordStore} {name : String} (scratch : Uuid)
    (hlast : store.path.getLast? = some name) (hname : IsName name) :
    (store.scratchPath scratch).getLast? = some (scratchName scratch name) := by
  obtain ⟨hne, hdot, -⟩ := hname
  obtain ⟨front, hpath⟩ := List.getLast?_eq_some_iff.1 hlast
  have htrim : store.path.lastPart? = some name := by
    have hidle : Path.isIdle name = false := by simp [Path.isIdle, hne, hdot]
    simp [Path.lastPart?, Path.trimEnd, Path.dropEndWhile, hpath, hidle]
  rw [scratchPath, htrim]
  exact getLast?_join

/-- The files after an insertion are those after the writing of its row. -/
theorem run_insert (node : StorageNode) (names values : List String) (fs : FileSystem) :
    ∃ reply, node.run (.insert names values) fs =
        (reply, (fs.appendText node.store.path
          (Row.compose node.store.columns names values ++ "\n")).2) ∧
      (reply = .ok () → (fs.appendText node.store.path
        (Row.compose node.store.columns names values ++ "\n")).1 = .ok ()) := by
  simp only [StorageNode.run, RecordStore.insert]
  split <;> rename_i heq <;> rw [heq]
  · exact ⟨_, rfl, by simp⟩
  · exact ⟨_, rfl, fun _ => rfl⟩

/-! ## What stores leave alone -/

section

variable {store : RecordStore} {name : String} {fs : FileSystem}

theorem confined_replace {α : Type} (hlast : store.path.getLast? = some name) (hname : IsName name)
    (contents : Contents) (value : α) :
    Confined [name, scratchName fs.scratch name] fs (store.replace contents value fs).2 := by
  have hscratch := getLast?_scratchPath fs.scratch hlast hname
  have hisName := isName_scratchName fs.scratch name
  have hwrite := FileSystem.confined_writeBytes fs contents.text.toUTF8 hscratch hisName
  unfold replace
  simp only
  split
  · next fs' heq =>
    rw [heq] at hwrite
    exact (hwrite.trans (FileSystem.confined_removeFile hscratch hisName)).mono (by simp)
  · next fs' heq =>
    rw [heq] at hwrite
    rcases FileSystem.rename_cases fs' hscratch hisName hlast hname with
      ⟨cause, hrename⟩ | ⟨fs'', hrename, hconfined, -⟩
    · rw [hrename]
      exact (hwrite.trans (FileSystem.confined_removeFile hscratch hisName)).mono (by simp)
    · rw [hrename]
      exact (hwrite.mono (by simp)).trans (hconfined.mono (by simp))

/-- A call on a node writes under the name of the node's file and of its temporary file only. -/
theorem confined_run {node : StorageNode} {kind : ReplyKind} (call : NodeCall kind)
    (fs : FileSystem) (hlast : node.store.path.getLast? = some name) (hname : IsName name) :
    Confined [name, scratchName fs.scratch name] fs (node.run call fs).2 := by
  have hreads : call.reads = true →
      Confined [name, scratchName fs.scratch name] fs (node.run call fs).2 := by
    intro hcall
    rw [StorageNode.run_of_reads hcall]
    split
    · exact .refl _ _
    · split
      · exact .refl _ _
      · exact confined_replace hlast hname _ _
  cases call with
  | insert names values =>
    obtain ⟨reply, hrun, -⟩ := run_insert node names values fs
    rw [hrun]
    exact (FileSystem.confined_appendText fs _ hlast hname).mono (by simp)
  | heartbeat => exact .refl _ _
  | _ => exact hreads rfl

/-! ## The file after a call -/

/-- New contents take the place of a file's text, or the text stays. -/
theorem replace_of_holds {α : Type} {text : String} (hlast : store.path.getLast? = some name)
    (hname : IsName name) (hheld : fs.Holds store.path text) (contents : Contents) (value : α) :
    (∃ e fs', store.replace contents value fs = (.error e, fs') ∧ fs'.Holds store.path text) ∨
      ∃ fs', store.replace contents value fs = (.ok value, fs') ∧
        fs'.Holds store.path contents.text := by
  have hscratch := getLast?_scratchPath fs.scratch hlast hname
  have hisName := isName_scratchName fs.scratch name
  have hout : name ∉ [scratchName fs.scratch name] := by
    intro hmem
    have hlength := length_scratchName fs.scratch name
    rw [← List.mem_singleton.1 hmem] at hlength
    omega
  have hwrite := FileSystem.confined_writeBytes fs contents.text.toUTF8 hscratch hisName
  unfold replace
  simp only
  split
  · next cause fs' heq =>
    rw [heq] at hwrite
    have hconfined := hwrite.trans (FileSystem.confined_removeFile hscratch hisName)
    exact Or.inl ⟨_, _, rfl, hheld.frame hconfined.forth hlast hname hout⟩
  · next fs' heq =>
    rw [heq] at hwrite
    rcases FileSystem.rename_cases fs' hscratch hisName hlast hname with
      ⟨cause, hrename⟩ | ⟨fs'', hrename, -, hmoved⟩
    · rw [hrename]
      have hconfined := hwrite.trans (FileSystem.confined_removeFile hscratch hisName)
      exact Or.inl ⟨_, _, rfl, hheld.frame hconfined.forth hlast hname hout⟩
    · rw [hrename]
      exact Or.inr ⟨_, rfl, hmoved _ (FileSystem.holds_of_writeBytes heq)⟩

/-- New contents that take the place of a file do so whatever is answered then. -/
theorem replace_of_ok {α : Type} {contents : Contents} {value value' : α} {fs' : FileSystem}
    (h : store.replace contents value fs = (.ok value', fs')) :
    value' = value ∧
      ∀ {β : Type} (other : β), store.replace contents other fs = (.ok other, fs') := by
  unfold replace at h
  simp only at h
  split at h
  · simp at h
  · next hwrite =>
    split at h
    · simp at h
    · next hrename =>
      obtain ⟨rfl, rfl⟩ : value = value' ∧ _ := by simpa using h
      exact ⟨rfl, fun other => by simp only [replace, hwrite, hrename]⟩

/-- A call that reads the rows and does not fail answers what it finds in them.  It has left all
files alone, or it has replaced the store's file. -/
theorem run_ok_of_reads {node : StorageNode} {kind : ReplyKind} {call : NodeCall kind}
    {value : kind.Value} {fs' : FileSystem} (hcall : call.reads = true)
    (h : node.run call fs = (.ok value, fs')) :
    ∃ contents, node.store.contents fs = .ok contents ∧
      value = (call.onRows node.store.columns contents.rows).1 ∧
      if call.isIdle value then fs' = fs
      else node.store.replace
        { contents with rows := (call.onRows node.store.columns contents.rows).2 } value fs =
          (.ok value, fs') := by
  rw [StorageNode.run_of_reads hcall] at h
  cases hread : node.store.contents fs with
  | error e => simp [hread] at h
  | ok contents =>
    simp only [hread] at h
    refine ⟨contents, rfl, ?_⟩
    by_cases hidle : call.isIdle (call.onRows node.store.columns contents.rows).1 = true
    · rw [if_pos hidle] at h
      obtain ⟨rfl, rfl⟩ : _ = value ∧ fs = fs' := by simpa using h
      exact ⟨rfl, by rw [if_pos hidle]⟩
    · rw [if_neg hidle] at h
      obtain rfl := (replace_of_ok h).1
      exact ⟨rfl, by rwa [if_neg hidle]⟩

/-- What a store reads in a file with a given text. -/
theorem contents_of_holds {text : String} (hheld : fs.Holds store.path text)
    (hreads : fs.Readable) :
    store.contents fs = match store.parse? text with
      | none => .error store.headerMissing
      | some contents => .ok contents := by
  cases hparse : store.parse? text <;> simp only [contents, hheld.readText hreads, hparse]

/-- A store that is read has the rows of a file, or none. -/
theorem contents_ok {contents : Contents} (h : store.contents fs = .ok contents) :
    contents.rows = [] ∨ ∃ text, fs.readText store.path = .ok text ∧
      store.parse? text = some contents := by
  unfold RecordStore.contents at h
  split at h
  · obtain rfl := Except.ok.inj h
    exact Or.inl rfl
  · simp at h
  · next text hread =>
    split at h
    · simp at h
    · next parsed hparse =>
      obtain rfl := Except.ok.inj h
      exact Or.inr ⟨text, hread, hparse⟩

/-- There is a file to read where a call finds rows that it concerns. -/
theorem exists_readText {kind : ReplyKind} {call : NodeCall kind} (hcall : call.reads = true)
    {contents : Contents} (hread : store.contents fs = .ok contents)
    (hidle : ¬ call.isIdle (call.onRows store.columns contents.rows).1 = true) :
    ∃ text, fs.readText store.path = .ok text := by
  rcases contents_ok hread with hnil | ⟨text, htext, -⟩
  · exact absurd (hnil ▸ NodeCall.isIdle_nil hcall _) hidle
  · exact ⟨text, htext⟩

/-- What a store reads in a file with a given text, whatever reading is made to fail.  Only a file
that is reported as missing is read without an error and not as what it says. -/
theorem contents_cases {text : String} (hheld : fs.Holds store.path text) :
    (∃ contents, store.parse? text = some contents ∧ store.contents fs = .ok contents) ∨
      (∃ e, store.contents fs = .error e) ∨
      (¬ fs.Intact ∧ store.contents fs = .ok ⟨none, []⟩) := by
  rcases hheld.readText_cases with hread | ⟨location, fault, -, hfault, hread⟩
  · cases hparse : store.parse? text with
    | none => exact Or.inr (Or.inl ⟨store.headerMissing, by simp only [contents, hread, hparse]⟩)
    | some contents =>
      exact Or.inl ⟨contents, rfl, by simp only [RecordStore.contents, hread, hparse]⟩
  · refine Or.inr ?_
    by_cases hmissing : fault.cause = .notFound
    · refine Or.inr ⟨fun hintact => hintact.fault?_ne hfault hmissing, ?_⟩
      simp only [contents, hread, hmissing]
    · refine Or.inl ⟨.io fault.cause, ?_⟩
      simp only [contents, hread]

end

/-- The store's file is there and is read as the given rows. -/
def HasRows (store : RecordStore) (fs : FileSystem) (rows : List String) : Prop :=
  ∃ text header, fs.Holds store.path text ∧ store.parse? text = some ⟨header, rows⟩

/-- The rows that a store answers with are those of its file. -/
theorem HasRows.of_perform {store : RecordStore} {fs : FileSystem} {rows : List String}
    {text text' : String} (hheld : fs.Holds store.path text)
    (h : NodeCall.select.perform store text = some (rows, text')) : store.HasRows fs rows := by
  obtain ⟨⟨header, found⟩, hparse, hperform⟩ := Option.map_eq_some_iff.1 h
  obtain rfl : found = rows := (Prod.mk.inj hperform).1
  exact ⟨text, header, hheld, hparse⟩

/-- The two outcomes of an action on a store whose file had the text `text`: it fails and the text
stays, or it does what `performed` says. -/
def Follows {α : Type} (store : RecordStore) (text : String) (performed : Option (α × String))
    (outcome : Outcome StoreError α) : Prop :=
  (∃ e fs', outcome = (.error e, fs') ∧ fs'.Holds store.path text) ∨
    ∃ value text' fs', outcome = (.ok value, fs') ∧ performed = some (value, text') ∧
      fs'.Holds store.path text'

section

variable {node : StorageNode} {fs fs' : FileSystem} {name text : String} {kind : ReplyKind}
  {call : NodeCall kind}

/-- A call that reads the rows fails and leaves the text of its file, or does what `perform` says,
or, if the file is reported as missing, answers without having done anything. -/
theorem run_cases_of_reads (hcall : call.reads = true)
    (hlast : node.store.path.getLast? = some name) (hname : IsName name)
    (hheld : fs.Holds node.store.path text) :
    Follows node.store text (call.perform node.store text) (node.run call fs) ∨
      ¬ fs.Intact ∧ ∃ value, node.run call fs = (.ok value, fs) := by
  rw [StorageNode.run_of_reads hcall, NodeCall.perform_of_reads hcall]
  rcases contents_cases hheld with ⟨contents, hparse, hread⟩ | ⟨e, hread⟩ | ⟨hmissing, hread⟩
  · rw [hparse, hread]
    refine Or.inl ?_
    simp only [Option.map_some]
    generalize call.onRows node.store.columns contents.rows = answered
    by_cases hidle : call.isIdle answered.1 = true
    · simp only [if_pos hidle]
      exact Or.inr ⟨answered.1, text, fs, rfl, rfl, hheld⟩
    · simp only [if_neg hidle]
      rcases replace_of_holds hlast hname hheld { contents with rows := answered.2 }
        answered.1 with ⟨e, fs', heq, hstays⟩ | ⟨fs', heq, hnew⟩
      · exact Or.inl ⟨e, fs', heq, hstays⟩
      · exact Or.inr ⟨answered.1, _, fs', heq, rfl, hnew⟩
  · rw [hread]
    exact Or.inl (Or.inl ⟨_, _, rfl, hheld⟩)
  · rw [hread]
    exact Or.inr ⟨hmissing, _, if_pos (NodeCall.isIdle_nil hcall _)⟩

/-- **A call on a node that does not fail does what `perform` says.** -/
theorem run_ok_of_holds {value : kind.Value} (hlast : node.store.path.getLast? = some name)
    (hname : IsName name) (hheld : fs.Holds node.store.path text) (hintact : fs.Intact)
    (h : node.run call fs = (.ok value, fs')) :
    ∃ text', call.perform node.store text = some (value, text') ∧
      fs'.Holds node.store.path text' := by
  have hreads : call.reads = true → ∃ text', call.perform node.store text = some (value, text') ∧
      fs'.Holds node.store.path text' := by
    intro hcall
    rcases run_cases_of_reads hcall hlast hname hheld with
      (⟨e, _, hrun, -⟩ | ⟨value', text', _, hrun, hperform, hnew⟩) | ⟨hmissing, -⟩
    · simp [h] at hrun
    · obtain ⟨rfl, rfl⟩ : value = value' ∧ fs' = _ := by simpa [h] using hrun
      exact ⟨text', hperform, hnew⟩
    · exact absurd hintact hmissing
  cases call with
  | insert names values =>
    obtain ⟨reply, hrun, hok⟩ := run_insert node names values fs
    obtain ⟨rfl, rfl⟩ := Prod.mk.inj (hrun.symm.trans h)
    exact ⟨_, rfl, FileSystem.holds_of_appendText hheld (Prod.ext (hok rfl) rfl)⟩
  | heartbeat =>
    obtain ⟨rfl, rfl⟩ : () = value ∧ fs = fs' := by simpa [StorageNode.run] using h
    exact ⟨text, rfl, hheld⟩
  | _ => exact hreads rfl

/-- **Whatever comes of a call, the text of the file is what it was or what `perform` makes of
it**, unless the call tears its row. -/
theorem holds_run (call : NodeCall kind) (hlast : node.store.path.getLast? = some name)
    (hname : IsName name) (hheld : fs.Holds node.store.path text)
    (hwhole : ¬ call.Tears node.store fs) :
    ∃ text', (text' = text ∨ ∃ value, call.perform node.store text = some (value, text')) ∧
      (node.run call fs).2.Holds node.store.path text' := by
  have hreads : call.reads = true →
      ∃ text', (text' = text ∨ ∃ value, call.perform node.store text = some (value, text')) ∧
        (node.run call fs).2.Holds node.store.path text' := by
    intro hcall
    rcases run_cases_of_reads hcall hlast hname hheld with
      (⟨e, fs', hrun, hstays⟩ | ⟨value, text', fs', hrun, hperform, hnew⟩) | ⟨-, value, hrun⟩
    · exact ⟨text, Or.inl rfl, by rwa [hrun]⟩
    · exact ⟨text', Or.inr ⟨value, hperform⟩, by rwa [hrun]⟩
    · exact ⟨text, Or.inl rfl, by rwa [hrun]⟩
  cases call with
  | insert names values =>
    obtain ⟨reply, hrun, -⟩ := run_insert node names values fs
    rw [hrun]
    rcases FileSystem.holds_appendText hheld hwhole with hstays | hnew
    · exact ⟨text, Or.inl rfl, hstays⟩
    · exact ⟨_, Or.inr ⟨(), rfl⟩, hnew⟩
  | heartbeat => exact ⟨text, Or.inl rfl, hheld⟩
  | _ => exact hreads rfl

/-- The file of a node is there after every call, whatever comes of it. -/
theorem contains_run (call : NodeCall kind) {content : ByteArray}
    (hlast : node.store.path.getLast? = some name) (hname : IsName name)
    (h : fs.Contains node.store.path content) :
    ∃ content', (node.run call fs).2.Contains node.store.path content' := by
  have hreads : call.reads = true →
      ∃ content', (node.run call fs).2.Contains node.store.path content' := by
    intro hcall
    rw [StorageNode.run_of_reads hcall]
    cases hread : node.store.contents fs with
    | error e => exact ⟨content, h⟩
    | ok contents =>
      simp only
      split
      · exact ⟨content, h⟩
      · next hidle =>
        obtain ⟨text, htext⟩ := exists_readText hcall hread hidle
        rcases replace_of_holds hlast hname (FileSystem.holds_of_readText htext)
          { contents with rows := (call.onRows node.store.columns contents.rows).2 }
          (call.onRows node.store.columns contents.rows).1 with
          ⟨e, fs', heq, hstays⟩ | ⟨fs', heq, hnew⟩ <;> rw [heq]
        · exact ⟨_, hstays⟩
        · exact ⟨_, hnew⟩
  cases call with
  | insert names values =>
    obtain ⟨reply, hrun, -⟩ := run_insert node names values fs
    rw [hrun]
    exact FileSystem.contains_appendText _ h
  | heartbeat => exact ⟨content, h⟩
  | _ => exact hreads rfl

end

/-! ## Creation -/

/-- A new store's file holds its header only, and no other file is concerned. -/
theorem create_ok {path : Path} {columns : Option (List String)} {fs fs' : FileSystem}
    {store : RecordStore} (h : create path columns fs = (.ok store, fs')) :
    store = ⟨path, columns⟩ ∧ fs'.Holds path (initialText columns) := by
  unfold create at h
  split at h
  · simp at h
  · split at h
    · simp at h
    · next hwrite =>
      obtain ⟨rfl, rfl⟩ : _ ∧ _ := by simpa using h
      exact ⟨rfl, FileSystem.holds_of_writeBytes hwrite⟩

theorem frame_create {path : Path} {name : String} (columns : Option (List String))
    (fs : FileSystem) (hlast : path.getLast? = some name) (hname : IsName name) :
    Frame [name] fs (create path columns fs).2 := by
  have hdirs := FileSystem.frame_createDirectories fs path.parent
  unfold create
  split
  · next heq =>
    rw [heq] at hdirs
    exact hdirs.mono (by simp)
  · next fs' heq =>
    rw [heq] at hdirs
    have hwrite := FileSystem.confined_writeBytes fs' (initialText columns).toUTF8 hlast hname
    split <;> rename_i heq' <;> rw [heq'] at hwrite <;>
      exact (hdirs.mono (by simp)).trans hwrite.forth

/-! ## Files of rows -/

/-- The text of a file with the header for the columns and the given rows. -/
def fileText (columns : Option (List String)) (rows : List String) : String :=
  Contents.text ⟨columns.map Row.renderHeader, rows⟩

/-- Whether a text is read back as one row. -/
def IsRow (row : String) : Prop := Text.IsLine row ∧ row ≠ ""

theorem isRow_render {fields : List String} (hne : fields ≠ [])
    (hfree : ∀ field ∈ fields, '\n' ∉ field.toList) : IsRow (Row.render fields) :=
  ⟨Row.isLine_render hne hfree, Row.render_ne_empty hne⟩

theorem fileText_concat (columns : Option (List String)) (rows : List String) (row : String) :
    fileText columns rows ++ (row ++ "\n") = fileText columns (rows ++ [row]) := by
  simp only [fileText, Contents.text, ← List.append_assoc, Text.unlines_append]
  simp [Text.unlines]

/-- The header and the lines of a file are read back, except the empty ones. -/
theorem parse?_lines {store : RecordStore} {lines : List String}
    (hheader : ∀ columns ∈ store.columns, Text.IsLine (Row.renderHeader columns))
    (hlines : ∀ line ∈ lines, Text.IsLine line) :
    store.parse? (fileText store.columns lines) =
      some ⟨store.columns.map Row.renderHeader, lines.filter (· ≠ "")⟩ := by
  obtain ⟨path, columns⟩ := store
  cases columns with
  | none =>
    have hread : Text.lines (fileText none lines) = lines := Text.lines_unlines hlines
    simp only [parse?, hread]
    rfl
  | some columns =>
    have hread : Text.lines (fileText (some columns) lines) = Row.renderHeader columns :: lines :=
      Text.lines_unlines (List.forall_mem_cons.2 ⟨hheader columns rfl, hlines⟩)
    simp only [parse?, hread]
    rfl

/-- The header and the rows of a file are read back. -/
theorem parse?_fileText {store : RecordStore} {rows : List String}
    (hheader : ∀ columns ∈ store.columns, Text.IsLine (Row.renderHeader columns))
    (hrows : ∀ row ∈ rows, IsRow row) :
    store.parse? (fileText store.columns rows) =
      some ⟨store.columns.map Row.renderHeader, rows⟩ := by
  have hkeep : rows.filter (· ≠ "") = rows :=
    List.filter_eq_self.2 fun row hrow => by simpa using (hrows row hrow).2
  rw [parse?_lines hheader fun row hrow => (hrows row hrow).1, hkeep]

/-- If a call concerns no row, the rows stay. -/
theorem onRows_of_isIdle {kind : ReplyKind} {columns : Option (List String)}
    {call : NodeCall kind} {rows : List String}
    (h : call.isIdle (call.onRows columns rows).1) : (call.onRows columns rows).2 = rows := by
  cases call with
  | select => rfl
  | heartbeat => rfl
  | insert names values => simp [NodeCall.isIdle] at h
  | update names values condition =>
    simp only [NodeCall.isIdle, NodeCall.onRows, List.isEmpty_iff] at h ⊢
    rw [h, Row.assignAt_nil]
  | updateAt positions names values =>
    simp only [NodeCall.isIdle, NodeCall.onRows, beq_iff_eq, List.length_eq_zero_iff] at h ⊢
    rw [h, Row.assignAt_nil]
  | delete condition =>
    simp only [NodeCall.isIdle, NodeCall.onRows, List.isEmpty_iff] at h ⊢
    rw [h, Row.removeAt_nil]
  | deleteAt positions =>
    -- nothing was removed, and a sublist of the same length is the list itself
    have hzero : rows.length - (Row.removeAt positions rows).length = 0 := by
      simpa [NodeCall.isIdle, NodeCall.onRows] using h
    have hsub : (Row.removeAt positions rows).Sublist rows := by
      have := (List.filter_sublist (l := rows.zipIdx) (p := fun row => row.2 ∉ positions)).map
        Prod.fst
      rwa [List.zipIdx_map_fst] at this
    exact hsub.eq_of_length_le (by omega)

/-- On a file of rows, a call does to the text what it does to the rows. -/
theorem perform_fileText {kind : ReplyKind} {store : RecordStore} {rows : List String}
    (call : NodeCall kind)
    (hheader : ∀ columns ∈ store.columns, Text.IsLine (Row.renderHeader columns))
    (hrows : ∀ row ∈ rows, IsRow row) :
    call.perform store (fileText store.columns rows) =
      some ((call.onRows store.columns rows).1,
        fileText store.columns (call.onRows store.columns rows).2) := by
  have hreads : call.reads = true → call.perform store (fileText store.columns rows) =
      some ((call.onRows store.columns rows).1,
        fileText store.columns (call.onRows store.columns rows).2) := by
    intro hcall
    rw [NodeCall.perform_of_reads hcall, parse?_fileText hheader hrows, Option.map_some]
    split
    · next hidle => rw [onRows_of_isIdle hidle]
    · rfl
  cases call with
  | insert names values =>
    simp only [NodeCall.perform, NodeCall.onRows, fileText_concat]
  | heartbeat => rfl
  | _ => exact hreads rfl

end RecordStore

end TableStore
