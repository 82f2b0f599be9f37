import TableStore.Proofs.Directories
import TableStore.Proofs.Stores

/-!
# Stores that work

Where no action on files is made to fail, a store whose file is there carries out every call, if the
temporary file for its next contents can be written.  That is not true of every store whose own file
can be written: the name of the temporary file is longer.

* `utf8ByteSize_scratchName` says by how much.
* `openForWriting_isOk_iff` says which paths can be opened for writing.
* `RecordStore.Works` is the condition on the store.  No call that is confined to some names spoils
  it (`Works.of_confined`).
* `run_of_works` says that then a call is carried out as `perform` says, and `perform_isSome` that
  `perform` says something unless the file is empty.
-/

namespace TableStore

open FileSystem (Confined Outcome)
open TableStore.Path (IsName)

/-! ## The length of temporary names -/

namespace Text

theorem utf8ByteSize_ofList {cs : List Char} (h : ∀ c ∈ cs, c.utf8Size = 1) :
    (String.ofList cs).utf8ByteSize = cs.length := by
  induction cs with
  | nil => rfl
  | cons c rest ih =>
    obtain ⟨hc, hrest⟩ := List.forall_mem_cons.1 h
    rw [String.ofList_cons, String.utf8ByteSize_append, String.utf8ByteSize_singleton, hc, ih hrest,
      List.length_cons, Nat.add_comm]

theorem utf8Size_hexDigit (n : Nat) : (hexDigit n).utf8Size = 1 := by
  have hdigits : "0123456789abcdef".toList.all (fun c => c.utf8Size = 1) = true := by decide
  rw [hexDigit, List.getD_eq_getElem?_getD]
  cases hdigit : "0123456789abcdef".toList[n]? with
  | none => rfl
  | some c => simpa using List.all_eq_true.1 hdigits c (List.mem_of_getElem? hdigit)

theorem utf8Size_of_mem_hexDigits {width n : Nat} {c : Char} (h : c ∈ hexDigits width n) :
    c.utf8Size = 1 := by
  induction width generalizing n with
  | zero => simp [hexDigits] at h
  | succ width ih =>
    rcases List.mem_append.1 h with hfront | hlast
    · exact ih hfront
    · rw [List.mem_singleton.1 hlast]
      exact utf8Size_hexDigit _

end Text

namespace Uuid

/-- The written form of a number has 36 bytes. -/
theorem utf8ByteSize_text (id : Uuid) : id.text.utf8ByteSize = 36 := by
  obtain ⟨i, j, k, l, m, hgroups⟩ := groups_eq id.bits.toNat
  rw [text, hgroups, Text.utf8ByteSize_ofList]
  · simp [List.intercalate, Text.length_hexDigits]
  · intro c hc
    have hmem : c = '-' ∨ ∃ width n, c ∈ Text.hexDigits width n := by
      simp only [List.intercalate, List.intersperse, List.flatten_cons, List.flatten_nil,
        List.append_nil, List.mem_append] at hc
      rcases hc with hc | hc | hc | hc | hc | hc | hc | hc | hc
      all_goals first | exact .inr ⟨_, _, hc⟩ | exact .inl (List.mem_singleton.1 hc)
    rcases hmem with rfl | ⟨width, n, hc⟩
    · rfl
    · exact Text.utf8Size_of_mem_hexDigits hc

end Uuid

/-- The name of a temporary file is longer than that of the file by 42 bytes. -/
theorem RecordStore.utf8ByteSize_scratchName (scratch : Uuid) (name : String) :
    (scratchName scratch name).utf8ByteSize = name.utf8ByteSize + 42 := by
  simp only [scratchName, String.utf8ByteSize_append, Uuid.utf8ByteSize_text]
  have htemp : "temp-".utf8ByteSize = 5 := rfl
  have hhyphen : "-".utf8ByteSize = 1 := rfl
  omega

/-! ## Paths that can be opened -/

namespace FileSystem

variable {fs fs' : FileSystem} {path source target : Path}

theorem fault?_of_faultless (h : fs.faults = []) (action : FileAction) (place : Path) :
    fs.fault? action place = none := by
  rw [FileSystem.fault?, h]
  rfl

/-- Where a path leads that can be opened for writing. -/
def LeadsToFile (fs : FileSystem) (path : Path) : Prop :=
  ∃ dir name, fs.locate path = .ok ⟨dir, some name, false⟩ ∧ name.utf8ByteSize ≤ maxNameBytes ∧
    ¬ fs.HasDirectory (dir ++ [name])

/-- What is found where such a path leads is a file or nothing. -/
theorem LeadsToFile.lookUp {dir : Path} {name : String} (hshort : name.utf8ByteSize ≤ maxNameBytes)
    (hfree : ¬ fs.HasDirectory (dir ++ [name])) :
    ∃ entry, fs.lookUp ⟨dir, some name, false⟩ = .ok entry ∧ entry ≠ some .directory := by
  cases hentry : fs.entries.get? (dir ++ [name]) with
  | none =>
    exact ⟨none, by simp [FileSystem.lookUp, Location.place, hentry, Nat.not_lt.2 hshort], by simp⟩
  | some entry =>
    cases entry with
    | directory => exact absurd hentry hfree
    | file content =>
      exact ⟨some (.file content),
        by simp [FileSystem.lookUp, Location.place, hentry, Nat.not_lt.2 hshort], by simp⟩

/-- Without faults, a path can be opened for writing if it leads to a file or to a free name. -/
theorem openForWriting_isOk_iff (h : fs.faults = []) (action : FileAction) :
    (fs.openForWriting action path).isOk = true ↔ fs.LeadsToFile path := by
  constructor
  · intro hok
    cases hopen : fs.openForWriting action path with
    | error cause => simp [hopen, Except.isOk, Except.toBool] at hok
    | ok opened =>
      obtain ⟨dir, name, hlocate, hplace, hshort, hfree, -⟩ := openForWriting_ok hopen
      exact ⟨dir, name, hlocate, hshort, hplace ▸ hfree⟩
  · rintro ⟨dir, name, hlocate, hshort, hfree⟩
    obtain ⟨entry, hlook, hne⟩ := LeadsToFile.lookUp hshort hfree
    simp only [openForWriting, hlocate, fault?_of_faultless h, hlook]
    cases entry with
    | none => rfl
    | some entry =>
      cases entry with
      | directory => exact absurd rfl hne
      | file content => rfl

theorem LeadsToFile.of_confined (h : fs.LeadsToFile path) {names : List String}
    (hconfined : Confined names fs fs') : fs'.LeadsToFile path := by
  obtain ⟨dir, name, hlocate, hshort, hfree⟩ := h
  exact ⟨dir, name, locate_mono hconfined.forth.directories hlocate, hshort,
    fun hdirectory => hfree (hconfined.back.directories _ hdirectory)⟩

theorem Holds.leadsToFile {text : String} (h : fs.Holds path text) : fs.LeadsToFile path := by
  obtain ⟨dir, name, hlocate, hshort, hentry⟩ := h
  exact ⟨dir, name, hlocate, hshort, by simp [HasDirectory, hentry]⟩

/-- A path that leads to a file ends in the name of the file. -/
theorem LeadsToFile.getLast? (h : fs.LeadsToFile path) :
    ∃ name, path.getLast? = some name ∧ IsName name := by
  obtain ⟨dir, name, hlocate, -, -⟩ := h
  obtain ⟨rest, hpath, hrest, hfront⟩ := Path.dropEndWhile_append (· = "") path
  rw [locate_of_walkable fs (walkable_of_locate hlocate)] at hlocate
  cases hlast : (path.dropEndWhile (· = "")).getLast? with
  | none => simp [hlast] at hlocate
  | some last =>
    simp only [hlast] at hlocate
    split at hlocate
    · -- a path that ends in dots has no name
      cases hwalk : fs.walk (start path) (path.dropEndWhile (· = "")) <;>
        simp [hwalk, Except.map] at hlocate
    · next hdots =>
      cases hwalk : fs.walk (start path) (path.dropEndWhile (· = "")).dropLast with
      | error cause => simp [hwalk, Except.map] at hlocate
      | ok reached =>
        have hslash : path.getLast? ≠ some "" := by
          intro heq
          simp [hwalk, Except.map, heq] at hlocate
        obtain rfl : rest = [] := by
          by_contra hne
          refine hslash ?_
          have hempty : rest.getLast hne = "" := by simpa using hrest _ (List.getLast_mem hne)
          rw [hpath, List.getLast?_append, List.getLast?_eq_some_getLast hne, hempty]
          rfl
        rw [List.append_nil] at hpath
        exact ⟨last, by rwa [hpath], by simpa using hfront last hlast, not_or.1 hdots⟩

/-- Without faults, all of a content is written. -/
theorem fill_of_faultless (h : fs.faults = []) (place : Path) (held content : ByteArray) :
    fs.fill place held content = (.ok (), fs.set place (.file (held ++ content))) := by
  simp only [fill, fault?_of_faultless h]

/-- Without faults, a text is written to a path that leads to a file. -/
theorem writeBytes_of_leadsToFile (h : fs.faults = []) (hpath : fs.LeadsToFile path)
    (content : ByteArray) : ∃ fs', fs.writeBytes path content = (.ok (), fs') := by
  have hok := (openForWriting_isOk_iff h .create).2 hpath
  cases hopen : fs.openForWriting .create path with
  | error cause => simp [hopen, Except.isOk, Except.toBool] at hok
  | ok opened =>
    exact ⟨_, by simp only [writeBytes, hopen, fill_of_faultless h]; rfl⟩

/-- Without faults, a text is written at the end of a file. -/
theorem appendText_of_leadsToFile (h : fs.faults = []) (hpath : fs.LeadsToFile path)
    (text : String) : ∃ fs', fs.appendText path text = (.ok (), fs') := by
  have hok := (openForWriting_isOk_iff h .append).2 hpath
  cases hopen : fs.openForWriting .append path with
  | error cause => simp [hopen, Except.isOk, Except.toBool] at hok
  | ok opened =>
    exact ⟨_, by simp only [appendText, hopen, fill_of_faultless h]; rfl⟩

/-- Without faults, a file is given a name under which there is a file or nothing. -/
theorem rename_of_leadsToFile (h : fs.faults = []) {text : String}
    (hsource : fs.Holds source text) (htarget : fs.LeadsToFile target) :
    ∃ fs', fs.rename source target = (.ok (), fs') := by
  obtain ⟨dir, name, hfrom, hlong, hheld⟩ := hsource
  obtain ⟨dir', name', hto, hshort, hfree⟩ := htarget
  have hlook : fs.lookUp ⟨dir, some name, false⟩ = .ok (some (.file text.toUTF8)) := by
    simp [FileSystem.lookUp, Location.place, hheld, Nat.not_lt.2 hlong]
  obtain ⟨entry, hlook', hne⟩ := LeadsToFile.lookUp hshort hfree
  unfold rename
  simp only [hfrom, hto, fault?_of_faultless h, hlook, hlook']
  cases entry with
  | none => exact ⟨_, rfl⟩
  | some entry =>
    cases entry with
    | directory => exact absurd rfl hne
    | file content => exact ⟨_, rfl⟩

end FileSystem

namespace RecordStore

/-! ## Stores that work -/

/-- No action on files is made to fail, and the temporary file for the store's next contents can be
opened. -/
structure Works (store : RecordStore) (fs : FileSystem) : Prop where
  faultless : fs.faults = []
  scratch : (fs.openForWriting .create (store.scratchPath fs.scratch)).isOk = true

variable {store : RecordStore} {fs fs' : FileSystem} {name text : String}

theorem Works.leadsToFile (h : store.Works fs) :
    fs.LeadsToFile (store.scratchPath fs.scratch) :=
  (FileSystem.openForWriting_isOk_iff h.faultless .create).1 h.scratch

/-- What is done under some names does not keep a store from working. -/
theorem Works.of_confined (h : store.Works fs) {names : List String}
    (hconfined : Confined names fs fs') : store.Works fs' := by
  have hfaultless : fs'.faults = [] := hconfined.forth.faults.trans h.faultless
  refine ⟨hfaultless, (FileSystem.openForWriting_isOk_iff hfaultless .create).2 ?_⟩
  rw [hconfined.forth.scratch]
  exact h.leadsToFile.of_confined hconfined

theorem Works.intact (h : store.Works fs) : fs.Intact := by
  intro fault hfault
  rw [h.faultless] at hfault
  simp at hfault

/-- A store that works replaces its file. -/
theorem replace_of_works {α : Type} (h : store.Works fs) (hlast : store.path.getLast? = some name)
    (hname : IsName name) (hheld : fs.Holds store.path text) (contents : Contents) (value : α) :
    ∃ fs', store.replace contents value fs = (.ok value, fs') ∧
      fs'.Holds store.path contents.text := by
  rcases replace_of_holds hlast hname hheld contents value with
    ⟨e, fs', hreplace, -⟩ | hdone
  swap
  · exact hdone
  exfalso
  have hscratch := getLast?_scratchPath fs.scratch hlast hname
  have hisName := isName_scratchName fs.scratch name
  obtain ⟨written, hwrite⟩ := FileSystem.writeBytes_of_leadsToFile h.faultless h.leadsToFile
    contents.text.toUTF8
  have hconfined := FileSystem.confined_writeBytes fs contents.text.toUTF8 hscratch hisName
  rw [hwrite] at hconfined
  simp only at hconfined
  obtain ⟨renamed, hrename⟩ := FileSystem.rename_of_leadsToFile
    (hconfined.forth.faults.trans h.faultless) (FileSystem.holds_of_writeBytes hwrite)
    (hheld.leadsToFile.of_confined hconfined)
  unfold replace at hreplace
  simp only [hwrite, hrename] at hreplace
  simp at hreplace

/-- A store that works adds a row. -/
theorem insert_of_works (h : store.Works fs) (hheld : fs.Holds store.path text)
    (columns values : List String) : ∃ fs', store.insert columns values fs = (.ok (), fs') := by
  obtain ⟨fs', happend⟩ := FileSystem.appendText_of_leadsToFile h.faultless hheld.leadsToFile
    (Row.compose store.columns columns values ++ "\n")
  exact ⟨fs', by rw [insert, happend]⟩

/-- **A node whose store works carries out every call** that makes sense of its file. -/
theorem run_of_works {node : StorageNode} (h : node.store.Works fs)
    (hlast : node.store.path.getLast? = some name) (hname : IsName name)
    (hheld : fs.Holds node.store.path text) {kind : ReplyKind} {call : NodeCall kind}
    {value : kind.Value} {text' : String}
    (hperform : call.perform node.store text = some (value, text')) :
    ∃ fs', node.run call fs = (.ok value, fs') ∧ fs'.Holds node.store.path text' ∧
      node.store.Works fs' := by
  have hok : ∃ reply fs', node.run call fs = (.ok reply, fs') := by
    have hreads : call.reads = true → ∃ reply fs', node.run call fs = (.ok reply, fs') := by
      intro hcall
      rw [NodeCall.perform_of_reads hcall] at hperform
      obtain ⟨contents, hparse, -⟩ := Option.map_eq_some_iff.1 hperform
      rcases contents_cases hheld with
        ⟨found, -, hread⟩ | ⟨e, hread⟩ | ⟨hmissing, -⟩
      · rw [StorageNode.run_of_reads hcall, hread]
        simp only
        split
        · exact ⟨_, _, rfl⟩
        · obtain ⟨fs', hreplace, -⟩ := replace_of_works h hlast hname hheld
            { found with rows := (call.onRows node.store.columns found.rows).2 }
            (call.onRows node.store.columns found.rows).1
          exact ⟨_, fs', hreplace⟩
      · rw [contents_of_holds hheld (fun fault hfault => by simp [h.faultless] at hfault),
          hparse] at hread
        simp at hread
      · exact absurd h.intact hmissing
    cases call with
    | insert names values =>
      obtain ⟨fs', hinsert⟩ := insert_of_works h hheld names values
      exact ⟨(), fs', hinsert⟩
    | heartbeat => exact ⟨(), fs, rfl⟩
    | _ => exact hreads rfl
  obtain ⟨reply, fs', hrun⟩ := hok
  obtain ⟨after, hfound, hheld'⟩ := run_ok_of_holds hlast hname hheld h.intact hrun
  obtain ⟨rfl, rfl⟩ : value = reply ∧ text' = after := by simpa [hperform] using hfound
  have hconfined := confined_run call fs hlast hname
  rw [hrun] at hconfined
  exact ⟨fs', hrun, hheld', h.of_confined hconfined⟩

/-! ## Files with a header -/

/-- Only the empty text has no lines. -/
theorem lines_ne_nil (h : text ≠ "") : Text.lines text ≠ [] := by
  intro hnil
  simp only [Text.lines, List.map_eq_nil_iff, List.append_eq_nil_iff] at hnil
  have hjoined : ['\n'].intercalate (text.toList.splitOn '\n') = text.toList :=
    List.intercalate_splitOn '\n'
  cases hpieces : text.toList.splitOn '\n' with
  | nil => exact List.splitOn_ne_nil '\n' text.toList hpieces
  | cons first rest =>
    rw [hpieces] at hnil hjoined
    cases rest with
    | cons next rest => simp at hnil
    | nil =>
      obtain rfl : first = [] := by simpa using hnil.2
      refine h (String.toList_inj.1 ?_)
      rw [← hjoined]
      rfl

/-- The text can be that of the store's file: if the store has columns, there is a header. -/
def Headed (store : RecordStore) (text : String) : Prop := store.columns ≠ none → text ≠ ""

/-- A call makes sense of every file with a header. -/
theorem perform_isSome (h : store.Headed text) {kind : ReplyKind} (call : NodeCall kind) :
    ∃ value text', call.perform store text = some (value, text') := by
  have hreads : call.reads = true →
      ∃ value text', call.perform store text = some (value, text') := by
    intro hcall
    rw [NodeCall.perform_of_reads hcall]
    obtain ⟨path, columns⟩ := store
    cases columns with
    | none => exact ⟨_, _, rfl⟩
    | some columns =>
      have hlines := lines_ne_nil (h (by simp))
      unfold parse?
      cases hlist : Text.lines text with
      | nil => exact absurd hlist hlines
      | cons header lines => exact ⟨_, _, rfl⟩
  cases call with
  | insert names values => exact ⟨(), _, rfl⟩
  | heartbeat => exact ⟨(), _, rfl⟩
  | _ => exact hreads rfl

/-- Calls keep the header. -/
theorem Headed.perform (h : store.Headed text) {kind : ReplyKind} {call : NodeCall kind}
    {value : kind.Value} {text' : String}
    (hperform : call.perform store text = some (value, text')) : store.Headed text' := by
  intro hcolumns
  have hreads : call.reads = true → text' ≠ "" := by
    intro hcall
    rw [NodeCall.perform_of_reads hcall] at hperform
    obtain ⟨contents, hparse, heq⟩ := Option.map_eq_some_iff.1 hperform
    obtain ⟨-, rfl⟩ := Prod.mk.inj heq
    split
    · exact h hcolumns
    · -- the first line of the new text is the header
      unfold parse? at hparse
      split at hparse
      · next hnone => exact absurd hnone hcolumns
      · next header lines _ _ =>
        obtain rfl := Option.some.inj hparse
        intro hempty
        have hlength := congrArg String.length hempty
        simp [Contents.text, Text.unlines] at hlength
      · simp at hparse
  cases call with
  | insert names values =>
    obtain ⟨-, rfl⟩ : () = value ∧ _ = text' := by simpa [NodeCall.perform] using hperform
    intro hempty
    have hlength := congrArg String.length hempty
    simp at hlength
  | heartbeat =>
    obtain ⟨-, rfl⟩ : () = value ∧ _ = text' := by simpa [NodeCall.perform] using hperform
    exact h hcolumns
  | _ => exact hreads rfl

/-- A new store has a header. -/
theorem headed_initialText (store : RecordStore) : store.Headed (initialText store.columns) := by
  intro hcolumns
  obtain ⟨columns, hsome⟩ := Option.ne_none_iff_exists'.1 hcolumns
  rw [hsome]
  intro hempty
  have hlength := congrArg String.length hempty
  simp [initialText, Contents.text, Text.unlines] at hlength

end RecordStore

end TableStore
