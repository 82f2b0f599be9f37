import TableStore.Proofs.Attempts
import TableStore.Proofs.Directories

/-!
# Two file systems with one table in common

Two file systems have in common what lies under some names in a directory.  The same actions on
these files have the same results in both and leave them with the same in common, whatever else the
two file systems hold.

* `Shared` is the relation, and `Shared.alike` says that a path under one of the names means the
  same in both.
* `SameOutcome` compares outcomes.  There is one lemma for each action on files, and from these
  follow `sameOutcome_run` for the calls of a storage node and `sameOutcome_call` for calls through
  registries.
-/

namespace TableStore

open TableStore.Path (IsName)

/-- Two outcomes are the same, and the files afterwards are related. -/
def SameOutcome {α : Type} (R : FileSystem → FileSystem → Prop)
    (outcome outcome' : α × FileSystem) : Prop :=
  outcome'.1 = outcome.1 ∧ R outcome.2 outcome'.2

theorem SameOutcome.exists {α : Type} {R : FileSystem → FileSystem → Prop}
    {outcome outcome' : α × FileSystem} (h : SameOutcome R outcome outcome') :
    ∃ reply after after', outcome = (reply, after) ∧ outcome' = (reply, after') ∧ R after after' :=
  ⟨outcome.1, outcome.2, outcome'.2, rfl, Prod.ext h.1 rfl, h.2⟩

namespace FileSystem

/-! ## Paths of names in a directory -/

/-- A path leads to a name in the directory of another path. -/
structure LiesIn (dir path : Path) (name : String) : Prop where
  last : path.getLast? = some name
  isName : IsName name
  leads : ∀ fs : FileSystem, fs.walk (start path) path.dropLast = fs.walk (start dir) dir

theorem liesIn_join (dir : Path) {name : String} (hname : IsName name) :
    LiesIn dir (dir.join [name]) name :=
  ⟨RecordStore.getLast?_join, hname, fun fs => walk_join fs dir name⟩

/-- The temporary file of a store lies where the store's file does. -/
theorem liesIn_scratchPath {store : RecordStore} {dir : Path} {name : String}
    (hpath : store.path = dir.join [name]) (hname : IsName name) (scratch : Uuid) :
    LiesIn dir (store.scratchPath scratch) (RecordStore.scratchName scratch name) where
  last := RecordStore.getLast?_scratchPath scratch (by rw [hpath]; exact RecordStore.getLast?_join)
    hname
  isName := RecordStore.isName_scratchName scratch name
  leads fs := by
    rw [RecordStore.scratchPath, Path.sibling, walk_join, hpath, walk_parent fs dir hname]

section

variable {dir path place : Path} {name : String} {fs fs' : FileSystem}

/-- The path leads to the name in the directory, unless its text goes too far. -/
theorem LiesIn.locate (h : LiesIn dir path name) (hwalk : fs.walk (start dir) dir = .ok place)
    (hwalkable : Walkable path) : fs.locate path = .ok ⟨place, some name, false⟩ := by
  obtain ⟨hne, hdot, hdots⟩ := h.isName
  have hleads := h.leads fs
  obtain ⟨front, hpath⟩ := List.getLast?_eq_some_iff.1 h.last
  have hfront : path.dropEndWhile (· = "") = path := by
    simp [hpath, Path.dropEndWhile, hne]
  rw [locate_of_walkable fs hwalkable, hfront, h.last]
  simp [hdot, hdots, hleads, hwalk, Except.map, hne]

/-- A path whose text goes too far leads nowhere, for a reason that is independent of the files. -/
theorem locate_of_not_walkable (fs fs' : FileSystem) (h : ¬ Walkable path) :
    fs'.locate path = fs.locate path := by
  unfold FileSystem.locate
  split
  · rfl
  · next hzero =>
    split
    · rfl
    · next hshort =>
      split
      · rfl
      · next hempty => exact absurd ⟨by simpa using hzero, Nat.lt_of_not_le hshort, hempty⟩ h

end

/-! ## What is in common -/

/-- Both file systems have the directory of the path `dir` at the same place, and hold the same
there under the given names.  Wherever one of them has files under these names, both have them. -/
structure Shared (dir place : Path) (names : String → Prop) (fs fs' : FileSystem) : Prop where
  faults : fs'.faults = fs.faults
  scratch : fs'.scratch = fs.scratch
  made : fs.Made dir ∧ fs'.Made dir
  first : fs.walk (start dir) dir = .ok place
  second : fs'.walk (start dir) dir = .ok place
  entries : ∀ name, names name →
    fs'.entries.get? (place ++ [name]) = fs.entries.get? (place ++ [name])
  files : SameFiles names fs fs'

namespace Shared

variable {dir path place : Path} {names : String → Prop} {name : String} {fs fs' : FileSystem}

/-- A directory that is there is shared with itself. -/
theorem refl (names : String → Prop) (hmade : fs.Made dir)
    (h : fs.walk (start dir) dir = .ok place) : Shared dir place names fs fs :=
  ⟨rfl, rfl, ⟨hmade, hmade⟩, h, h, fun _ _ => rfl, .refl _ _⟩

/-- What is done under other names in one of the file systems changes nothing in common. -/
theorem of_confined (h : Shared dir place names fs fs') {others : List String} {after : FileSystem}
    (hconfined : Confined others fs after) (hout : ∀ name ∈ others, ¬ names name) :
    Shared dir place names after fs' where
  faults := h.faults.trans hconfined.forth.faults.symm
  scratch := h.scratch.trans hconfined.forth.scratch.symm
  made := ⟨h.made.1.mono hconfined.forth.directories, h.made.2⟩
  first := walk_mono hconfined.forth.directories h.first
  second := h.second
  entries name hname := by
    rw [h.entries name hname]
    refine (hconfined.entry fun other hother hlast => hout other hother ?_).symm
    obtain rfl : name = other := by simpa using hlast
    exact hname
  files := by
    refine .trans (fun other name hlast hname content => ?_) h.files
    rw [hconfined.entry fun taken htaken heq => hout taken htaken ?_]
    obtain rfl : name = taken := Option.some.inj (hlast.symm.trans heq)
    exact hname

/-- A path of one of the names means the same in both. -/
theorem alike (h : Shared dir place names fs fs') (hpath : LiesIn dir path name)
    (hname : names name) : Alike path fs fs' where
  faults := h.faults
  locate := by
    by_cases hwalkable : Walkable path
    · rw [hpath.locate h.first hwalkable, hpath.locate h.second hwalkable]
    · exact locate_of_not_walkable fs fs' hwalkable
  entry location hlocate := by
    rw [hpath.locate h.first (walkable_of_locate hlocate)] at hlocate
    obtain rfl := Except.ok.inj hlocate
    exact h.entries name hname

/-- A path that is opened for writing leads to its name, which no directory has. -/
theorem opened (h : Shared dir place names fs fs') (hpath : LiesIn dir path name)
    (hname : names name) {action : FileAction} {reached : Path} {content : ByteArray}
    (hopen : fs.openForWriting action path = .ok (reached, content)) :
    reached = place ++ [name] ∧ ¬ fs.HasDirectory (place ++ [name]) ∧
      ¬ fs'.HasDirectory (place ++ [name]) := by
  obtain ⟨front, last, hlocate, rfl, -, hfree, -⟩ := openForWriting_ok hopen
  rw [hpath.locate h.first (walkable_of_locate hlocate)] at hlocate
  obtain ⟨rfl, rfl⟩ : place = front ∧ name = last := by simpa using hlocate
  refine ⟨rfl, hfree, ?_⟩
  rwa [HasDirectory, h.entries name hname]

theorem set (h : Shared dir place names fs fs') (content : ByteArray)
    (hfree : ¬ fs.HasDirectory (place ++ [name])) (hfree' : ¬ fs'.HasDirectory (place ++ [name])) :
    Shared dir place names (fs.set (place ++ [name]) (.file content))
      (fs'.set (place ++ [name]) (.file content)) where
  faults := h.faults
  scratch := h.scratch
  made := ⟨h.made.1.mono (confined_set content hfree).forth.directories,
    h.made.2.mono (confined_set content hfree').forth.directories⟩
  first := walk_set hfree h.first
  second := walk_set hfree' h.second
  entries other hother := by
    simp only [FileSystem.set, KeyMap.get?_insert, h.entries other hother]
  files other last hlast hname held := by
    simp only [FileSystem.set, KeyMap.get?_insert]
    split
    · rfl
    · exact h.files other last hlast hname held

theorem unset (h : Shared dir place names fs fs') (hfree : ¬ fs.HasDirectory (place ++ [name]))
    (hfree' : ¬ fs'.HasDirectory (place ++ [name])) :
    Shared dir place names (fs.unset (place ++ [name])) (fs'.unset (place ++ [name])) where
  faults := h.faults
  scratch := h.scratch
  made := ⟨h.made.1.mono (confined_unset hfree).forth.directories,
    h.made.2.mono (confined_unset hfree').forth.directories⟩
  first := walk_mono (confined_unset hfree).forth.directories h.first
  second := walk_mono (confined_unset hfree').forth.directories h.second
  entries other hother := by
    simp only [FileSystem.unset, KeyMap.get?_erase, h.entries other hother]
  files other last hlast hname held := by
    simp only [FileSystem.unset, KeyMap.get?_erase]
    split
    · rfl
    · exact h.files other last hlast hname held

/-! ## Actions on files -/

/-- Where a file was opened in both, the same is written, however much of it. -/
theorem fill (h : Shared dir place names fs fs') (held content : ByteArray)
    (hfree : ¬ fs.HasDirectory (place ++ [name])) (hfree' : ¬ fs'.HasDirectory (place ++ [name])) :
    SameOutcome (Shared dir place names) (fs.fill (place ++ [name]) held content)
      (fs'.fill (place ++ [name]) held content) := by
  have hfault : fs'.fault? .fill (place ++ [name]) = fs.fault? .fill (place ++ [name]) := by
    simp only [FileSystem.fault?, h.faults]
  unfold FileSystem.fill
  rw [hfault]
  cases fs.fault? .fill (place ++ [name]) with
  | some fault => exact ⟨rfl, h.set _ hfree hfree'⟩
  | none => exact ⟨rfl, h.set _ hfree hfree'⟩

section

variable (h : Shared dir place names fs fs') (hpath : LiesIn dir path name) (hname : names name)
include h hpath hname

theorem writeBytes (content : ByteArray) : SameOutcome (Shared dir place names)
    (fs.writeBytes path content) (fs'.writeBytes path content) := by
  unfold FileSystem.writeBytes
  rw [(h.alike hpath hname).openForWriting]
  cases hopen : fs.openForWriting .create path with
  | error cause => exact ⟨rfl, h⟩
  | ok opened =>
    obtain ⟨hreached, hfree, hfree'⟩ := h.opened hpath hname hopen
    simp only [hreached]
    exact h.fill _ _ hfree hfree'

theorem appendText (text : String) : SameOutcome (Shared dir place names)
    (fs.appendText path text) (fs'.appendText path text) := by
  unfold FileSystem.appendText
  rw [(h.alike hpath hname).openForWriting]
  cases hopen : fs.openForWriting .append path with
  | error cause => exact ⟨rfl, h⟩
  | ok opened =>
    obtain ⟨hreached, hfree, hfree'⟩ := h.opened hpath hname hopen
    simp only [hreached]
    exact h.fill _ _ hfree hfree'

theorem removeFile : Shared dir place names (fs.removeFile path) (fs'.removeFile path) := by
  have halike := h.alike hpath hname
  unfold FileSystem.removeFile
  rw [halike.locate]
  cases hlocate : fs.locate path with
  | error cause => exact h
  | ok location =>
    simp only [halike.lookUp hlocate]
    rw [hpath.locate h.first (walkable_of_locate hlocate)] at hlocate
    obtain rfl := Except.ok.inj hlocate
    split
    · next content hlook =>
      have hheld : fs.entries.get? (place ++ [name]) = some (.file content) := lookUp_file hlook
      have hfree : ¬ fs.HasDirectory (place ++ [name]) := by simp [HasDirectory, hheld]
      have hfree' : ¬ fs'.HasDirectory (place ++ [name]) := by
        rwa [HasDirectory, h.entries name hname]
      exact h.unset hfree hfree'
    · exact h

theorem rename {target : Path} {other : String} (htarget : LiesIn dir target other)
    (hother : names other) : SameOutcome (Shared dir place names) (fs.rename path target)
      (fs'.rename path target) := by
  have hsource := h.alike hpath hname
  have hgoal := h.alike htarget hother
  unfold FileSystem.rename
  rw [hsource.locate, hgoal.locate]
  cases hfrom : fs.locate path with
  | error cause => exact ⟨rfl, h⟩
  | ok location =>
    cases hto : fs.locate target with
    | error cause => exact ⟨rfl, h⟩
    | ok location' =>
      simp only [hsource.fault?, hsource.lookUp hfrom, hgoal.lookUp hto]
      rw [hpath.locate h.first (walkable_of_locate hfrom)] at hfrom
      rw [htarget.locate h.first (walkable_of_locate hto)] at hto
      obtain rfl := Except.ok.inj hfrom
      obtain rfl := Except.ok.inj hto
      split
      · exact ⟨rfl, h⟩
      · split
        · exact ⟨rfl, h⟩
        · exact ⟨rfl, h⟩
        · exact ⟨rfl, h⟩
        · exact ⟨rfl, h⟩
        · exact ⟨rfl, h⟩
        · next content entry hne hlook hlook' =>
          have hheld : fs.entries.get? (place ++ [name]) = some (.file content) := lookUp_file hlook
          have hfree : ¬ fs.HasDirectory (place ++ [name]) := by simp [HasDirectory, hheld]
          have hfree' : ¬ fs'.HasDirectory (place ++ [name]) := by
            rwa [HasDirectory, h.entries name hname]
          obtain ⟨-, hgone⟩ := lookUp_not_directory hlook' hne
          have hgone' : ¬ fs'.HasDirectory (place ++ [other]) := by
            rwa [HasDirectory, h.entries other hother]
          exact ⟨rfl, (h.unset hfree hfree').set content (not_hasDirectory_unset hgone _)
            (not_hasDirectory_unset hgone' _)⟩

end

end Shared

end FileSystem

open FileSystem (Shared LiesIn)

/-! ## Calls of storage nodes -/

section

variable {dir place : Path} {names : String → Prop} {name : String} {fs fs' : FileSystem}
  {store : RecordStore} (h : Shared dir place names fs fs') (hpath : store.path = dir.join [name])
  (hisName : IsName name) (hname : names name)
include h hpath hisName hname

theorem RecordStore.contents_congr : store.contents fs' = store.contents fs := by
  have halike := h.alike (hpath ▸ FileSystem.liesIn_join dir hisName) hname
  rw [RecordStore.contents, RecordStore.contents, halike.readText]

/-- New contents are put in the place of a file in both file systems, or in none. -/
theorem RecordStore.sameOutcome_replace {α : Type} (hscratch : names (scratchName fs.scratch name))
    (contents : Contents) (value : α) : SameOutcome (Shared dir place names)
      (store.replace contents value fs) (store.replace contents value fs') := by
  have hstore : LiesIn dir store.path name := hpath ▸ FileSystem.liesIn_join dir hisName
  have htemp := FileSystem.liesIn_scratchPath hpath hisName fs.scratch
  obtain ⟨written, after, after', hfirst, hsecond, hafter⟩ :=
    (h.writeBytes htemp hscratch contents.text.toUTF8).exists
  unfold replace
  simp only [h.scratch, hfirst, hsecond]
  cases written with
  | error cause => exact ⟨rfl, hafter.removeFile htemp hscratch⟩
  | ok _ =>
    obtain ⟨renamed, last, last', hfirst, hsecond, hlast⟩ :=
      (hafter.rename htemp hscratch hstore hname).exists
    simp only [hfirst, hsecond]
    cases renamed with
    | error cause => exact ⟨rfl, hlast.removeFile htemp hscratch⟩
    | ok _ => exact ⟨rfl, hlast⟩

end

section

variable {dir place : Path} {names : String → Prop} {name : String} {fs fs' : FileSystem}
  {node : StorageNode} {kind : ReplyKind}

/-- **A node does the same for a call in both file systems.** -/
theorem sameOutcome_run (h : Shared dir place names fs fs')
    (hpath : node.store.path = dir.join [name]) (hisName : IsName name) (hname : names name)
    (hscratch : names (RecordStore.scratchName fs.scratch name)) (call : NodeCall kind) :
    SameOutcome (Shared dir place names) (node.run call fs) (node.run call fs') := by
  have hreads : call.reads = true →
      SameOutcome (Shared dir place names) (node.run call fs) (node.run call fs') := by
    intro hcall
    rw [StorageNode.run_of_reads hcall, StorageNode.run_of_reads hcall,
      RecordStore.contents_congr h hpath hisName hname]
    cases node.store.contents fs with
    | error e => exact ⟨rfl, h⟩
    | ok contents =>
      simp only
      split
      · exact ⟨rfl, h⟩
      · exact RecordStore.sameOutcome_replace h hpath hisName hname hscratch _ _
  cases call with
  | insert columns values =>
    obtain ⟨reply, after, after', hfirst, hsecond, hafter⟩ :=
      (h.appendText (hpath ▸ FileSystem.liesIn_join dir hisName) hname
        (Row.compose node.store.columns columns values ++ "\n")).exists
    simp only [StorageNode.run, RecordStore.insert, hfirst, hsecond]
    cases reply with
    | error cause => exact ⟨rfl, hafter⟩
    | ok _ => exact ⟨rfl, hafter⟩
  | heartbeat => exact ⟨rfl, h⟩
  | _ => exact hreads rfl

end

/-! ## Creation of nodes -/

section

variable {dir place : Path} {names : String → Prop} {fs fs' : FileSystem} {id : ReplicaId}

/-- A node whose directory is there is created by writing its file. -/
theorem StorageNode.create_of_made (hmade : fs.Made dir) (hvalid : id.IsValid)
    (columns : Option (List String)) : StorageNode.create id dir columns fs =
      match fs.writeBytes (dir.join [id.fileName]) (RecordStore.initialText columns).toUTF8 with
      | (.error cause, fs) => (.error (.io cause), fs)
      | (.ok (), fs) => (.ok ⟨id, dir.join [id.fileName], columns⟩, fs) := by
  have hparent := (hmade.parent (ReplicaId.isName_fileName id)).createDirectories
  rw [StorageNode.create, ReplicaId.ofText_fileName hvalid, RecordStore.create, hparent]
  simp only
  cases fs.writeBytes (dir.join [id.fileName]) (RecordStore.initialText columns).toUTF8 with
  | mk reply after => cases reply <;> rfl

/-- Creating a node whose directory is there changes nothing under other names. -/
theorem confined_createNode (hmade : fs.Made dir) (hvalid : id.IsValid)
    (columns : Option (List String)) :
    FileSystem.Confined [id.fileName] fs (StorageNode.create id dir columns fs).2 := by
  have hlast : (dir.join [id.fileName]).getLast? = some id.fileName := RecordStore.getLast?_join
  have hwrite := FileSystem.confined_writeBytes fs (RecordStore.initialText columns).toUTF8 hlast
    (ReplicaId.isName_fileName id)
  rw [StorageNode.create_of_made hmade hvalid]
  split <;> rename_i heq <;> rw [heq] at hwrite <;> exact hwrite

/-- **A node is created alike in both file systems.** -/
theorem sameOutcome_createNode (h : Shared dir place names fs fs') (hvalid : id.IsValid)
    (hname : names id.fileName) (columns : Option (List String)) :
    SameOutcome (Shared dir place names) (StorageNode.create id dir columns fs)
      (StorageNode.create id dir columns fs') := by
  obtain ⟨reply, after, after', hfirst, hsecond, hafter⟩ :=
    (h.writeBytes (FileSystem.liesIn_join dir (ReplicaId.isName_fileName id)) hname
      (RecordStore.initialText columns).toUTF8).exists
  rw [StorageNode.create_of_made h.made.1 hvalid, StorageNode.create_of_made h.made.2 hvalid,
    hfirst, hsecond]
  cases reply with
  | error cause => exact ⟨rfl, hafter⟩
  | ok _ => exact ⟨rfl, hafter⟩

end

/-! ## Calls through registries -/

/-- Calls are carried out in the same way by both registries: in the process, or over the same
network. -/
def Registry.SameWay : Registry → Registry → Prop
  | inProcess _, inProcess _ => True
  | networked _ link attempts, networked _ link' attempts' => link' = link ∧ attempts' = attempts
  | _, _ => False

namespace Registry.SameWay

variable {first second : Registry}

theorem refl (registry : Registry) : SameWay registry registry := by
  cases registry with
  | inProcess nodes => trivial
  | networked host link attempts => exact ⟨rfl, rfl⟩

theorem register (h : first.SameWay second) (node : StorageNode) :
    (first.register node).SameWay second ∧ first.SameWay (second.register node) := by
  cases first <;> cases second <;> exact ⟨h, h⟩

theorem unregister (h : first.SameWay second) (id : ReplicaId) :
    (first.unregister id).SameWay second ∧ first.SameWay (second.unregister id) := by
  cases first <;> cases second <;> exact ⟨h, h⟩

end Registry.SameWay

section

variable {R : FileSystem → FileSystem → Prop} {fs fs' : FileSystem} {kind : ReplyKind}
  {call : NodeCall kind}

theorem sameOutcome_answer {node : StorageNode}
    (h : SameOutcome R (node.run call fs) (node.run call fs')) :
    SameOutcome R (node.answer call fs) (node.answer call fs') := by
  obtain ⟨reply, after, after', hfirst, hsecond, hafter⟩ := h.exists
  simp only [StorageNode.answer, hfirst, hsecond]
  cases reply with
  | error e => exact ⟨rfl, hafter⟩
  | ok value => exact ⟨rfl, hafter⟩

/-- A request is sent as often to both hosts, and brings the same response, if they serve it
alike. -/
theorem sameOutcome_send {host host' : NodeHost} {request : Http.Request}
    (hserve : ∀ fs fs', R fs fs' → SameOutcome R (host.serve request fs) (host'.serve request fs'))
    (link : Link) (attempt count : Nat) (h : R fs fs') :
    SameOutcome R (NodeClient.send host link request attempt count fs)
      (NodeClient.send host' link request attempt count fs') := by
  induction count generalizing attempt fs fs' with
  | zero => exact ⟨rfl, h⟩
  | succ count ih =>
    obtain ⟨response, after, after', hfirst, hsecond, hafter⟩ := (hserve fs fs' h).exists
    simp only [NodeClient.send, hfirst, hsecond]
    cases link attempt with
    | lost => exact ih (attempt + 1) h
    | unanswered => exact ih (attempt + 1) hafter
    | answered => exact ⟨rfl, hafter⟩

/-- **A call on a replica comes to the same through both registries**, if they have the same node
for it and the node does the same in both file systems. -/
theorem sameOutcome_call {first second : Registry} (hway : first.SameWay second) {id : ReplicaId}
    (hvalid : id.IsValid) (hget : second.get? id = first.get? id)
    (hrun : ∀ node, first.get? id = some node → ∀ fs fs', R fs fs' →
      SameOutcome R (node.run call fs) (node.run call fs')) (h : R fs fs') :
    SameOutcome R (first.call id call fs) (second.call id call fs') := by
  cases first <;> cases second <;> try exact hway.elim
  · next nodes nodes' =>
    simp only [Registry.get?] at hget hrun
    simp only [Registry.call, hget]
    cases hnode : nodes.get? id with
    | none => exact ⟨rfl, h⟩
    | some node => exact sameOutcome_answer (hrun node hnode fs fs' h)
  · next host link attempts host' link' attempts' =>
    obtain ⟨rfl, rfl⟩ := hway
    simp only [Registry.get?] at hget hrun
    have hserve : ∀ fs fs', R fs fs' →
        SameOutcome R (host.serve ((NodeClient.create "" id.text attempts').request call) fs)
          (host'.serve ((NodeClient.create "" id.text attempts').request call) fs') := by
      intro fs fs' h
      rcases serve_request (.create "" id.text attempts') hvalid rfl call with
        hcall | ⟨status, -, -, -, -, hbare⟩
      · rw [hcall, hcall, NodeHost.call, NodeHost.call, hget]
        cases hnode : host.nodes.get? id.text with
        | none => exact ⟨rfl, h⟩
        | some node =>
          obtain ⟨reply, after, after', hfirst, hsecond, hafter⟩ :=
            (sameOutcome_answer (hrun node hnode fs fs' h)).exists
          simp only [hfirst, hsecond]
          cases reply with
          | error e => exact ⟨rfl, hafter⟩
          | ok value => exact ⟨rfl, hafter⟩
      · rw [hbare, hbare]
        exact ⟨rfl, h⟩
    obtain ⟨response, after, after', hfirst, hsecond, hafter⟩ := (sameOutcome_send hserve link' 0
      ((NodeClient.create "" id.text attempts').attemptsFor call) h).exists
    simp only [Registry.call, NodeClient.call, hfirst, hsecond]
    cases response with
    | none => exact ⟨rfl, hafter⟩
    | some response => exact ⟨rfl, hafter⟩

end

end TableStore
