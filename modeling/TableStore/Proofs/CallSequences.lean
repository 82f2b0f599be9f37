import TableStore.Proofs.SharedFiles
import TableStore.Proofs.Transports

/-!
# Calls one after another

A write makes its calls one after another, and each of them finds the files as the earlier ones have
left them.  The nodes of different replicas write under different names, so that every call comes to
what it would have come to alone: it has the same answer, and leaves the same file.

* `Aside dir ids` is what calls on the replicas `ids` can do to the files in the directory of the
  path `dir`.  Either the directory is there, and files change under the names of these replicas
  only; or it is not there, and then nothing changes at all.
* `Aside.call` says that such a change does not matter to a call on another replica.
* `Task` is a call with the node that it is meant for, and `makeCalls` makes a list of them.
  `makeCalls_spec` gives the summary and the files in terms of the calls made alone.
* `carryOut_eq_makeCalls` says that every plan is carried out in this way.

All this is about nodes that are called directly.
-/

namespace TableStore

open FileSystem (Confined Outcome Shared)
open TableStore.Path (IsName)

/-! ## Directories that are not there -/

theorem Path.text_concat {front : Path} (hne : front ≠ []) (name : String) :
    Path.text (front ++ [name]) = Path.text front ++ "/" ++ name := by
  rw [Path.text, String.intercalate_append_of_ne_nil hne (by simp),
    String.intercalate_singleton]
  rfl

namespace FileSystem

variable {fs : FileSystem} {dir : Path} {name : String}

/-- A path that can be walked as far as its text goes lies in a directory whose path can. -/
theorem Walkable.of_join (h : Walkable (dir.join [name])) (hdir : dir.trimEnd ≠ []) :
    Walkable dir := by
  have hnil : dir ≠ [] := by
    rintro rfl
    exact hdir rfl
  have hroot : dir ≠ [""] := by
    rintro rfl
    exact hdir rfl
  rcases Path.join_name dir name with ⟨hjoin, -⟩ | ⟨front, rfl, hjoin⟩
  · rw [hjoin] at h
    exact h.front hnil hroot
  · -- the slash at the end of the path is followed by the name
    rw [hjoin] at h
    have hfront : front ≠ [] := by
      rintro rfl
      exact hroot rfl
    obtain ⟨hzero, hshort, -⟩ := h
    rw [Path.text_concat hfront] at hshort
    refine ⟨?_, ?_, not_or.2 ⟨hnil, hroot⟩⟩
    · rw [List.any_append, Bool.or_eq_false_iff] at hzero ⊢
      exact ⟨hzero.1, rfl⟩
    · rw [Path.text_concat hfront]
      simp only [String.utf8ByteSize_append] at hshort ⊢
      have hempty : "".utf8ByteSize = 0 := rfl
      omega

/-- A file can only be located in a directory that is there. -/
theorem made_of_locate (hname : IsName name) {location : Location}
    (h : fs.locate (dir.join [name]) = .ok location) : fs.Made dir := by
  by_cases htrim : dir.trimEnd = []
  · exact Or.inl htrim
  have hwalkable := walkable_of_locate h
  refine Or.inr (isDirectory_iff.2 ⟨hwalkable.of_join htrim, ?_⟩)
  obtain ⟨hne, hdot, hdots⟩ := hname
  have hlast : (dir.join [name]).getLast? = some name := RecordStore.getLast?_join
  have hfront : (dir.join [name]).dropEndWhile (· = "") = dir.join [name] := by
    obtain ⟨front, hpath⟩ := List.getLast?_eq_some_iff.1 hlast
    simp [hpath, Path.dropEndWhile, hne]
  rw [locate_of_walkable fs hwalkable, hfront, hlast] at h
  simp only [hdot, hdots, or_self, if_false, walk_join] at h
  cases hreached : fs.walk (start dir) dir with
  | ok place => exact ⟨place, rfl⟩
  | error cause => simp [hreached, Except.map] at h

/-- What is done under other names in a directory that is there does not matter to a file in it. -/
theorem find_of_confined {fs' : FileSystem} {names : List String}
    (hconfined : Confined names fs fs') (hmade : fs.Made dir ∨ fs' = fs) (hname : IsName name)
    (hout : name ∉ names) : fs'.find (dir.join [name]) = fs.find (dir.join [name]) := by
  rcases hmade with hmade | rfl
  · obtain ⟨place, hwalk⟩ := hmade.walk
    have hshared : Shared dir place (· = name) fs' fs :=
      (Shared.refl _ hmade hwalk).of_confined hconfined fun other hother heq =>
        hout (heq ▸ hother)
    exact (hshared.alike (liesIn_join dir hname) rfl).find.symm
  · rfl

end FileSystem

/-- A node whose file cannot be located changes nothing. -/
theorem StorageNode.files_run_of_locate_error {node : StorageNode} {fs : FileSystem}
    {cause : IoError} (h : fs.locate node.store.path = .error cause) {kind : ReplyKind}
    (call : NodeCall kind) : (node.run call fs).2 = fs := by
  have hreads : call.reads = true → (node.run call fs).2 = fs := by
    intro hcall
    have hread : fs.readText node.store.path = .error cause := by
      simp only [FileSystem.readText, FileSystem.readBytes, h]
    rw [StorageNode.run_of_reads hcall]
    by_cases hmissing : cause = .notFound
    · subst hmissing
      have hcontents : node.store.contents fs = .ok ⟨none, []⟩ := by
        simp only [RecordStore.contents, hread]
      simp only [hcontents, NodeCall.isIdle_nil hcall, if_true]
    · have hcontents : node.store.contents fs = .error (.io cause) := by
        simp only [RecordStore.contents, hread]
      rw [hcontents]
  cases call with
  | insert names values =>
    simp only [run, RecordStore.insert, FileSystem.appendText, FileSystem.openForWriting, h]
  | heartbeat => rfl
  | _ => exact hreads rfl

/-! ## Calls that fail -/

/-- What the file of a store contains after a call that has begun to write a row and fails: the part
of the row that was written, behind what was there.  There is no such content if the call does not
come to write a row, or does not fail. -/
def NodeCall.begun? {kind : ReplyKind} (call : NodeCall kind) (store : RecordStore)
    (fs : FileSystem) : Option ByteArray :=
  match call with
  | .insert names values =>
    match fs.openForWriting .append store.path with
    | .error _ => none
    | .ok (place, held) => (fs.fault? .fill place).map fun fault =>
        held ++ (Row.compose store.columns names values ++ "\n").toUTF8.extract 0 fault.written
  | _ => none

section

variable {dir : Path} {name : String} {fs fs' : FileSystem} {e : StoreError}

/-- Where new contents could not be put in the place of a file, only the temporary file was
concerned. -/
theorem RecordStore.confined_replace_of_error {store : RecordStore} {α : Type}
    {contents : Contents} {value : α} (hlast : store.path.getLast? = some name)
    (hname : IsName name) (h : store.replace contents value fs = (.error e, fs')) :
    Confined [scratchName fs.scratch name] fs fs' := by
  have hscratch := getLast?_scratchPath fs.scratch hlast hname
  have hisName := isName_scratchName fs.scratch name
  have hwrite := FileSystem.confined_writeBytes fs contents.text.toUTF8 hscratch hisName
  unfold replace at h
  simp only at h
  split at h <;> rename_i heq <;> rw [heq] at hwrite
  · obtain rfl : _ = fs' := congrArg Prod.snd h
    exact hwrite.trans (FileSystem.confined_removeFile hscratch hisName)
  · next written =>
    rcases FileSystem.rename_cases written hscratch hisName hlast hname with
      ⟨cause, hrename⟩ | ⟨renamed, hrename, -, -⟩
    · rw [hrename] at h
      obtain rfl : _ = fs' := congrArg Prod.snd h
      exact hwrite.trans (FileSystem.confined_removeFile hscratch hisName)
    · rw [hrename] at h
      simp at h

/-- A call that a store could not carry out concerned its temporary file only, unless it had begun
to write a row. -/
theorem RecordStore.confined_run_of_error {node : StorageNode} {kind : ReplyKind}
    {call : NodeCall kind} (hlast : node.store.path.getLast? = some name) (hname : IsName name)
    (hnone : call.begun? node.store fs = none) (h : node.run call fs = (.error e, fs')) :
    Confined [scratchName fs.scratch name] fs fs' := by
  have hreads : call.reads = true → Confined [scratchName fs.scratch name] fs fs' := by
    intro hcall
    rw [StorageNode.run_of_reads hcall] at h
    split at h
    · obtain rfl : fs = fs' := congrArg Prod.snd h
      exact .refl _ _
    · split at h
      · simp at h
      · exact confined_replace_of_error hlast hname h
  cases call with
  | insert names values =>
    simp only [NodeCall.begun?] at hnone
    simp only [StorageNode.run, insert, FileSystem.appendText] at h
    cases hopen : fs.openForWriting .append node.store.path with
    | error cause =>
      simp only [hopen] at h
      obtain rfl : fs = fs' := congrArg Prod.snd h
      exact .refl _ _
    | ok opened =>
      obtain ⟨place, held⟩ := opened
      have hwhole : fs.fault? .fill place = none := by simpa [hopen] using hnone
      simp [hopen, FileSystem.fill, hwhole] at h
  | heartbeat => simp [StorageNode.run] at h
  | _ => exact hreads rfl

/-- A call that fails after it has begun to write a row leaves the part that was written. -/
theorem StorageNode.run_of_begun {node : StorageNode} {kind : ReplyKind} {call : NodeCall kind}
    {content : ByteArray} (h : call.begun? node.store fs = some content) :
    (∃ e, (node.run call fs).1 = .error e) ∧
      (node.run call fs).2.find node.store.path = .ok (some (.file content)) := by
  cases call with
  | insert names values =>
    simp only [NodeCall.begun?] at h
    split at h
    · simp at h
    · next place held hopen =>
      obtain ⟨fault, hfault, rfl⟩ := Option.map_eq_some_iff.1 h
      simp only [run, RecordStore.insert, FileSystem.appendText, hopen, FileSystem.fill, hfault]
      exact ⟨⟨_, rfl⟩, (FileSystem.contains_set_of_openForWriting hopen _).find⟩
  | _ => simp [NodeCall.begun?] at h

end

/-! ## Calls on other replicas -/

/-- What calls on the given replicas can do: files change under their names only, and nothing
changes if the directory of the path `dir` is not there. -/
structure Aside (dir : Path) (ids : List ReplicaId) (fs fs' : FileSystem) : Prop where
  confined : Confined (ids.flatMap fun id => id.names fs.scratch) fs fs'
  made : fs.Made dir ∨ fs' = fs

/-- The node's file lies in the directory of the path `dir`, and is named for a valid replica. -/
structure StorageNode.LivesIn (dir : Path) (node : StorageNode) : Prop where
  valid : node.id.IsValid
  path : node.store.path = dir.join [node.id.fileName]

theorem StorageNode.LivesIn.getLast? {dir : Path} {node : StorageNode} (h : node.LivesIn dir) :
    node.store.path.getLast? = some node.id.fileName := by
  rw [h.path]
  exact RecordStore.getLast?_join

namespace Aside

variable {dir : Path} {ids ids' : List ReplicaId} {fs fs' fs'' : FileSystem} {node : StorageNode}
  {kind : ReplyKind}

theorem refl (dir : Path) (fs : FileSystem) : Aside dir [] fs fs :=
  ⟨.refl _ _, Or.inr rfl⟩

theorem trans (h : Aside dir ids fs fs') (h' : Aside dir ids' fs' fs'') :
    Aside dir (ids ++ ids') fs fs'' where
  confined := by
    rw [List.flatMap_append]
    have hlater := h'.confined
    rw [h.confined.forth.scratch] at hlater
    exact (h.confined.mono fun name hname => List.mem_append_left _ hname).trans
      (hlater.mono fun name hname => List.mem_append_right _ hname)
  made := by
    rcases h.made with hmade | rfl
    · exact Or.inl hmade
    · exact h'.made

/-- A node changes files under its own names. -/
theorem of_run (hnode : node.LivesIn dir) (call : NodeCall kind) (fs : FileSystem) :
    Aside dir [node.id] fs (node.run call fs).2 where
  confined := by
    have hconfined := RecordStore.confined_run call fs hnode.getLast?
      (ReplicaId.isName_fileName node.id)
    exact hconfined.mono fun name hname => by simpa [ReplicaId.names] using hname
  made := by
    cases hlocate : fs.locate node.store.path with
    | ok location =>
      rw [hnode.path] at hlocate
      exact Or.inl (FileSystem.made_of_locate (ReplicaId.isName_fileName node.id) hlocate)
    | error cause => exact Or.inr (StorageNode.files_run_of_locate_error hlocate call)

section

variable (h : Aside dir ids fs fs') (hids : ∀ id ∈ ids, id.IsValid) (hnode : node.LivesIn dir)
  (hout : node.id ∉ ids)
include h hids hnode hout

/-- Nothing has changed that the node has to do with. -/
theorem shared (hmade : fs.Made dir) : ∃ place,
    Shared dir place (fun name => name ∈ node.id.names fs.scratch) fs' fs := by
  obtain ⟨place, hwalk⟩ := hmade.walk
  refine ⟨place, (Shared.refl _ hmade hwalk).of_confined h.confined fun name hname => ?_⟩
  obtain ⟨id, hid, hname⟩ := List.mem_flatMap.1 hname
  have hne : id ≠ node.id := fun heq => hout (heq ▸ hid)
  exact ReplicaId.names_disjoint (hids id hid) hnode.valid hne fs.scratch hname

omit hids in
/-- The node's file is as before. -/
theorem find : fs'.find node.store.path = fs.find node.store.path := by
  rw [hnode.path]
  refine FileSystem.find_of_confined h.confined h.made (ReplicaId.isName_fileName node.id) ?_
  intro hname
  obtain ⟨id, hid, hname⟩ := List.mem_flatMap.1 hname
  have hne : node.id ≠ id := fun heq => hout (heq ▸ hid)
  exact ReplicaId.fileName_notMem_names hnode.valid hne fs.scratch hname

/-- **The node does the same for a call as before**, and leaves the same file. -/
theorem run (call : NodeCall kind) : (node.run call fs').1 = (node.run call fs).1 ∧
    (node.run call fs').2.find node.store.path = (node.run call fs).2.find node.store.path := by
  rcases h.made with hmade | rfl
  · obtain ⟨place, hshared⟩ := h.shared hids hnode hout hmade
    have hisName := ReplicaId.isName_fileName node.id
    have hscratch : RecordStore.scratchName fs'.scratch node.id.fileName ∈
        node.id.names fs.scratch := by
      rw [h.confined.forth.scratch]
      simp [ReplicaId.names]
    obtain ⟨hreply, hafter⟩ := sameOutcome_run hshared hnode.path hisName List.mem_cons_self
      hscratch call
    refine ⟨hreply.symm, ?_⟩
    rw [hnode.path]
    exact (hafter.alike (FileSystem.liesIn_join dir hisName) List.mem_cons_self).find.symm
  · exact ⟨rfl, rfl⟩

end

end Aside

/-- A call that fails leaves the node's file, unless it had begun to write a row. -/
theorem StorageNode.LivesIn.find_run_of_error {dir : Path} {node : StorageNode}
    (hnode : node.LivesIn dir) {kind : ReplyKind} {call : NodeCall kind} {fs fs' : FileSystem}
    {e : StoreError} (hnone : call.begun? node.store fs = none)
    (h : node.run call fs = (.error e, fs')) :
    fs'.find node.store.path = fs.find node.store.path := by
  have hisName := ReplicaId.isName_fileName node.id
  have hmade := (Aside.of_run hnode call fs).made
  rw [h] at hmade
  rw [hnode.path]
  refine FileSystem.find_of_confined
    (RecordStore.confined_run_of_error hnode.getLast? hisName hnone h) hmade hisName fun hmem => ?_
  have hlength := RecordStore.length_scratchName fs.scratch node.id.fileName
  rw [← List.mem_singleton.1 hmem] at hlength
  omega

/-! ## Calls that are made directly -/

namespace Registry

/-- The registered nodes are called directly. -/
def IsDirect : Registry → Prop
  | inProcess _ => True
  | networked _ _ _ => False

instance : ∀ registry : Registry, Decidable registry.IsDirect
  | inProcess _ => inferInstanceAs (Decidable True)
  | networked _ _ _ => inferInstanceAs (Decidable False)

variable {registry : Registry}

theorem IsDirect.register (h : registry.IsDirect) (node : StorageNode) :
    (registry.register node).IsDirect := by
  cases registry with
  | inProcess nodes => exact h
  | networked host link attempts => exact h

theorem IsDirect.unregister (h : registry.IsDirect) (id : ReplicaId) :
    (registry.unregister id).IsDirect := by
  cases registry with
  | inProcess nodes => exact h
  | networked host link attempts => exact h

theorem IsDirect.registerAll (h : registry.IsDirect) (created : List StorageNode) :
    (created.foldl Registry.register registry).IsDirect := by
  induction created generalizing registry with
  | nil => exact h
  | cons node rest ih => exact ih (h.register node)

/-- Nodes that are called directly answer. -/
theorem IsDirect.responds (h : registry.IsDirect) : registry.Responds := by
  cases registry with
  | inProcess nodes => trivial
  | networked host link attempts => exact h.elim

/-- A node is called directly: the registry leads to it, or to no node in its place. -/
structure Leads (registry : Registry) (node : StorageNode) : Prop where
  direct : registry.IsDirect
  registered : registry.get? node.id = none ∨ registry.get? node.id = some node

end Registry

/-- A call that is made directly fails for want of a node, or is answered by the node. -/
theorem Registry.Leads.call_cases {registry : Registry} {node : StorageNode}
    (h : registry.Leads node) {kind : ReplyKind} (call : NodeCall kind) :
    (registry.get? node.id = none ∧ ∀ files : FileSystem,
      registry.call node.id call files = (.error (.unregistered node.id), files)) ∨
    (registry.get? node.id = some node ∧ ∀ files : FileSystem,
      registry.call node.id call files = node.answer call files) := by
  obtain ⟨hdirect, hregistered⟩ := h
  cases registry with
  | networked host link attempts => exact hdirect.elim
  | inProcess nodes =>
    rcases hregistered with hnone | hsome
    · refine Or.inl ⟨hnone, fun files => ?_⟩
      simp only [get?] at hnone
      simp only [Registry.call, hnone]
    · refine Or.inr ⟨hsome, fun files => ?_⟩
      simp only [get?] at hsome
      simp only [Registry.call, hsome]

/-- **A call on another replica comes to the same as before.** -/
theorem Aside.call {dir : Path} {ids : List ReplicaId} {fs fs' : FileSystem} {node : StorageNode}
    (h : Aside dir ids fs fs') (hids : ∀ id ∈ ids, id.IsValid) (hnode : node.LivesIn dir)
    (hout : node.id ∉ ids) {registry : Registry} (hleads : registry.Leads node)
    {kind : ReplyKind} (call : NodeCall kind) :
    (registry.call node.id call fs').1 = (registry.call node.id call fs).1 ∧
      (registry.call node.id call fs').2.find node.store.path =
        (registry.call node.id call fs).2.find node.store.path := by
  rcases hleads.call_cases call with ⟨-, hcall⟩ | ⟨-, hcall⟩
  · rw [hcall, hcall]
    exact ⟨rfl, h.find hnode hout⟩
  · obtain ⟨hreply, hfile⟩ := h.run hids hnode hout call
    rw [hcall, hcall, StorageNode.answer_eq, StorageNode.answer_eq, hreply]
    exact ⟨rfl, hfile⟩

/-- A call changes files under the names of its replica. -/
theorem Aside.of_call {dir : Path} {node : StorageNode} (hnode : node.LivesIn dir)
    {registry : Registry} (hleads : registry.Leads node) {kind : ReplyKind}
    (call : NodeCall kind) (fs : FileSystem) :
    Aside dir [node.id] fs (registry.call node.id call fs).2 := by
  rcases hleads.call_cases call with ⟨-, hcall⟩ | ⟨-, hcall⟩
  · rw [hcall]
    exact ⟨.refl _ _, Or.inr rfl⟩
  · rw [hcall, StorageNode.answer_eq]
    exact .of_run hnode call fs

/-! ## Sequences of calls -/

/-- A call with the node that it is meant for. -/
structure Task where
  node : StorageNode
  call : AnyCall

namespace Task

/-- The replica that is called. -/
def id (task : Task) : ReplicaId := task.node.id

/-- What comes of the call if no other is made. -/
def alone (cluster : Cluster) (task : Task) : Outcome CallError task.call.1.Value :=
  cluster.registry.call task.id task.call.2 cluster.files

/-- Why the call fails if no other is made. -/
def error? (cluster : Cluster) (task : Task) : Option CallError :=
  match (task.alone cluster).1 with
  | .ok _ => none
  | .error e => some e

/-- The task is for a node that is called directly and has its file in the directory of the path
`dir`. -/
structure Fit (dir : Path) (registry : Registry) (task : Task) : Prop where
  livesIn : task.node.LivesIn dir
  leads : registry.Leads task.node

end Task

/-- The summary of one call. -/
def Summary.ofReply {α : Type} (id : ReplicaId) : Except CallError α → Summary
  | .ok _ => empty.recordSuccess
  | .error e => empty.recordFailure id e

/-- Makes the calls one after another. -/
def makeCalls (registry : Registry) : List Task → FileSystem → Summary × FileSystem
  | [], files => (.empty, files)
  | task :: rest, files =>
    let first := task.alone ⟨registry, files⟩
    let others := makeCalls registry rest first.2
    ((Summary.ofReply task.id first.1).merge others.1, others.2)

/-- The summary of calls each of which is made alone. -/
def summaryAlone (cluster : Cluster) (tasks : List Task) : Summary where
  succeeded := (tasks.filter fun task => (task.error? cluster).isNone).length
  total := tasks.length
  failures := tasks.filterMap fun task =>
    (task.error? cluster).map fun e => ⟨task.id.text, e⟩

theorem makeCalls_append (registry : Registry) (tasks tasks' : List Task) (files : FileSystem) :
    makeCalls registry (tasks ++ tasks') files =
      ((makeCalls registry tasks files).1.merge
          (makeCalls registry tasks' (makeCalls registry tasks files).2).1,
        (makeCalls registry tasks' (makeCalls registry tasks files).2).2) := by
  induction tasks generalizing files with
  | nil => simp [makeCalls, Summary.merge, Summary.empty]
  | cons task rest ih =>
    simp only [List.cons_append, makeCalls, ih, Summary.merge_assoc]

theorem summaryAlone_cons (cluster : Cluster) (task : Task) (rest : List Task) :
    summaryAlone cluster (task :: rest) =
      (Summary.ofReply task.id (task.alone cluster).1).merge (summaryAlone cluster rest) := by
  cases hreply : (task.alone cluster).1 with
  | ok value =>
    simp [summaryAlone, Task.error?, hreply, Summary.ofReply, Summary.merge,
      Summary.recordSuccess, Summary.empty, Nat.add_comm]
  | error e =>
    simp [summaryAlone, Task.error?, hreply, Summary.ofReply, Summary.merge,
      Summary.recordFailure, Summary.empty, Nat.add_comm]

section

variable {dir : Path} {registry : Registry}

/-- Calls on other replicas do not matter to a list of tasks. -/
theorem summaryAlone_congr {ids : List ReplicaId} {files files' : FileSystem}
    (h : Aside dir ids files files') (hids : ∀ id ∈ ids, id.IsValid) {tasks : List Task}
    (hfit : ∀ task ∈ tasks, task.Fit dir registry) (hout : ∀ task ∈ tasks, task.id ∉ ids) :
    summaryAlone ⟨registry, files'⟩ tasks = summaryAlone ⟨registry, files⟩ tasks := by
  induction tasks with
  | nil => rfl
  | cons task rest ih =>
    obtain ⟨hfirst, hfit⟩ := List.forall_mem_cons.1 hfit
    obtain ⟨hfresh, hout⟩ := List.forall_mem_cons.1 hout
    have hreply : (task.alone ⟨registry, files'⟩).1 = (task.alone ⟨registry, files⟩).1 :=
      (h.call hids hfirst.livesIn hfresh hfirst.leads task.call.2).1
    rw [summaryAlone_cons, summaryAlone_cons, hreply, ih hfit hout]

/-- **Calls that are made one after another come to what each comes to alone.**  This is so for
their summary and for the file of every replica that is called; no other replica is concerned. -/
theorem makeCalls_spec {tasks : List Task} (hfit : ∀ task ∈ tasks, task.Fit dir registry)
    (hnodup : (tasks.map Task.id).Nodup) (files : FileSystem) :
    (makeCalls registry tasks files).1 = summaryAlone ⟨registry, files⟩ tasks ∧
      Aside dir (tasks.map Task.id) files (makeCalls registry tasks files).2 ∧
      ∀ task ∈ tasks, (makeCalls registry tasks files).2.find task.node.store.path =
        (task.alone ⟨registry, files⟩).2.find task.node.store.path := by
  induction tasks generalizing files with
  | nil => exact ⟨rfl, .refl dir files, by simp⟩
  | cons task rest ih =>
    obtain ⟨hfirst, hfit⟩ := List.forall_mem_cons.1 hfit
    obtain ⟨hfresh, hnodup⟩ := List.nodup_cons.1 hnodup
    have hhead : ∀ id ∈ [task.id], id.IsValid := by
      intro id hid
      exact List.mem_singleton.1 hid ▸ hfirst.livesIn.valid
    have hrest : ∀ id ∈ rest.map Task.id, id.IsValid := by
      intro id hid
      obtain ⟨other, hother, rfl⟩ := List.mem_map.1 hid
      exact (hfit other hother).livesIn.valid
    have hne : ∀ other ∈ rest, other.id ∉ [task.id] := by
      intro other hother heq
      exact hfresh (List.mem_singleton.1 heq ▸ List.mem_map_of_mem hother)
    have haside : Aside dir [task.id] files (task.alone ⟨registry, files⟩).2 :=
      .of_call hfirst.livesIn hfirst.leads task.call.2 files
    obtain ⟨hsummary, hlater, hfiles⟩ := ih hfit hnodup (task.alone ⟨registry, files⟩).2
    refine ⟨?_, haside.trans hlater, List.forall_mem_cons.2 ⟨?_, fun other hother => ?_⟩⟩
    · rw [summaryAlone_cons, makeCalls, hsummary, summaryAlone_congr haside hhead hfit hne]
    · exact hlater.find hfirst.livesIn hfresh
    · rw [makeCalls, hfiles other hother]
      exact (haside.call hhead (hfit other hother).livesIn (hne other hother)
        (hfit other hother).leads other.call.2).2

end

/-! ## Plans -/

namespace ReplicatedTable

variable {t : ReplicatedTable} {dir : Path} {registry : Registry} {kind : ReplyKind}

/-- Calls on partitions as tasks for their nodes, in the order of the replicas. -/
def tasks (t : ReplicatedTable) (calls : List (Nat × AnyCall)) : List Task :=
  calls.flatMap fun call => (t.nodes call.1).map fun node => ⟨node, call.2⟩

theorem tasks_cons (t : ReplicatedTable) (call : Nat × AnyCall) (rest : List (Nat × AnyCall)) :
    t.tasks (call :: rest) =
      ((t.nodes call.1).map fun node => ⟨node, call.2⟩) ++ t.tasks rest := rfl

theorem tasks_singleton (t : ReplicatedTable) (call : Nat × AnyCall) :
    t.tasks [call] = (t.nodes call.1).map fun node => ⟨node, call.2⟩ := by
  rw [tasks_cons]
  exact List.append_nil _

theorem mem_tasks {calls : List (Nat × AnyCall)} {task : Task} :
    task ∈ t.tasks calls ↔ ∃ call ∈ calls, task.node ∈ t.nodes call.1 ∧ task.call = call.2 := by
  simp only [tasks, List.mem_flatMap, List.mem_map]
  constructor
  · rintro ⟨call, hcall, node, hnode, rfl⟩
    exact ⟨call, hcall, hnode, rfl⟩
  · rintro ⟨call, hcall, hnode, heq⟩
    exact ⟨call, hcall, task.node, hnode, by rw [← heq]⟩

/-- The replicas that are called. -/
theorem map_id_tasks (t : ReplicatedTable) (calls : List (Nat × AnyCall)) :
    (t.tasks calls).map Task.id = (calls.map Prod.fst).flatMap t.idsOf := by
  simp only [tasks, List.map_flatMap, List.flatMap_map, List.map_map, idsOf]
  rfl

/-- The table's nodes are called directly, and have their files in the directory of the path
`dir`. -/
structure Direct (t : ReplicatedTable) (dir : Path) (registry : Registry) : Prop where
  path : ∀ partition, ∀ node ∈ t.nodes partition, node.store.path = dir.join [node.id.fileName]
  leads : ∀ partition, ∀ node ∈ t.nodes partition, registry.Leads node

theorem Direct.livesIn (ht : t.Deployed) (h : t.Direct dir registry) {partition : Nat}
    {node : StorageNode} (hnode : node ∈ t.nodes partition) : node.LivesIn dir :=
  ⟨ht.isValid hnode, h.path partition node hnode⟩

theorem Direct.fit (ht : t.Deployed) (h : t.Direct dir registry) {calls : List (Nat × AnyCall)} :
    ∀ task ∈ t.tasks calls, task.Fit dir registry := by
  intro task htask
  obtain ⟨call, -, hnode, -⟩ := mem_tasks.1 htask
  exact ⟨h.livesIn ht hnode, h.leads call.1 task.node hnode⟩

theorem callAll_eq_makeCalls (registry : Registry) (call : NodeCall kind)
    (replicas : List Replica) (files : FileSystem) :
    ((callAll registry call replicas files).1.summary, (callAll registry call replicas files).2) =
      makeCalls registry (replicas.map fun replica => ⟨replica.node, ⟨kind, call⟩⟩) files := by
  induction replicas generalizing files with
  | nil => rfl
  | cons replica rest ih =>
    simp only [List.map_cons, makeCalls, ← ih, Task.alone, Task.id]
    rw [callAll, Replica.id]
    cases hcall : registry.call replica.node.id call files with
    | mk reply after => cases reply <;> rfl

/-- A call on every replica of a partition is a list of tasks. -/
theorem fanOut_eq_makeCalls (t : ReplicatedTable) (partition : Nat) (call : NodeCall kind)
    (cluster : Cluster) :
    ((t.fanOut partition call cluster).1.summary, (t.fanOut partition call cluster).2.files) =
      makeCalls cluster.registry (t.tasks [(partition, ⟨kind, call⟩)]) cluster.files := by
  have hcalls := callAll_eq_makeCalls cluster.registry call (t.replicas partition) cluster.files
  rw [tasks_singleton, nodes, List.map_map]
  exact hcalls

/-- Calls on several partitions are a list of tasks. -/
theorem fanOutEach_eq_makeCalls (t : ReplicatedTable) (calls : List (Nat × NodeCall kind))
    (cluster : Cluster) :
    ((t.fanOutEach calls cluster).1, (t.fanOutEach calls cluster).2.files) =
      makeCalls cluster.registry (t.tasks (anyCalls calls)) cluster.files := by
  induction calls generalizing cluster with
  | nil => rfl
  | cons call rest ih =>
    have hfirst := fanOut_eq_makeCalls t call.1 call.2 cluster
    have hrest := ih (t.fanOut call.1 call.2 cluster).2
    have hregistry : (t.fanOut call.1 call.2 cluster).2.registry = cluster.registry := rfl
    rw [hregistry] at hrest
    have hcons : t.tasks (anyCalls (call :: rest)) =
        t.tasks [(call.1, ⟨kind, call.2⟩)] ++ t.tasks (anyCalls rest) := by
      rw [tasks_singleton]
      rfl
    rw [hcons, makeCalls_append, ← hfirst]
    simp only
    rw [← hrest]
    rfl

/-- The answers of the replicas of a partition are those that each gives alone. -/
theorem answers_callAll (call : NodeCall kind) {replicas : List Replica}
    (hfit : ∀ replica ∈ replicas, Task.Fit dir registry ⟨replica.node, ⟨kind, call⟩⟩)
    (hnodup : (replicas.map Replica.id).Nodup) (files : FileSystem) :
    (callAll registry call replicas files).1.answers =
      replicas.filterMap fun replica => (registry.call replica.id call files).1.toOption := by
  induction replicas generalizing files with
  | nil => rfl
  | cons replica rest ih =>
    obtain ⟨hfirst, hfit⟩ := List.forall_mem_cons.1 hfit
    obtain ⟨hfresh, hnodup⟩ := List.nodup_cons.1 hnodup
    have hrest := ih hfit hnodup (registry.call replica.id call files).2
    have haside : Aside dir [replica.id] files (registry.call replica.id call files).2 :=
      .of_call hfirst.livesIn hfirst.leads call files
    have hsame : (rest.filterMap fun other =>
        (registry.call other.id call (registry.call replica.id call files).2).1.toOption) =
          rest.filterMap fun other => (registry.call other.id call files).1.toOption := by
      refine List.filterMap_congr fun other hother => ?_
      have hne : other.id ∉ [replica.id] := fun heq =>
        hfresh (List.mem_singleton.1 heq ▸ List.mem_map_of_mem hother)
      have hvalid : ∀ id ∈ [replica.id], id.IsValid := fun id hid =>
        List.mem_singleton.1 hid ▸ hfirst.livesIn.valid
      rw [Replica.id, (haside.call hvalid (hfit other hother).livesIn hne (hfit other hother).leads
        call).1]
    rw [callAll, List.filterMap_cons]
    rw [hsame] at hrest
    cases hcall : registry.call replica.id call files with
    | mk reply after =>
      rw [hcall] at hrest
      cases reply with
      | error e => exact hrest
      | ok answer => exact congrArg (answer :: ·) hrest

end ReplicatedTable

namespace Plan

open ReplicatedTable (anyCalls Direct)

variable {t : ReplicatedTable} {dir : Path}

/-- The positions that the driver of a plan answers: those of its first replica that can carry out
the call. -/
def reported (t : ReplicatedTable) (cluster : Cluster) : Plan → List Nat
  | each _ => []
  | driven _ driver call _ =>
    ((t.nodes driver).findSome? fun node =>
      (cluster.registry.call node.id call cluster.files).1.toOption).getD []

/-- No partition is called twice. -/
theorem Fits.nodup_called {plan : Plan} (h : plan.Fits) (positions : List Nat) :
    ((plan.called positions).map Prod.fst).Nodup := by
  cases plan with
  | each calls =>
    rw [called, ReplicatedTable.map_fst_anyCalls]
    exact h
  | driven checked driver call others =>
    rw [called, List.map_cons, List.nodup_cons]
    split
    · exact ⟨by simp, List.nodup_nil⟩
    · rw [ReplicatedTable.map_fst_anyCalls]
      exact ⟨fun hmem => ((h.2 positions).2.1 driver hmem).2 rfl, (h.2 positions).1⟩

/-- **A plan makes its calls one after another**, the others with the positions that the driver
answers. -/
theorem carryOut_eq_makeCalls (ht : t.Deployed) {cluster : Cluster}
    (hdirect : t.Direct dir cluster.registry) (plan : Plan) :
    ((plan.carryOut t cluster).1, (plan.carryOut t cluster).2.files) =
      makeCalls cluster.registry (t.tasks (plan.called (plan.reported t cluster)))
        cluster.files := by
  cases plan with
  | each calls => exact ReplicatedTable.fanOutEach_eq_makeCalls t calls cluster
  | driven checked driver call others =>
    have hfirst := ReplicatedTable.fanOut_eq_makeCalls t driver call cluster
    have hanswers : (t.fanOut driver call cluster).1.answers.head?.getD [] =
        (driven checked driver call others).reported t cluster := by
      have hnodup : ((t.replicas driver).map Replica.id).Nodup := by
        rw [ReplicatedTable.map_id_replicas]
        exact ht.nodup driver
      have hfit : ∀ replica ∈ t.replicas driver,
          Task.Fit dir cluster.registry ⟨replica.node, ⟨_, call⟩⟩ := by
        intro replica hreplica
        have hnode : replica.node ∈ t.nodes driver := List.mem_map_of_mem hreplica
        exact ⟨hdirect.livesIn ht hnode, hdirect.leads driver _ hnode⟩
      rw [ReplicatedTable.fanOut]
      simp only
      rw [ReplicatedTable.answers_callAll call hfit hnodup, List.head?_filterMap, reported,
        ReplicatedTable.nodes, List.findSome?_map]
      rfl
    simp only [carryOut, ReplicatedTable.propagate, hanswers, called]
    split
    · exact hfirst
    · rw [ReplicatedTable.tasks_cons, makeCalls_append, ← ReplicatedTable.tasks_singleton t
        (driver, ⟨_, call⟩), ← hfirst]
      have hrest := ReplicatedTable.fanOutEach_eq_makeCalls t
        (others ((driven checked driver call others).reported t cluster))
        (t.fanOut driver call cluster).2
      have hregistry : (t.fanOut driver call cluster).2.registry = cluster.registry := rfl
      rw [hregistry] at hrest
      simp only
      rw [← hrest]

end Plan

end TableStore
