import Mathlib.Logic.Relation
import TableStore.Proofs.Attempts
import TableStore.Proofs.Plans

/-!
# What calls can do to files

Calls can fail, be lost on their way or be carried out twice, and nobody may notice.  What remains
true whatever comes of them is collected in `Effect`:

* the registry stays as it is, and the replicas of other tables are left alone;
* all that happens to the file of a replica are calls on its partition that its node carries out,
  each any number of times (`FileStep`).

Effects of one call, of calls on several replicas and of whole plans are composed
(`Effect.trans`), and `write_effect` is the result for writes.  `mem_called_cases` lists the calls
that there can be in a plan.

A disk that fails can tear a row that is added to a file, and what is left in the file then need not
even be a text.  Where no row is torn, the text of the file is what the calls have made of it
(`Effect.becomes`), whatever else fails.
-/

namespace TableStore

open FileSystem (Frame)

/-- One execution of a call makes one text of another. -/
def NodeCall.Makes {kind : ReplyKind} (call : NodeCall kind) (store : RecordStore)
    (text text' : String) : Prop := ∃ value, call.perform store text = some (value, text')

/-- A call whose answer may have any form. -/
abbrev AnyCall := (kind : ReplyKind) × NodeCall kind

namespace ReplicatedTable

/-- Calls of one kind as calls of any kind. -/
def anyCalls {kind : ReplyKind} (calls : List (Nat × NodeCall kind)) : List (Nat × AnyCall) :=
  calls.map fun call => (call.1, ⟨kind, call.2⟩)

theorem map_fst_anyCalls {kind : ReplyKind} (calls : List (Nat × NodeCall kind)) :
    (anyCalls calls).map Prod.fst = calls.map Prod.fst := by
  simp [anyCalls]

end ReplicatedTable

/-- The calls of a plan whose driver answers the given positions. -/
def Plan.called (positions : List Nat) : Plan → List (Nat × AnyCall)
  | each calls => ReplicatedTable.anyCalls calls
  | driven _ driver call others =>
    (driver, ⟨_, call⟩) ::
      if positions = [] then [] else ReplicatedTable.anyCalls (others positions)

namespace ReplicatedTable

variable {t : ReplicatedTable}

/-! ## The calls of a plan -/

theorem mem_anyCalls {kind : ReplyKind} {calls : List (Nat × NodeCall kind)} {call : Nat × AnyCall}
    (h : call ∈ anyCalls calls) : ∃ own ∈ calls, call = (own.1, ⟨kind, own.2⟩) := by
  obtain ⟨own, hown, rfl⟩ := List.mem_map.1 h
  exact ⟨own, hown, rfl⟩

theorem mem_called_driven {checked : List Nat} {driver : Nat} {call : NodeCall .positions}
    {others : List Nat → List (Nat × NodeCall .count)} {positions : List Nat}
    {found : Nat × AnyCall}
    (h : found ∈ (Plan.driven checked driver call others).called positions) :
    found = (driver, ⟨_, call⟩) ∨ ∃ own ∈ others positions, found = (own.1, ⟨_, own.2⟩) := by
  rcases List.mem_cons.1 h with rfl | h
  · exact Or.inl rfl
  · split at h
    · simp at h
    · exact Or.inr (mem_anyCalls h)

section

variable {operation : Operation} {positions : List Nat} {call : Nat × AnyCall}

/-- The calls of an insertion. -/
theorem mem_called_insertPlan {plan : Plan} (h : t.insertPlan operation = .ok plan)
    (hcall : call ∈ plan.called positions) : ∃ slice : ColumnSlice,
      (∀ text ∈ slice.columns ++ slice.values, text ∈ operation.columns ++ operation.values) ∧
      (t.router.layout.kind ≠ .vertical →
        slice.columns = operation.columns ∧ slice.values = operation.values) ∧
      call = (slice.partition, ⟨_, .insert slice.columns slice.values⟩) := by
  unfold insertPlan at h
  cases hslices : t.router.routeInsert operation.columns operation.values with
  | error e => simp [hslices, Except.map] at h
  | ok slices =>
    obtain rfl : _ = plan := by simpa [hslices, Except.map] using h
    obtain ⟨own, hown, rfl⟩ := mem_anyCalls hcall
    obtain ⟨slice, hslice, rfl⟩ := List.mem_map.1 hown
    obtain ⟨htexts, hall⟩ := Router.routeInsert_ok hslices hslice
    exact ⟨slice, htexts, hall, rfl⟩

/-- The calls of an update. -/
theorem mem_called_updatePlan {condition : Predicate} {driver : Nat} {plan : Plan}
    (h : t.updatePlan operation condition driver = .ok plan)
    (hcall : call ∈ plan.called positions) : ∃ columns values : List String,
      (∀ text ∈ columns ++ values, text ∈ operation.columns ++ operation.values) ∧
      (call = (driver, ⟨_, .update columns values condition⟩) ∨
        ∃ partition, call = (partition, ⟨_, .updateAt positions columns values⟩)) := by
  unfold updatePlan at h
  split at h
  · cases hslices : t.router.splitAssignments operation.columns operation.values with
    | error e => simp [hslices, Except.map] at h
    | ok slices =>
      obtain rfl : _ = plan := by simpa [hslices, Except.map] using h
      rcases mem_called_driven hcall with rfl | ⟨own, hown, rfl⟩
      · refine ⟨_, _, ?_, Or.inl rfl⟩
        cases hfind : slices.find? fun slice => slice.partition = driver with
        | none => simp
        | some slice =>
          exact Router.mem_of_mem_splitAssignments hslices (List.mem_of_find?_eq_some hfind)
      · obtain ⟨slice, hslice, rfl⟩ := List.mem_map.1 hown
        exact ⟨slice.columns, slice.values,
          Router.mem_of_mem_splitAssignments hslices (List.mem_filter.1 hslice).1,
          Or.inr ⟨slice.partition, rfl⟩⟩
  all_goals
    obtain rfl : _ = plan := by simpa using h
    rcases mem_called_driven hcall with rfl | ⟨own, hown, -⟩
    · exact ⟨_, _, fun _ htext => htext, Or.inl rfl⟩
    · simp at hown

/-- The calls of a removal. -/
theorem mem_called_deletePlan {condition : Predicate} {driver : Nat}
    (hcall : call ∈ (t.deletePlan condition driver).called positions) :
    call = (driver, ⟨_, .delete condition⟩) ∨
      ∃ partition, call = (partition, ⟨_, .deleteAt positions⟩) := by
  unfold deletePlan at hcall
  split at hcall <;> rcases mem_called_driven hcall with rfl | ⟨own, hown, rfl⟩
  · exact Or.inl rfl
  · obtain ⟨partition, -, rfl⟩ := List.mem_map.1 hown
    exact Or.inr ⟨partition, rfl⟩
  · exact Or.inl rfl
  · simp at hown

/-- **All calls that a write can make.** -/
theorem mem_called_cases {plan : Plan} (hplan : t.plan? operation = .ok plan)
    (hcall : call ∈ plan.called positions) :
    (∃ slice : ColumnSlice, operation.kind = .insert ∧
      (∀ text ∈ slice.columns ++ slice.values, text ∈ operation.columns ++ operation.values) ∧
      (t.router.layout.kind ≠ .vertical →
        slice.columns = operation.columns ∧ slice.values = operation.values) ∧
      call = (slice.partition, ⟨_, .insert slice.columns slice.values⟩)) ∨
    (operation.kind = .update ∧ ∃ columns values : List String,
      (∀ text ∈ columns ++ values, text ∈ operation.columns ++ operation.values) ∧
      ((∃ driver condition, call = (driver, ⟨_, .update columns values condition⟩)) ∨
        ∃ partition, call = (partition, ⟨_, .updateAt positions columns values⟩))) ∨
    ((∃ driver condition, call = (driver, ⟨_, .delete condition⟩)) ∨
      ∃ partition, call = (partition, ⟨_, .deleteAt positions⟩)) := by
  unfold plan? at hplan
  split at hplan
  · next hinsert =>
    obtain ⟨slice, htexts, hall, hslice⟩ := mem_called_insertPlan hplan hcall
    exact Or.inl ⟨slice, hinsert, htexts, hall, hslice⟩
  · next hupdate =>
    split at hplan
    · simp at hplan
    · next condition driver _ =>
      obtain ⟨columns, values, htexts, hown | hother⟩ := mem_called_updatePlan hplan hcall
      · exact Or.inr (Or.inl ⟨hupdate, columns, values, htexts, Or.inl ⟨driver, condition, hown⟩⟩)
      · exact Or.inr (Or.inl ⟨hupdate, columns, values, htexts, Or.inr hother⟩)
  · cases hroute : t.routeCondition operation with
    | error e => simp [hroute, Except.map] at hplan
    | ok routed =>
      obtain rfl : _ = plan := by simpa [hroute, Except.map] using hplan
      rcases mem_called_deletePlan hcall with hown | hother
      · exact Or.inr (Or.inr (Or.inl ⟨_, _, hown⟩))
      · exact Or.inr (Or.inr (Or.inr hother))
  · obtain rfl : _ = plan := by simpa using hplan
    simp [Plan.called, anyCalls] at hcall

end

end ReplicatedTable

/-! ## What happens to one file -/

/-- A step as the file of a node sees it: the node carries out a call, or something happens under
names that are not the file's. -/
inductive FileStep (node : StorageNode) (called : AnyCall → Prop) :
    FileSystem → FileSystem → Prop
  | run {files : FileSystem} (call : AnyCall) (hcalled : called call) :
    FileStep node called files (node.filesAfter call.2 files)
  | aside {names : List String} {files files' : FileSystem} (hframe : Frame names files files')
    (hout : node.id.fileName ∉ names) : FileStep node called files files'

/-- The file is there after every step. -/
theorem FileStep.contains {node : StorageNode} {called : AnyCall → Prop} {files files' : FileSystem}
    (h : FileStep node called files files')
    (hlast : node.store.path.getLast? = some node.id.fileName)
    (hfile : ∃ content, files.Contains node.store.path content) :
    ∃ content, files'.Contains node.store.path content := by
  have hisName := ReplicaId.isName_fileName node.id
  obtain ⟨content, hfile⟩ := hfile
  cases h with
  | run call _ => exact RecordStore.contains_run call.2 hlast hisName hfile
  | aside hframe hout => exact ⟨content, hfile.frame hframe hlast hisName hout⟩

/-- What executions of calls make of a text. -/
def Becomes (store : RecordStore) (called : AnyCall → Prop) : String → String → Prop :=
  Relation.ReflTransGen fun text text' =>
    ∃ call, called call ∧ call.2.Makes store text text'

/-- What calls keep is true of the texts after them. -/
theorem Becomes.invariant {store : RecordStore} {called : AnyCall → Prop} {text text' : String}
    (h : Becomes store called text text') {P : String → Prop}
    (hkept : ∀ call, called call → ∀ text text', P text → call.2.Makes store text text' → P text')
    (hinit : P text) : P text' := by
  induction h with
  | refl => exact hinit
  | tail _ hstep ih =>
    obtain ⟨call, hcalled, hmakes⟩ := hstep
    exact hkept call hcalled _ _ ih hmakes

section

variable {node : StorageNode} {called : AnyCall → Prop} {files files' : FileSystem} {text : String}
  (hlast : node.store.path.getLast? = some node.id.fileName)
  (hheld : files.Holds node.store.path text)
include hlast hheld

/-- In one step the text of the file stays, or becomes what a call makes of it, unless the row of a
call is torn. -/
theorem FileStep.becomes (h : FileStep node called files files')
    (hwhole : ∀ call, called call → ¬ call.2.Tears node.store files) :
    (∃ names, Frame names files files') ∧
      ∃ text', files'.Holds node.store.path text' ∧ Becomes node.store called text text' := by
  have hisName := ReplicaId.isName_fileName node.id
  cases h with
  | run call hcalled =>
    refine ⟨⟨_, (RecordStore.confined_run call.2 files hlast hisName).forth⟩, ?_⟩
    obtain ⟨text', htext, hheld'⟩ :=
      RecordStore.holds_run call.2 hlast hisName hheld (hwhole call hcalled)
    refine ⟨text', hheld', ?_⟩
    rcases htext with rfl | hmakes
    · exact .refl
    · exact .single ⟨call, hcalled, hmakes⟩
  | aside hframe hout => exact ⟨⟨_, hframe⟩, text, hheld.frame hframe hlast hisName hout, .refl⟩

/-- **In many steps the text of the file becomes what the calls make of it**, unless the row of a
call is torn. -/
theorem becomes_of_steps (h : Relation.ReflTransGen (FileStep node called) files files')
    (hwhole : ∀ call, called call → ¬ call.2.Tears node.store files) :
    ∃ text', files'.Holds node.store.path text' ∧ Becomes node.store called text text' := by
  induction h using Relation.ReflTransGen.head_induction_on generalizing text with
  | refl => exact ⟨text, hheld, .refl⟩
  | head hstep _ ih =>
    obtain ⟨⟨names, hframe⟩, next, hnext, hbecomes⟩ := hstep.becomes hlast hheld hwhole
    -- what is not torn at first is not torn later
    obtain ⟨text', hheld', hrest⟩ := ih hnext fun call hcalled htears =>
      hwhole call hcalled (NodeCall.tears_of_frame hheld hframe htears)
    exact ⟨text', hheld', hbecomes.trans hrest⟩

end

namespace ReplicatedTable

variable {t : ReplicatedTable}

/-! ## Effects -/

/-- What calls on the replicas of a table can do to a cluster. -/
structure Effect (t : ReplicatedTable) (called : Nat × AnyCall → Prop)
    (cluster cluster' : Cluster) : Prop where
  registry : cluster'.registry = cluster.registry
  spares : cluster.Spares (·.key = t.table.key) cluster'
  /-- Nodes carry out calls on their partitions if they are registered. -/
  steps : ∀ partition, ∀ node ∈ t.nodes partition, Relation.ReflTransGen
    (FileStep node fun call =>
      cluster.registry.get? node.id = some node ∧ called (partition, call))
    cluster.files cluster'.files

namespace Effect

variable {called : Nat × AnyCall → Prop} {cluster cluster' cluster'' : Cluster}

theorem refl (t : ReplicatedTable) (called : Nat × AnyCall → Prop) (cluster : Cluster) :
    t.Effect called cluster cluster := ⟨rfl, .refl _ _, fun _ _ _ => .refl⟩

theorem trans (h : t.Effect called cluster cluster') (h' : t.Effect called cluster' cluster'') :
    t.Effect called cluster cluster'' where
  registry := h'.registry.trans h.registry
  spares := h.spares.trans h'.spares
  steps partition node hnode := by
    have hlater := h'.steps partition node hnode
    rw [h.registry] at hlater
    exact (h.steps partition node hnode).trans hlater

/-- The files of all replicas are still there. -/
theorem contains (h : t.Effect called cluster cluster') (ht : t.Deployed) {partition : Nat}
    {node : StorageNode} (hnode : node ∈ t.nodes partition)
    (hfile : ∃ content, cluster.files.Contains node.store.path content) :
    ∃ content, cluster'.files.Contains node.store.path content := by
  have hsteps := h.steps partition node hnode
  generalize cluster'.files = files' at hsteps
  induction hsteps with
  | refl => exact hfile
  | tail _ hstep ih => exact hstep.contains (ht.paths partition node hnode) ih

/-- **The text of a replica's file becomes what calls on its partition make of it**, unless the row
of one of them is torn. -/
theorem becomes (h : t.Effect called cluster cluster') (ht : t.Deployed) {partition : Nat}
    {node : StorageNode} (hnode : node ∈ t.nodes partition) {text : String}
    (hheld : cluster.files.Holds node.store.path text)
    (hwhole : ∀ call, cluster.registry.get? node.id = some node → called (partition, call) →
      ¬ call.2.Tears node.store cluster.files) :
    ∃ text', cluster'.files.Holds node.store.path text' ∧
      Becomes node.store (fun call => called (partition, call)) text text' := by
  obtain ⟨text', hheld', hbecomes⟩ :=
    becomes_of_steps (ht.paths partition node hnode) hheld (h.steps partition node hnode)
      fun call hcalled => hwhole call hcalled.1 hcalled.2
  exact ⟨text', hheld', Relation.ReflTransGen.mono
    (fun _ _ ⟨call, hcalled, hmakes⟩ => ⟨call, hcalled.2, hmakes⟩) _ _ hbecomes⟩

end Effect

/-- A call on a node touches the node's own files only. -/
theorem spares_run {node : StorageNode} {kind : ReplyKind} (registry : Registry)
    (files : FileSystem) (call : NodeCall kind)
    (hlast : node.store.path.getLast? = some node.id.fileName) :
    Cluster.Spares (· = node.id) ⟨registry, files⟩ ⟨registry, node.filesAfter call files⟩ :=
  .of_frame (RecordStore.confined_run call files hlast (ReplicaId.isName_fileName _)).forth
    fun _ hne hvalid => ReplicaId.fileName_notMem_names hvalid hne _

section

variable (ht : t.Deployed) {called : Nat × AnyCall → Prop} {registry : Registry}
  {partition : Nat} {kind : ReplyKind} {call : NodeCall kind}
  (hcalled : called (partition, ⟨kind, call⟩))
include ht hcalled

/-- A registered node that carries out a call. -/
theorem effect_run {node : StorageNode} (hnode : node ∈ t.nodes partition)
    (hregistered : registry.get? node.id = some node) (files : FileSystem) :
    t.Effect called ⟨registry, files⟩ ⟨registry, node.filesAfter call files⟩ where
  registry := rfl
  spares := (spares_run registry files call (ht.paths partition node hnode)).mono
    fun id hid => hid ▸ ht.key_eq hnode
  steps other node' hnode' := by
    by_cases hid : node'.id = node.id
    · obtain rfl := ht.node_inj hnode' hnode hid
      obtain rfl : other = partition :=
        (ht.partition_eq hnode').symm.trans (ht.partition_eq hnode)
      exact .single (.run ⟨kind, call⟩ ⟨hregistered, hcalled⟩)
    · have hconfined := RecordStore.confined_run call files (ht.paths partition node hnode)
        (ReplicaId.isName_fileName node.id)
      exact .single (.aside hconfined.forth
        (ReplicaId.fileName_notMem_names (ht.isValid hnode') hid _))

/-- A registered node that carries out a call any number of times. -/
theorem effect_iterate {node : StorageNode} (hnode : node ∈ t.nodes partition)
    (hregistered : registry.get? node.id = some node) (count : Nat) (files : FileSystem) :
    t.Effect called ⟨registry, files⟩ ⟨registry, (node.filesAfter call)^[count] files⟩ := by
  induction count generalizing files with
  | zero => exact .refl t called _
  | succ count ih => exact (effect_run ht hcalled hnode hregistered files).trans (ih _)

/-- A call through the registry. -/
theorem effect_call (hk : t.KnownTo registry) {node : StorageNode}
    (hnode : node ∈ t.nodes partition) (files : FileSystem) :
    t.Effect called ⟨registry, files⟩ ⟨registry, (registry.call node.id call files).2⟩ := by
  rcases Registry.call_files registry (ht.isValid hnode) call files with
    hsame | ⟨found, count, hfound, hfiles⟩
  · rw [hsame]
    exact .refl t called _
  · obtain rfl := hk.node_eq hnode hfound
    rw [hfiles]
    exact effect_iterate ht hcalled hnode hfound count files

omit ht hcalled in
theorem callAll_cons_files (replica : Replica) (rest : List Replica) (files : FileSystem) :
    (callAll registry call (replica :: rest) files).2 =
      (callAll registry call rest (registry.call replica.id call files).2).2 := by
  rw [callAll]
  split <;> rename_i heq <;> rw [heq]

/-- Calls on several replicas of a partition. -/
theorem effect_callAll (hk : t.KnownTo registry) {replicas : List Replica}
    (hsub : ∀ replica ∈ replicas, replica.node ∈ t.nodes partition) (files : FileSystem) :
    t.Effect called ⟨registry, files⟩
      ⟨registry, (callAll registry call replicas files).2⟩ := by
  induction replicas generalizing files with
  | nil => exact .refl t called _
  | cons replica rest ih =>
    obtain ⟨hnode, hsub⟩ := List.forall_mem_cons.1 hsub
    rw [callAll_cons_files]
    exact (effect_call ht hcalled hk hnode files).trans (ih hsub _)

/-- A call on every replica of a partition. -/
theorem effect_fanOut {cluster : Cluster} (hk : t.KnownTo cluster.registry) :
    t.Effect called cluster (t.fanOut partition call cluster).2 :=
  effect_callAll ht hcalled hk (fun _ hreplica => List.mem_map_of_mem hreplica) cluster.files

end

section

variable (ht : t.Deployed) {called : Nat × AnyCall → Prop} {cluster : Cluster}
include ht

/-- A call of its own on every replica of each partition. -/
theorem effect_fanOutEach {kind : ReplyKind} {calls : List (Nat × NodeCall kind)}
    (hcalled : ∀ call ∈ calls, called (call.1, ⟨kind, call.2⟩))
    (hk : t.KnownTo cluster.registry) : t.Effect called cluster (t.fanOutEach calls cluster).2 := by
  induction calls generalizing cluster with
  | nil => exact .refl t called cluster
  | cons call rest ih =>
    obtain ⟨hcall, hcalled⟩ := List.forall_mem_cons.1 hcalled
    have hfirst := effect_fanOut ht hcall hk
    exact hfirst.trans (ih hcalled (hfirst.registry ▸ hk))

/-- All calls of a plan. -/
theorem effect_carryOut {plan : Plan}
    (hcalled : ∀ positions, ∀ call ∈ plan.called positions, called call)
    (hk : t.KnownTo cluster.registry) : t.Effect called cluster (plan.carryOut t cluster).2 := by
  cases plan with
  | each calls =>
    refine effect_fanOutEach ht (fun call hcall => hcalled [] _ ?_) hk
    exact List.mem_map_of_mem hcall
  | driven checked driver call others =>
    have hdriver : called (driver, ⟨_, call⟩) := hcalled [] _ List.mem_cons_self
    have hfirst := effect_fanOut ht hdriver hk
    simp only [Plan.carryOut, propagate]
    split
    · exact hfirst
    · next hpositions =>
      generalize (t.fanOut driver call cluster).1.answers.head?.getD [] = positions at hpositions
      have hothers : ∀ other ∈ others positions, called (other.1, ⟨_, other.2⟩) := by
        intro other hother
        refine hcalled positions _ ?_
        rw [Plan.called, if_neg hpositions]
        exact List.mem_cons_of_mem _ (List.mem_map_of_mem hother)
      exact hfirst.trans (effect_fanOutEach ht hothers (hfirst.registry ▸ hk))

/-- The call is one of those that an operation plans. -/
def Plans (t : ReplicatedTable) (operation : Operation) (call : Nat × AnyCall) : Prop :=
  ∃ plan positions, t.plan? operation = .ok plan ∧ call ∈ plan.called positions

/-- **What a write can do, whatever comes of its calls.** -/
theorem write_effect (operation : Operation) (hk : t.KnownTo cluster.registry) :
    t.Effect (t.Plans operation) cluster (t.write operation cluster).2 := by
  rw [write_eq_plan]
  cases hplan : t.plan? operation with
  | error e => exact .refl t _ cluster
  | ok plan =>
    simp only [follow]
    cases t.checkAllAlive plan.checked with
    | error e => exact .refl t _ cluster
    | ok _ =>
      exact effect_carryOut ht (fun positions call hcall => ⟨plan, positions, hplan, hcall⟩) hk

end

end ReplicatedTable

end TableStore
