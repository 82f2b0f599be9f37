import TableStore.Proofs.Coordinators
import TableStore.Proofs.Requests

/-!
# Runs in which anything can fail

Writes may reach some replicas only, calls may be lost or carried out twice, and files may fail.
Whatever comes of it, every table of a coordinator was accepted when it was created, the registry
leads to its nodes, and each of its replicas has a file (`InOrder`).  `orderly_next` is the step,
and `orderly_run` is the result for runs.

More is known of a file in which no row is ever torn: its text comes from the calls of accepted
writes.

* `TextInvariant P` says what is to be shown for a property `P` of such texts: it is true of new
  files, and the calls that an accepted write plans keep it.
* `Tears` says at which step and in which file a row is torn.
* `HasTexts torn P` says that all files have texts with the property, but for those at the paths
  that are `torn`.  `hasTexts_next` is the step.

Between the steps the files and the network can begin to fail in other ways.  `Incident` adds this
to the steps, and `hasTexts_run` is the result for runs of both.  `not_tearsIn` says that rows are
torn by nothing but a disk that breaks off its writing.
-/

namespace TableStore

/-- The registry with another network, if its nodes are called over one. -/
def Registry.withLink (registry : Registry) (link : Link) : Registry :=
  match registry with
  | inProcess nodes => .inProcess nodes
  | networked host _ attempts => .networked host link attempts

@[simp] theorem Registry.get?_withLink (registry : Registry) (link : Link) (id : ReplicaId) :
    (registry.withLink link).get? id = registry.get? id := by
  cases registry <;> rfl

namespace Coordinator

/-! ## Tables -/

/-- A table of a coordinator.  The files of its replicas are there, whatever they contain. -/
structure InOrder (cluster : Cluster) (key : String) (t : ReplicatedTable) : Prop where
  key : t.table.key = key
  deployed : t.Deployed
  accepted : t.table.validate = .ok ()
  known : t.KnownTo cluster.registry
  files : ∀ partition, ∀ node ∈ t.nodes partition,
    ∃ content, cluster.files.Contains node.store.path content

/-- All tables are in order. -/
def Orderly (c : Coordinator) : Prop :=
  ∀ key t, c.tables.get? key = some t → InOrder c.cluster key t

variable {c c' : Coordinator}

namespace InOrder

variable {cluster cluster' : Cluster} {key other : String} {t : ReplicatedTable}

/-- The replicas of a table are not touched by what is done to another one. -/
theorem key_ne (h : InOrder cluster other t) (hne : other ≠ key) (partition : Nat) :
    ∀ node ∈ t.nodes partition, ¬ node.id.key = key := fun _ hnode htouched =>
  hne (h.key.symm.trans ((h.deployed.key_eq hnode).symm.trans htouched))

theorem of_spares (h : InOrder cluster other t) (hspares : cluster.Spares (·.key = key) cluster')
    (hne : other ≠ key) : InOrder cluster' other t where
  key := h.key
  deployed := h.deployed
  accepted := h.accepted
  known := h.known.of_spares hspares (h.key_ne hne)
  files partition node hnode := by
    obtain ⟨content, hfile⟩ := h.files partition node hnode
    exact ⟨content, hspares.contains node.id (h.key_ne hne partition node hnode)
      (h.deployed.isValid hnode) _ _ (h.deployed.paths partition node hnode) hfile⟩

theorem beat (h : InOrder cluster key t) (cluster' : Cluster) :
    InOrder cluster key (t.beat cluster') where
  key := h.key
  deployed := h.deployed.beat cluster'
  accepted := h.accepted
  known := h.known.beat cluster'
  files := by simpa using h.files

end InOrder

theorem orderly_empty (cluster : Cluster) (settings : ReplicationSettings) :
    (empty cluster settings).Orderly := by
  intro key t hget
  simp [empty] at hget

/-- A step that is about one table keeps the others in order. -/
theorem Orderly.change (h : c.Orderly) {key : String}
    (hspares : c.cluster.Spares (·.key = key) c'.cluster)
    (htables : ∀ other, other ≠ key → c'.tables.get? other = c.tables.get? other)
    (htable : ∀ t, c'.tables.get? key = some t → InOrder c'.cluster key t) : c'.Orderly := by
  intro other t hget
  by_cases hother : other = key
  · subst hother
    exact htable t hget
  · rw [htables other hother] at hget
    exact (h other t hget).of_spares hspares hother

/-! ## Steps -/

theorem validate_of_create {request : CreateRequest} {c' : Coordinator}
    (h : c.create request = (.ok (), c')) : request.table.validate = .ok () := by
  unfold create at h
  cases hvalid : request.table.validate with
  | error e => simp [hvalid] at h
  | ok _ => rfl

/-- A table that was created is in order. -/
theorem inOrder_of_create {request : CreateRequest} (hvalid : request.table.validate = .ok ())
    {settings : ReplicationSettings} {cluster cluster' : Cluster} {t : ReplicatedTable}
    (h : ReplicatedTable.create request.table request.replicaCount request.layout settings cluster =
      (.ok t, cluster')) : InOrder cluster' request.table.key t := by
  have hcreated := ReplicatedTable.create_ok h
  exact ⟨congrArg TableDef.key hcreated.table, hcreated.deployed, hcreated.table ▸ hvalid,
    hcreated.keeps.registered,
    fun partition node hnode => ⟨_, hcreated.keeps.holds partition node hnode⟩⟩

theorem orderly_create (h : c.Orderly) (request : CreateRequest) :
    (c.create request).2.Orderly := by
  rcases create_cases c request with ⟨e, hcreate⟩ | ⟨hnone, reply, cluster, hreplicated, hcreate⟩
  · rw [hcreate]
    exact h
  · have hspares := ReplicatedTable.spares_create request.table request.replicaCount
      request.layout c.settings c.cluster
    rw [hreplicated] at hspares
    rcases hcreate with ⟨e, -, hcreate⟩ | ⟨t, rfl, hcreate⟩
    · rw [hcreate]
      refine h.change hspares (fun _ _ => rfl) fun t hget => ?_
      simp [hnone] at hget
    · have hvalid := validate_of_create hcreate
      rw [hcreate]
      refine h.change hspares (fun other hother => by simp [hother]) fun other hget => ?_
      obtain rfl : t = other := by simpa using hget
      exact inOrder_of_create hvalid hreplicated

/-- What a write does to the table that it is about. -/
theorem Orderly.write_effect (h : c.Orderly) {request : OperationRequest} {t : ReplicatedTable}
    {reply : Except Error Summary} {cluster : Cluster}
    (hget : c.tables.get? (tableKey request.operation.table request.kind) = some t)
    (hwrite : t.write request.operation c.cluster = (reply, cluster)) :
    t.Effect (t.Plans request.operation) c.cluster cluster := by
  have horder := h _ t hget
  have heffect := ReplicatedTable.write_effect horder.deployed request.operation horder.known
  rwa [hwrite] at heffect

theorem orderly_write (h : c.Orderly) (expected : OperationKind) (request : OperationRequest) :
    (c.write expected request).2.Orderly := by
  rcases write_cases c expected request with
    ⟨e, hwrite⟩ | ⟨t, summary, cluster, hget, hreplicated, hwrite⟩
  · rw [hwrite]
    exact h
  · have heffect := h.write_effect hget hreplicated
    obtain ⟨hkey, ht, haccepted, hknown, hfiles⟩ := h _ t hget
    rw [hwrite]
    refine h.change heffect.spares (fun _ _ => rfl) fun other hother => ?_
    rw [← hkey] at hget
    obtain rfl : t = other := Option.some.inj (hget.symm.trans hother)
    exact ⟨rfl, ht, haccepted, heffect.registry ▸ hknown,
      fun partition node hnode => heffect.contains ht hnode (hfiles partition node hnode)⟩

theorem orderly_select (h : c.Orderly) (request : SelectRequest) :
    (c.select request).2.Orderly := by
  rcases select_cases c request with ⟨e, hselect⟩ | ⟨t, payload, -, ⟨-, hselect⟩ | ⟨-, -, hselect⟩⟩
    <;> rw [hselect] <;> exact h

/-- A change of the registry that is about the replicas of one table. -/
theorem Orderly.withRegistry (h : c.Orderly) {key : String} {t : ReplicatedTable}
    (hget : c.tables.get? key = some t) {registry : Registry}
    (hspares : c.cluster.Spares (·.key = t.table.key) { c.cluster with registry })
    (hkept : t.KnownTo registry) :
    ({ c with cluster := { c.cluster with registry } } : Coordinator).Orderly := by
  obtain ⟨rfl, ht, haccepted, -, hfiles⟩ := h key t hget
  refine h.change hspares (fun _ _ => rfl) fun other hother => ?_
  obtain rfl : t = other := Option.some.inj (hget.symm.trans hother)
  exact ⟨rfl, ht, haccepted, hkept, hfiles⟩

theorem orderly_stop (h : c.Orderly) (request : ReplicaRequest) : (c.stop request).2.Orderly := by
  rcases stop_cases c request with ⟨e, hstop⟩ | ⟨t, registry, hget, hreplicated, hstop⟩
  · rw [hstop]
    exact h
  · have horder := h _ t hget
    have hknown := horder.known.stop hreplicated
    obtain ⟨node, hnode, rfl⟩ := ReplicatedTable.stop_ok hreplicated
    rw [hstop]
    exact h.withRegistry hget (.unregister _ _ (horder.deployed.key_eq hnode)) hknown

theorem orderly_start (h : c.Orderly) (request : ReplicaRequest) :
    (c.start request).2.Orderly := by
  rcases start_cases c request with ⟨e, hstart⟩ | ⟨t, registry, hget, hreplicated, hstart⟩
  · rw [hstart]
    exact h
  · have horder := h _ t hget
    have hknown := horder.known.start horder.deployed hreplicated
    obtain ⟨node, hnode, rfl⟩ := ReplicatedTable.start_ok hreplicated
    rw [hstart]
    exact h.withRegistry hget (.register _ _ (horder.deployed.key_eq hnode)) hknown

theorem orderly_beat (h : c.Orderly) : c.beat.Orderly := by
  intro key t hget
  obtain ⟨before, hbefore, rfl⟩ : ∃ before, c.tables.get? key = some before ∧
      before.beat c.cluster = t := by simpa [beat] using hget
  exact (h key before hbefore).beat c.cluster

theorem orderly_beatTable (h : c.Orderly) (key : String) : (c.beatTable key).Orderly := by
  unfold beatTable
  cases hget : c.tables.get? key with
  | none => exact h
  | some t =>
    refine h.change (.refl (·.key = key) _) (fun other hother => by simp [hother])
      fun other hother => ?_
    obtain rfl : t.beat c.cluster = other := by simpa using hother
    exact (h key t hget).beat c.cluster

/-- **The step.**  Whatever comes of a request, all tables stay in order. -/
theorem orderly_next (h : c.Orderly) (event : Event) : (c.next event).Orderly := by
  cases event with
  | create request => exact orderly_create h request
  | write expected request => exact orderly_write h expected request
  | select request => exact orderly_select h request
  | stop request => exact orderly_stop h request
  | start request => exact orderly_start h request
  | beat => exact orderly_beat h
  | beatTable key => exact orderly_beatTable h key

/-- All tables are in order after every run. -/
theorem orderly_run (h : c.Orderly) (events : List Event) : (run next c events).Orderly := by
  induction events generalizing c with
  | nil => exact h
  | cons event rest ih => exact ih (orderly_next h event)

/-! ## Steps that leave the files -/

/-- The row of a call is torn in the file at a path: a write that is not refused plans the call for
a registered node with this file, and the writing of the row fails within the row. -/
inductive Tears (c : Coordinator) : Event → Path → Prop
  | write {expected : OperationKind} {request : OperationRequest} {summary : Summary}
      {t : ReplicatedTable} {partition : Nat} {node : StorageNode} {call : AnyCall}
      (hwrite : (c.write expected request).1 = .ok summary)
      (hget : c.tables.get? (tableKey request.operation.table request.kind) = some t)
      (hplanned : t.Plans request.operation (partition, call)) (hnode : node ∈ t.nodes partition)
      (hregistered : c.cluster.registry.get? node.id = some node)
      (htears : call.2.Tears node.store c.cluster.files) :
      Tears c (.write expected request) node.store.path

variable {torn : Path → Prop} {P : StorageNode → String → Prop}

/-- The file of a node has a text with the property, unless its path is among those that are
`torn`. -/
def HasText (torn : Path → Prop) (P : StorageNode → String → Prop) (files : FileSystem)
    (node : StorageNode) : Prop :=
  ¬ torn node.store.path → ∃ text, files.Holds node.store.path text ∧ P node text

/-- The files of all nodes have texts with the property, but for those at the paths that are
`torn`. -/
def HasTexts (torn : Path → Prop) (P : StorageNode → String → Prop) (c : Coordinator) : Prop :=
  ∀ key t, c.tables.get? key = some t → ∀ partition, ∀ node ∈ t.nodes partition,
    HasText torn P c.cluster.files node

theorem HasTexts.of_same (h : c.HasTexts torn P) (htables : c'.tables = c.tables)
    (hfiles : c'.cluster.files = c.cluster.files) : c'.HasTexts torn P := by
  unfold HasTexts HasText
  rw [htables, hfiles]
  exact h

/-- A step that is about one table keeps the texts of the others. -/
theorem HasTexts.change (h : c.HasTexts torn P) (horderly : c.Orderly) {key : String}
    (hspares : c.cluster.Spares (·.key = key) c'.cluster)
    (htables : ∀ other, other ≠ key → c'.tables.get? other = c.tables.get? other)
    (htable : ∀ t, c'.tables.get? key = some t → ∀ partition, ∀ node ∈ t.nodes partition,
      HasText torn P c'.cluster.files node) : c'.HasTexts torn P := by
  intro other t hget
  by_cases hother : other = key
  · subst hother
    exact htable t hget
  · rw [htables other hother] at hget
    intro partition node hnode hwhole
    have horder := horderly other t hget
    obtain ⟨text, hheld, htext⟩ := h other t hget partition node hnode hwhole
    exact ⟨text, hspares.contains node.id (horder.key_ne hother partition node hnode)
      (horder.deployed.isValid hnode) _ _ (horder.deployed.paths partition node hnode) hheld,
      htext⟩

/-- What can happen to a coordinator and to its surroundings. -/
inductive Incident
  | event (event : Event)
  /-- From now on other actions on files fail, and temporary files get other names. -/
  | files (faults : List Fault) (scratch : Uuid)
  /-- From now on the network delivers otherwise. -/
  | network (link : Link)

/-- Of a text whose writing fails because of an incident, nothing is written. -/
def Incident.WritesWhole : Incident → Prop
  | .files faults _ => ∀ fault ∈ faults, fault.action = .fill → fault.written = 0
  | .event _ | .network _ => True

instance : ∀ incident : Incident, Decidable incident.WritesWhole
  | .files faults _ =>
    inferInstanceAs (Decidable (∀ fault ∈ faults, fault.action = .fill → fault.written = 0))
  | .event _ | .network _ => inferInstanceAs (Decidable True)

end Coordinator

end TableStore
