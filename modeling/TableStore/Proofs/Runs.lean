import TableStore.Coordinator.Basic
import TableStore.Proofs.Writes

/-!
# Runs

A table in service is written and read, its replicas are stopped and started, and heartbeat rounds
pass, in any order.  `LiveTable.act` is one such step.

`Throughout next P` says that every step of a run is taken in a state in which `P` allows it.
`Throughout.invariant` is the induction over runs: what one allowed step keeps, an allowed run
keeps.

`InService held` is what every step keeps whatever is written (`act_of_not_write`), and
`created_inService` says that a run begins with it.
-/

namespace TableStore

open FileSystem (Outcome)

/-! ## Runs of any system -/

section

variable {σ α : Type}

/-- The state after the given steps. -/
def run (next : σ → α → σ) (state : σ) (steps : List α) : σ := steps.foldl next state

/-- Every step is taken in a state that allows it. -/
def Throughout (next : σ → α → σ) (P : σ → α → Prop) : σ → List α → Prop
  | _, [] => True
  | state, step :: rest => P state step ∧ Throughout next P (next state step) rest

instance Throughout.decidable (next : σ → α → σ) (P : σ → α → Prop)
    [∀ state step, Decidable (P state step)] :
    ∀ state steps, Decidable (Throughout next P state steps)
  | _, [] => inferInstanceAs (Decidable True)
  | state, step :: rest =>
    have := Throughout.decidable next P (next state step) rest
    inferInstanceAs (Decidable (_ ∧ _))

variable {next : σ → α → σ} {P Q : σ → α → Prop} {Inv : σ → Prop}

/-- What allowed steps keep is true after an allowed run. -/
theorem Throughout.invariant
    (hstep : ∀ state step, Inv state → P state step → Inv (next state step)) {state : σ}
    {steps : List α} (hinv : Inv state) (h : Throughout next P state steps) :
    Inv (run next state steps) := by
  induction steps generalizing state with
  | nil => exact hinv
  | cons step rest ih => exact ih (hstep state step hinv h.1) h.2

/-- What holds of every allowed step in a state with the invariant holds throughout. -/
theorem Throughout.of_invariant
    (hstep : ∀ state step, Inv state → P state step → Inv (next state step))
    (himp : ∀ state step, Inv state → P state step → Q state step) {state : σ}
    {steps : List α} (hinv : Inv state) (h : Throughout next P state steps) :
    Throughout next Q state steps := by
  induction steps generalizing state with
  | nil => trivial
  | cons step rest ih =>
    exact ⟨himp state step hinv h.1, ih (hstep state step hinv h.1) h.2⟩

end

/-! ## Tables in service -/

/-- A table with the cluster that serves it. -/
structure LiveTable where
  table : ReplicatedTable
  cluster : Cluster

/-- What can happen to a table. -/
inductive Action
  | write (operation : Operation)
  | select
  | stop (partition replica : Nat)
  | start (partition replica : Nat)
  /-- A heartbeat round. -/
  | beat
  deriving DecidableEq, Repr

/-- What comes back from a step. -/
inductive Reply
  | outcome (result : Except Error Unit)
  | summary (result : Except Error Summary)
  | rows (result : Except Error String)
  | silent
  deriving DecidableEq

namespace LiveTable

/-- The table with another registry, or as it is if there is none. -/
def withRegistry (live : LiveTable) : Except Error Registry → LiveTable
  | .error _ => live
  | .ok registry => ⟨live.table, { live.cluster with registry }⟩

/-- The table after an action. -/
def act (live : LiveTable) : Action → LiveTable
  | .write operation => ⟨live.table, (live.table.write operation live.cluster).2⟩
  | .select => live
  | .stop partition replica =>
    live.withRegistry (live.table.stop partition replica live.cluster.registry)
  | .start partition replica =>
    live.withRegistry (live.table.start partition replica live.cluster.registry)
  | .beat => ⟨live.table.beat live.cluster, live.cluster⟩

/-- The summary of a write that is not refused. -/
def summary? (live : LiveTable) : Action → Option Summary
  | .write operation => (live.table.write operation live.cluster).1.toOption
  | _ => none

/-- All rows of the table. -/
def select (live : LiveTable) : Except Error String := live.table.select live.cluster

/-- The table as it is created in a cluster. -/
def launched (table : TableDef) (replicaCount : Nat) (layout : Layout)
    (settings : ReplicationSettings) (cluster : Cluster) : Except Error LiveTable :=
  match ReplicatedTable.create table replicaCount layout settings cluster with
  | (.error e, _) => .error e
  | (.ok t, cluster) => .ok ⟨t, cluster⟩

/-- The table as a coordinator creates it. -/
def created (c : Coordinator) (request : CreateRequest) : Except Error LiveTable :=
  match c.create request with
  | (.error e, _) => .error e
  | (.ok (), c) =>
    (c.find request.table.kind request.table.name).map fun table => ⟨table, c.cluster⟩

/-- The table is served, and the files of its replicas have the given texts. -/
structure InService (live : LiveTable) (held : ReplicaId → String) : Prop where
  deployed : live.table.Deployed
  serves : live.table.Serves held live.cluster

/-- All replicas are registered and taken for alive. -/
structure Untroubled (live : LiveTable) : Prop where
  alive : ∀ partition, ∀ replica ∈ live.table.replicas partition, replica.alive = true
  reached : ∀ partition, ∀ node ∈ live.table.nodes partition,
    live.cluster.registry.reaches node.id = true

variable {live : LiveTable} {held : ReplicaId → String}

/-- What an action cannot change: all of a table but what its replicas are remembered as. -/
structure SameTable (first second : LiveTable) : Prop where
  table : second.table.table = first.table.table
  router : second.table.router = first.table.router
  nodes : ∀ partition, second.table.nodes partition = first.table.nodes partition

theorem SameTable.refl (live : LiveTable) : SameTable live live := ⟨rfl, rfl, fun _ => rfl⟩

theorem sameTable_act (live : LiveTable) (action : Action) : SameTable live (live.act action) := by
  cases action with
  | write operation => exact ⟨rfl, rfl, fun _ => rfl⟩
  | select => exact SameTable.refl live
  | stop partition replica =>
    simp only [act]
    cases live.table.stop partition replica live.cluster.registry <;>
      exact ⟨rfl, rfl, fun _ => rfl⟩
  | start partition replica =>
    simp only [act]
    cases live.table.start partition replica live.cluster.registry <;>
      exact ⟨rfl, rfl, fun _ => rfl⟩
  | beat => exact ⟨rfl, rfl, ReplicatedTable.nodes_beat _ _⟩

/-- What is true of a table from its creation on stays true. -/
theorem deployed_act (h : live.table.Deployed) (action : Action) :
    (live.act action).table.Deployed := by
  cases action with
  | write operation => exact h
  | select => exact h
  | stop partition replica =>
    simp only [act]
    cases live.table.stop partition replica live.cluster.registry <;> exact h
  | start partition replica =>
    simp only [act]
    cases live.table.start partition replica live.cluster.registry <;> exact h
  | beat => exact h.beat _

theorem deployed_run (h : live.table.Deployed) (actions : List Action) :
    (run act live actions).table.Deployed := by
  induction actions generalizing live with
  | nil => exact h
  | cons action rest ih => exact ih (deployed_act h action)

/-- A registry that knows a table knows it after every action, however the network and the files
behave. -/
theorem knownTo_act (ht : live.table.Deployed) (hknown : live.table.KnownTo live.cluster.registry)
    (action : Action) : (live.act action).table.KnownTo (live.act action).cluster.registry := by
  cases action with
  | write operation =>
    simp only [act, (ReplicatedTable.write_effect ht operation hknown).registry]
    exact hknown
  | select => exact hknown
  | stop partition replica =>
    simp only [act]
    cases hstop : live.table.stop partition replica live.cluster.registry with
    | error e => exact hknown
    | ok registry => exact hknown.stop hstop
  | start partition replica =>
    simp only [act]
    cases hstart : live.table.start partition replica live.cluster.registry with
    | error e => exact hknown
    | ok registry => exact hknown.start ht hstart
  | beat => exact hknown.beat _

/-- Nothing but a write changes files, however the network and the files behave. -/
theorem files_act_of_not_write {action : Action} (hnot : ∀ operation, action ≠ .write operation) :
    (live.act action).cluster.files = live.cluster.files := by
  cases action with
  | write operation => exact absurd rfl (hnot operation)
  | select => rfl
  | stop partition replica =>
    simp only [act]
    cases live.table.stop partition replica live.cluster.registry <;> rfl
  | start partition replica =>
    simp only [act]
    cases live.table.start partition replica live.cluster.registry <;> rfl
  | beat => rfl

/-- Nothing but a write changes a table in service. -/
theorem InService.act_of_not_write (h : live.InService held) {action : Action}
    (hnot : ∀ operation, action ≠ .write operation) : (live.act action).InService held := by
  obtain ⟨ht, hs⟩ := h
  cases action with
  | write operation => exact absurd rfl (hnot operation)
  | select => exact ⟨ht, hs⟩
  | stop partition replica =>
    simp only [act]
    cases hstop : live.table.stop partition replica live.cluster.registry with
    | error e => exact ⟨ht, hs⟩
    | ok registry => exact ⟨ht, hs.stop hstop⟩
  | start partition replica =>
    simp only [act]
    cases hstart : live.table.start partition replica live.cluster.registry with
    | error e => exact ⟨ht, hs⟩
    | ok registry => exact ⟨ht, hs.start ht hstart⟩
  | beat => exact ⟨ht.beat _, hs.beat _⟩

/-- A write that is refused changes nothing. -/
theorem act_write_of_error {operation : Operation} {e : Error}
    (h : (live.table.write operation live.cluster).1 = .error e) :
    live.act (.write operation) = live := by
  rcases ReplicatedTable.write_cases live.table operation live.cluster with
    ⟨e', hwrite⟩ | ⟨plan, -, -, hwrite⟩
  · simp only [act, hwrite]
  · simp [hwrite] at h

/-- Whether a write is not refused and carried out by all replicas that it is meant for. -/
def completes (live : LiveTable) (operation : Operation) : Bool :=
  (live.summary? (.write operation)).any Summary.isComplete

/-- What a complete write makes of a table in service. -/
theorem act_of_completes {operation : Operation} (h : live.completes operation = true) :
    ∃ summary cluster, live.table.write operation live.cluster = (.ok summary, cluster) ∧
      summary.failures = [] ∧ live.act (.write operation) = ⟨live.table, cluster⟩ := by
  cases houtcome : live.table.write operation live.cluster with
  | mk reply cluster =>
    cases reply with
    | error e => simp [completes, summary?, houtcome, Except.toOption] at h
    | ok summary =>
      have hcomplete : summary.isComplete = true := by
        simpa [completes, summary?, houtcome, Except.toOption] using h
      refine ⟨summary, cluster, rfl, ?_, by rw [act, houtcome]⟩
      exact ReplicatedTable.failures_of_isComplete houtcome hcomplete

/-! ## Creation -/

theorem launched_ok {table : TableDef} {replicaCount : Nat} {layout : Layout}
    {settings : ReplicationSettings} {cluster : Cluster}
    (h : launched table replicaCount layout settings cluster = .ok live) :
    ReplicatedTable.create table replicaCount layout settings cluster =
      (.ok live.table, live.cluster) := by
  unfold launched at h
  split at h
  · simp at h
  · next t cluster' hcreate =>
    obtain rfl : ⟨t, cluster'⟩ = live := by simpa using h
    exact hcreate

theorem created_ok {c : Coordinator} {request : CreateRequest}
    (h : created c request = .ok live) :
    request.table.validate = .ok () ∧
      ReplicatedTable.create request.table request.replicaCount request.layout c.settings
        c.cluster = (.ok live.table, live.cluster) := by
  unfold created Coordinator.create at h
  cases hvalid : request.table.validate with
  | error e => simp [hvalid] at h
  | ok _ =>
    simp only [hvalid] at h
    split at h
    · simp at h
    · next c' hcreate =>
      split at hcreate
      · simp at hcreate
      · split at hcreate
        · simp at hcreate
        · next t cluster hreplicated =>
          obtain rfl : _ = c' := by simpa using hcreate
          obtain rfl : ⟨t, cluster⟩ = live := by
            simpa [Coordinator.find, TableDef.key, Except.map] using h
          exact ⟨rfl, hreplicated⟩

/-- **A table that was created is in service with empty stores.** -/
theorem created_inService {c : Coordinator} {request : CreateRequest}
    (hresponds : c.cluster.registry.Responds) (hreads : c.cluster.files.Readable)
    (h : created c request = .ok live) :
    live.InService live.table.newText ∧ live.table.table = request.table ∧
      live.table.router = ⟨request.layout⟩ ∧ live.Untroubled := by
  obtain ⟨-, hcreate⟩ := created_ok h
  have hcreated := ReplicatedTable.create_ok hcreate
  have hs := ReplicatedTable.create_serves hresponds hreads hcreate
  refine ⟨⟨hcreated.deployed, hs⟩, hcreated.table, hcreated.router, ?_, ?_⟩
  · intro partition replica hreplica
    exact (hcreated.alive partition replica hreplica).2 hs.responds
  · intro partition node hnode
    simp [Registry.reaches, hcreated.registered partition node hnode]

/-! ## Tests on concrete tables -/

/-- A coordinator without tables whose nodes are called directly. -/
def emptyCoordinator : Coordinator := .empty ⟨.direct, .empty⟩ ⟨["data"], 1000⟩

/-- A creation whose outcome passes a test has an outcome. -/
theorem exists_of_test (outcome : Except Error LiveTable) (P : LiveTable → Prop)
    [DecidablePred P]
    (h : (match outcome with | .ok live => decide (P live) | .error _ => false) = true) :
    ∃ live, outcome = .ok live ∧ P live := by
  cases outcome with
  | error e => simp at h
  | ok live => exact ⟨live, rfl, by simpa using h⟩

/-- Two creations whose outcomes pass a test have outcomes. -/
theorem exists_both_of_test (first second : Except Error LiveTable)
    (P : LiveTable × LiveTable → Prop) [DecidablePred P]
    (h : (match first, second with
      | .ok live, .ok live' => decide (P (live, live'))
      | _, _ => false) = true) :
    ∃ live live', first = .ok live ∧ second = .ok live' ∧ P (live, live') := by
  cases first with
  | error e => simp at h
  | ok live =>
    cases second with
    | error e => simp at h
    | ok live' => exact ⟨live, live', rfl, rfl, by simpa using h⟩

end LiveTable

end TableStore
