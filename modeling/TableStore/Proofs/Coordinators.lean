import TableStore.Proofs.Runs

/-!
# Runs of coordinators

A coordinator takes requests about any number of tables in any order, and refuses some of them.
`Coordinator.next` is one step.

* `create_cases`, `write_cases`, `select_cases`, `stop_cases` and `start_cases` list all that a
  request can do.  Most refusals change nothing; a creation that fails may leave files behind.
* A step is about one table and spares the replicas of all others.  So what is true of the tables,
  one by one, stays true in a run if it survives the steps that are about its own table.
  `TableInvariant` says what is to be shown of these steps, and `maintains_next` derives the step
  of the coordinator from it.
-/

namespace TableStore.Coordinator

/-! ## Steps -/

/-- What can happen to a coordinator. -/
inductive Event
  | create (request : CreateRequest)
  | write (expected : OperationKind) (request : OperationRequest)
  | select (request : SelectRequest)
  | stop (request : ReplicaRequest)
  | start (request : ReplicaRequest)
  /-- A heartbeat round of all tables. -/
  | beat
  /-- A heartbeat round of one table. -/
  | beatTable (key : String)
  deriving DecidableEq, Repr

/-- The coordinator after a heartbeat round of one table, if there is one with this key. -/
def beatTable (c : Coordinator) (key : String) : Coordinator :=
  match c.tables.get? key with
  | none => c
  | some t => { c with tables := c.tables.insert key (t.beat c.cluster) }

/-- The coordinator after a step, whatever the step is answered. -/
def next (c : Coordinator) : Event → Coordinator
  | .create request => (c.create request).2
  | .write expected request => (c.write expected request).2
  | .select request => (c.select request).2
  | .stop request => (c.stop request).2
  | .start request => (c.start request).2
  | .beat => c.beat
  | .beatTable key => c.beatTable key

/-- What comes back from a step. -/
def reply (c : Coordinator) : Event → Reply
  | .create request => .outcome (c.create request).1
  | .write expected request => .summary (c.write expected request).1
  | .select request => .rows (c.select request).1
  | .stop request => .outcome (c.stop request).1
  | .start request => .outcome (c.start request).1
  | .beat | .beatTable _ => .silent

/-- The name and the kind of the table that a request names.  Heartbeat rounds are no requests. -/
def Event.table? : Event → Option (String × TableKind)
  | .create request => some (request.table.name, request.table.kind)
  | .write _ request => some (request.operation.table, request.kind)
  | .select request => some (request.table, request.kind)
  | .stop request | .start request => some (request.table, request.kind)
  | .beat | .beatTable _ => none

/-- A write that is not refused is carried out by every replica that it is meant for. -/
def CompletesWrites (c : Coordinator) : Event → Prop
  | .write expected request =>
    ∀ summary ∈ (c.write expected request).1.toOption, summary.isComplete = true
  | _ => True

instance (c : Coordinator) : ∀ event, Decidable (c.CompletesWrites event)
  | .write _ _ => inferInstanceAs (Decidable (∀ _ ∈ _, _))
  | .create _ | .select _ | .stop _ | .start _ | .beat | .beatTable _ =>
    inferInstanceAs (Decidable True)

variable {c c' : Coordinator}

theorem find_ok {kind : TableKind} {name : String} {t : ReplicatedTable}
    (h : c.find kind name = .ok t) : c.tables.get? (tableKey name kind) = some t := by
  unfold find at h
  split at h
  · next found hfound =>
    obtain rfl : found = t := by simpa using h
    exact hfound
  · simp at h

theorem create_cases (c : Coordinator) (request : CreateRequest) :
    (∃ e, c.create request = (.error e, c)) ∨
    (c.tables.get? request.table.key = none ∧
      ∃ reply cluster, ReplicatedTable.create request.table request.replicaCount request.layout
          c.settings c.cluster = (reply, cluster) ∧
        ((∃ e, reply = .error e ∧ c.create request = (.error e, { c with cluster })) ∨
          ∃ t, reply = .ok t ∧ c.create request = (.ok (), { c with
            tables := c.tables.insert request.table.key t
            cache := c.cache.erase request.table.key
            cluster }))) := by
  simp only [create]
  cases request.table.validate with
  | error e => exact Or.inl ⟨e, rfl⟩
  | ok _ =>
    simp only
    by_cases htaken : c.tables.contains request.table.key = true
    · rw [if_pos htaken]
      exact Or.inl ⟨_, rfl⟩
    · rw [if_neg htaken]
      have hnone : c.tables.get? request.table.key = none := by
        simpa [KeyMap.contains] using htaken
      cases hcreate : ReplicatedTable.create request.table request.replicaCount request.layout
        c.settings c.cluster with
      | mk reply cluster =>
        refine Or.inr ⟨hnone, reply, cluster, rfl, ?_⟩
        cases reply with
        | error e => exact Or.inl ⟨e, rfl, rfl⟩
        | ok t => exact Or.inr ⟨t, rfl, rfl⟩

/-- A write is about the table that was found, and was checked against it. -/
theorem writable_ok {expected : OperationKind} {request : OperationRequest} {t : ReplicatedTable}
    (h : c.writable expected request = .ok t) :
    c.tables.get? (tableKey request.operation.table request.kind) = some t ∧
      request.operation.validate t.table = .ok () := by
  simp only [writable] at h
  split at h
  · simp at h
  · cases hfind : c.find request.kind request.operation.table with
    | error e => simp [hfind] at h
    | ok found =>
      cases hvalid : request.operation.validate found.table with
      | error e => simp [hfind, hvalid, Except.map] at h
      | ok _ =>
        obtain rfl : found = t := by simpa [hfind, hvalid, Except.map] using h
        exact ⟨find_ok hfind, hvalid⟩

theorem write_cases (c : Coordinator) (expected : OperationKind) (request : OperationRequest) :
    (∃ e, c.write expected request = (.error e, c)) ∨
    ∃ t summary cluster,
      c.tables.get? (tableKey request.operation.table request.kind) = some t ∧
      t.write request.operation c.cluster = (.ok summary, cluster) ∧
      c.write expected request =
        (.ok summary, { c with cache := c.cache.erase t.table.key, cluster }) := by
  unfold write
  cases hwritable : c.writable expected request with
  | error e => exact Or.inl ⟨e, rfl⟩
  | ok t =>
    rcases ReplicatedTable.write_cases t request.operation c.cluster with
      ⟨e, hwrite⟩ | ⟨plan, -, -, hwrite⟩
    · exact Or.inl ⟨e, by simp only [hwrite]⟩
    · exact Or.inr ⟨t, _, _, (writable_ok hwritable).1, hwrite, by simp only [hwrite]⟩

theorem select_cases (c : Coordinator) (request : SelectRequest) :
    (∃ e, c.select request = (.error e, c)) ∨
    ∃ t payload, c.tables.get? (tableKey request.table request.kind) = some t ∧
      ((c.cache.get? t.table.key = some payload ∧ c.select request = (.ok payload, c)) ∨
        (c.cache.get? t.table.key = none ∧ t.select c.cluster = .ok payload ∧
          c.select request =
            (.ok payload, { c with cache := c.cache.insert t.table.key payload }))) := by
  unfold select
  cases hfind : c.find request.kind request.table with
  | error e => exact Or.inl ⟨e, rfl⟩
  | ok t =>
    simp only
    cases hcached : c.cache.get? t.table.key with
    | some payload => exact Or.inr ⟨t, payload, find_ok hfind, Or.inl ⟨hcached, rfl⟩⟩
    | none =>
      cases hselect : t.select c.cluster with
      | error e => exact Or.inl ⟨e, rfl⟩
      | ok payload => exact Or.inr ⟨t, payload, find_ok hfind, Or.inr ⟨hcached, hselect, rfl⟩⟩

theorem stop_cases (c : Coordinator) (request : ReplicaRequest) :
    (∃ e, c.stop request = (.error e, c)) ∨
    ∃ t registry, c.tables.get? (tableKey request.table request.kind) = some t ∧
      t.stop request.partition request.replica c.cluster.registry = .ok registry ∧
      c.stop request = (.ok (), { c with cluster := { c.cluster with registry } }) := by
  unfold stop
  cases hfind : c.find request.kind request.table with
  | error e => exact Or.inl ⟨e, rfl⟩
  | ok t =>
    simp only
    cases hstop : t.stop request.partition request.replica c.cluster.registry with
    | error e => exact Or.inl ⟨e, rfl⟩
    | ok registry => exact Or.inr ⟨t, registry, find_ok hfind, hstop, rfl⟩

theorem start_cases (c : Coordinator) (request : ReplicaRequest) :
    (∃ e, c.start request = (.error e, c)) ∨
    ∃ t registry, c.tables.get? (tableKey request.table request.kind) = some t ∧
      t.start request.partition request.replica c.cluster.registry = .ok registry ∧
      c.start request = (.ok (), { c with cluster := { c.cluster with registry } }) := by
  unfold start
  cases hfind : c.find request.kind request.table with
  | error e => exact Or.inl ⟨e, rfl⟩
  | ok t =>
    simp only
    cases hstart : t.start request.partition request.replica c.cluster.registry with
    | error e => exact Or.inl ⟨e, rfl⟩
    | ok registry => exact Or.inr ⟨t, registry, find_ok hfind, hstart, rfl⟩

/-! ## Invariants of single tables -/

/-- What is to be shown for a property `P` of a table, the texts of its replicas and its cached
rows to be true throughout a run.  `Q` is about what the tables share. -/
structure TableInvariant (Q : Cluster → Prop)
    (P : ReplicatedTable → (ReplicaId → String) → Option String → Prop) : Prop where
  cluster : ∀ {touched : ReplicaId → Prop} {cluster cluster' : Cluster}, Q cluster →
    cluster.Spares touched cluster' → Q cluster'
  create : ∀ {table : TableDef} {count : Nat} {layout : Layout} {settings : ReplicationSettings}
    {cluster cluster' : Cluster} {t : ReplicatedTable}, Q cluster →
    ReplicatedTable.create table count layout settings cluster = (.ok t, cluster') →
    P t t.newText none
  write : ∀ {t : ReplicatedTable} {held : ReplicaId → String} {cached : Option String}
    {operation : Operation} {cluster cluster' : Cluster} {summary : Summary}, Q cluster →
    t.Deployed → t.Keeps held cluster → P t held cached →
    t.write operation cluster = (.ok summary, cluster') → summary.isComplete = true →
    ∃ held', t.Keeps held' cluster' ∧ P t held' none
  select : ∀ {t : ReplicatedTable} {held : ReplicaId → String} {cluster : Cluster}
    {payload : String}, Q cluster → t.Deployed → t.Keeps held cluster → P t held none →
    t.select cluster = .ok payload → P t held (some payload)
  beat : ∀ {t : ReplicatedTable} {held : ReplicaId → String} {cached : Option String}
    {cluster : Cluster}, Q cluster → t.Deployed → P t held cached →
    P (t.beat cluster) held cached

variable {Q : Cluster → Prop} {P : ReplicatedTable → (ReplicaId → String) → Option String → Prop}

/-- A table with the given key that the cluster keeps and that has the property. -/
def Maintained (P : ReplicatedTable → (ReplicaId → String) → Option String → Prop)
    (cluster : Cluster) (key : String) (t : ReplicatedTable) (cached : Option String) : Prop :=
  t.table.key = key ∧ t.Deployed ∧ ∃ held, t.Keeps held cluster ∧ P t held cached

/-- All tables have the property, and the cache holds rows of existing tables only. -/
structure Maintains (Q : Cluster → Prop)
    (P : ReplicatedTable → (ReplicaId → String) → Option String → Prop) (c : Coordinator) :
    Prop where
  cluster : Q c.cluster
  table : ∀ key t, c.tables.get? key = some t →
    Maintained P c.cluster key t (c.cache.get? key)
  rest : ∀ key, c.tables.get? key = none → c.cache.get? key = none

theorem maintains_empty {cluster : Cluster} (settings : ReplicationSettings) (h : Q cluster) :
    (empty cluster settings).Maintains Q P where
  cluster := h
  table := by simp [empty]
  rest := by simp [empty]

/-- A table is not affected by what spares its replicas. -/
theorem Maintained.of_spares {cluster cluster' : Cluster} {key other : String}
    {t : ReplicatedTable} {cached : Option String} (h : Maintained P cluster other t cached)
    (hspares : cluster.Spares (·.key = key) cluster') (hne : other ≠ key) :
    Maintained P cluster' other t cached := by
  obtain ⟨hkey, ht, held, hkeeps, hp⟩ := h
  refine ⟨hkey, ht, held, hkeeps.of_spares ht hspares fun partition node hnode htouched => ?_, hp⟩
  exact hne (hkey.symm.trans ((ht.key_eq hnode).symm.trans htouched))

/-- A change of one table and of its cached rows keeps what is true of all tables if it keeps what
is true of this one. -/
theorem Maintains.change (hP : TableInvariant Q P) (h : c.Maintains Q P) {key : String}
    (hspares : c.cluster.Spares (·.key = key) c'.cluster)
    (htables : ∀ other, other ≠ key → c'.tables.get? other = c.tables.get? other)
    (hcache : ∀ other, other ≠ key → c'.cache.get? other = c.cache.get? other)
    (htable : ∀ t, c'.tables.get? key = some t →
      Maintained P c'.cluster key t (c'.cache.get? key))
    (hrest : c'.tables.get? key = none → c'.cache.get? key = none) : c'.Maintains Q P where
  cluster := hP.cluster h.cluster hspares
  table other t hget := by
    by_cases hother : other = key
    · subst hother
      exact htable t hget
    · rw [htables other hother] at hget
      rw [hcache other hother]
      exact (h.table other t hget).of_spares hspares hother
  rest other hget := by
    by_cases hother : other = key
    · subst hother
      exact hrest hget
    · rw [htables other hother] at hget
      rw [hcache other hother]
      exact h.rest other hget

theorem maintains_create (hP : TableInvariant Q P) (h : c.Maintains Q P)
    (request : CreateRequest) : (c.create request).2.Maintains Q P := by
  rcases create_cases c request with ⟨e, hcreate⟩ | ⟨hnone, reply, cluster, hreplicated, hcreate⟩
  · rw [hcreate]
    exact h
  · have hspares := ReplicatedTable.spares_create request.table request.replicaCount
      request.layout c.settings c.cluster
    rw [hreplicated] at hspares
    rcases hcreate with ⟨e, -, hcreate⟩ | ⟨t, rfl, hcreate⟩ <;> rw [hcreate]
    · refine h.change hP hspares (fun _ _ => rfl) (fun _ _ => rfl) (fun t hget => ?_) (h.rest _)
      simp [hnone] at hget
    · have hcreated := ReplicatedTable.create_ok hreplicated
      refine h.change hP hspares (fun other hother => ?_) (fun other hother => ?_)
        (fun other hget => ?_) (by simp)
      · simp [hother]
      · simp [hother]
      · obtain rfl : t = other := by simpa using hget
        refine ⟨congrArg TableDef.key hcreated.table, hcreated.deployed, t.newText,
          hcreated.keeps, ?_⟩
        simpa using hP.create h.cluster hreplicated

theorem maintains_write (hP : TableInvariant Q P) (h : c.Maintains Q P)
    {expected : OperationKind} {request : OperationRequest}
    (hcomplete : c.CompletesWrites (.write expected request)) :
    (c.write expected request).2.Maintains Q P := by
  rcases write_cases c expected request with
    ⟨e, hwrite⟩ | ⟨t, summary, cluster, hget, hreplicated, hwrite⟩
  · rw [hwrite]
    exact h
  · obtain ⟨hkey, ht, held, hkeeps, hp⟩ := h.table _ t hget
    have hsummary : summary.isComplete = true :=
      hcomplete summary (by simp [hwrite, Except.toOption])
    obtain ⟨held', hkeeps', hp'⟩ := hP.write h.cluster ht hkeeps hp hreplicated hsummary
    have heffect := ReplicatedTable.write_effect ht request.operation hkeeps.registered
    rw [hreplicated] at heffect
    rw [hwrite]
    refine h.change hP heffect.spares (fun _ _ => rfl) (fun other hother => ?_)
      (fun other hother => ?_) (by simp)
    · simp [hother]
    · rw [← hkey] at hget
      obtain rfl : t = other := Option.some.inj (hget.symm.trans hother)
      exact ⟨rfl, ht, held', hkeeps', by simpa using hp'⟩

theorem maintains_select (hP : TableInvariant Q P) (h : c.Maintains Q P)
    (request : SelectRequest) : (c.select request).2.Maintains Q P := by
  rcases select_cases c request with ⟨e, hselect⟩ | ⟨t, payload, hget, hselect⟩
  · rw [hselect]
    exact h
  · rcases hselect with ⟨-, hselect⟩ | ⟨hcached, hreplicated, hselect⟩ <;> rw [hselect]
    · exact h
    · obtain ⟨hkey, ht, held, hkeeps, hp⟩ := h.table _ t hget
      rw [← hkey] at hget hp
      rw [hcached] at hp
      refine h.change hP (.refl (·.key = t.table.key) _) (fun _ _ => rfl) (fun other hother => ?_)
        (fun other hother => ?_) (by simp [hget])
      · simp [hother]
      · obtain rfl : t = other := Option.some.inj (hget.symm.trans hother)
        refine ⟨rfl, ht, held, hkeeps, ?_⟩
        simpa using hP.select h.cluster ht hkeeps hp hreplicated

/-- A change of the registry that is about the replicas of one table. -/
theorem Maintains.withRegistry (hP : TableInvariant Q P) (h : c.Maintains Q P) {key : String}
    {t : ReplicatedTable} (hget : c.tables.get? key = some t) {registry : Registry}
    (hspares : c.cluster.Spares (·.key = t.table.key) { c.cluster with registry })
    (hkept : ∀ held, t.Keeps held c.cluster → t.Keeps held { c.cluster with registry }) :
    ({ c with cluster := { c.cluster with registry } } : Coordinator).Maintains Q P := by
  obtain ⟨rfl, ht, held, hkeeps, hp⟩ := h.table key t hget
  refine h.change hP hspares (fun _ _ => rfl) (fun _ _ => rfl) (fun other hother => ?_) (h.rest _)
  obtain rfl : t = other := Option.some.inj (hget.symm.trans hother)
  exact ⟨rfl, ht, held, hkept held hkeeps, hp⟩

theorem maintains_stop (hP : TableInvariant Q P) (h : c.Maintains Q P)
    (request : ReplicaRequest) : (c.stop request).2.Maintains Q P := by
  rcases stop_cases c request with ⟨e, hstop⟩ | ⟨t, registry, hget, hreplicated, hstop⟩
  · rw [hstop]
    exact h
  · obtain ⟨-, ht, -⟩ := h.table _ t hget
    obtain ⟨node, hnode, rfl⟩ := ReplicatedTable.stop_ok hreplicated
    rw [hstop]
    exact h.withRegistry hP hget (.unregister _ _ (ht.key_eq hnode))
      fun _ hkeeps => hkeeps.stop hreplicated

theorem maintains_start (hP : TableInvariant Q P) (h : c.Maintains Q P)
    (request : ReplicaRequest) : (c.start request).2.Maintains Q P := by
  rcases start_cases c request with ⟨e, hstart⟩ | ⟨t, registry, hget, hreplicated, hstart⟩
  · rw [hstart]
    exact h
  · obtain ⟨-, ht, -⟩ := h.table _ t hget
    obtain ⟨node, hnode, rfl⟩ := ReplicatedTable.start_ok hreplicated
    rw [hstart]
    exact h.withRegistry hP hget (.register _ _ (ht.key_eq hnode))
      fun _ hkeeps => hkeeps.start ht hreplicated

theorem Maintained.beat (hP : TableInvariant Q P) {cluster : Cluster} (hq : Q cluster)
    {key : String} {t : ReplicatedTable} {cached : Option String}
    (h : Maintained P cluster key t cached) :
    Maintained P cluster key (t.beat cluster) cached := by
  obtain ⟨hkey, ht, held, hkeeps, hp⟩ := h
  exact ⟨hkey, ht.beat cluster, held, hkeeps.beat cluster, hP.beat hq ht hp⟩

theorem maintains_beat (hP : TableInvariant Q P) (h : c.Maintains Q P) :
    c.beat.Maintains Q P where
  cluster := h.cluster
  table key t hget := by
    obtain ⟨before, hbefore, rfl⟩ : ∃ before, c.tables.get? key = some before ∧
        before.beat c.cluster = t := by simpa [beat] using hget
    exact (h.table key before hbefore).beat hP h.cluster
  rest key hget := h.rest key (by simpa [beat] using hget)

theorem maintains_beatTable (hP : TableInvariant Q P) (h : c.Maintains Q P) (key : String) :
    (c.beatTable key).Maintains Q P := by
  unfold beatTable
  cases hget : c.tables.get? key with
  | none => exact h
  | some t =>
    refine h.change hP (.refl (·.key = key) _) (fun other hother => ?_) (fun _ _ => rfl)
      (fun other hother => ?_) (by simp)
    · simp [hother]
    · obtain rfl : t.beat c.cluster = other := by simpa using hother
      exact (h.table key t hget).beat hP h.cluster

/-- **The step.**  What is true of all tables stays true. -/
theorem maintains_next (hP : TableInvariant Q P) (h : c.Maintains Q P) {event : Event}
    (hcomplete : c.CompletesWrites event) : (c.next event).Maintains Q P := by
  cases event with
  | create request => exact maintains_create hP h request
  | write expected request => exact maintains_write hP h hcomplete
  | select request => exact maintains_select hP h request
  | stop request => exact maintains_stop hP h request
  | start request => exact maintains_start hP h request
  | beat => exact maintains_beat hP h
  | beatTable key => exact maintains_beatTable hP h key

/-- What is true of all tables is so after every run in which writes complete. -/
theorem maintains_run (hP : TableInvariant Q P) {cluster : Cluster} (hq : Q cluster)
    {settings : ReplicationSettings} {events : List Event}
    (hcomplete : Throughout next CompletesWrites (empty cluster settings) events) :
    (run next (empty cluster settings) events).Maintains Q P := by
  have hstep : ∀ (c : Coordinator) event, c.Maintains Q P → c.CompletesWrites event →
      (c.next event).Maintains Q P := fun _ _ h hcomplete => maintains_next hP h hcomplete
  exact hcomplete.invariant hstep (maintains_empty settings hq)

end TableStore.Coordinator
