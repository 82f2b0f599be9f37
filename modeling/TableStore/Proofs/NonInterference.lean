import TableStore.Proofs.AnyRuns
import TableStore.Proofs.SharedTables

/-!
# Tables do not interfere

A coordinator serves any number of tables, which share its registry, its cache and its files.  What
is asked of other tables makes no difference to a table.

`Twins key` relates two coordinators that have the table of a key in common.  A request about
another table, made to one of them only, leaves them so (`next_other`).  A request about the table
itself, made to both, is answered the same, and heartbeat rounds find the same (`next_own`).
`tables_do_not_interfere` compares a run with the one from which all requests about other tables
are left out.
-/

namespace TableStore.Coordinator

/-! ## Coordinators with one table in common -/

/-- The data directory is there if there are tables. -/
def Housed (c : Coordinator) : Prop :=
  ∀ key t, c.tables.get? key = some t → c.cluster.files.Made c.settings.dataDir

/-- Two coordinators have the table of a key in common, or would create it alike. -/
structure Twins (key : String) (scratch : Uuid) (c d : Coordinator) : Prop where
  settings : d.settings = c.settings
  orderly : c.Orderly ∧ d.Orderly
  housed : c.Housed ∧ d.Housed
  table : d.tables.get? key = c.tables.get? key
  cached : d.cache.get? key = c.cache.get? key
  paths : ∀ t, c.tables.get? key = some t → ∀ partition, ∀ node ∈ t.nodes partition,
    node.store.path = c.settings.dataDir.join [node.id.fileName]
  joined : c.cluster.Joined key c.settings.dataDir scratch d.cluster

/-- A heartbeat round of the tables whose keys are `asked` for, and nothing else. -/
structure Beats (asked : String → Prop) [DecidablePred asked] (c c' : Coordinator) : Prop where
  tables : ∀ key, c'.tables.get? key =
    if asked key then (c.tables.get? key).map (·.beat c.cluster) else c.tables.get? key
  cache : c'.cache = c.cache
  cluster : c'.cluster = c.cluster
  settings : c'.settings = c.settings

theorem beats_beat (c : Coordinator) : Beats (fun _ => True) c c.beat :=
  ⟨fun key => by simp [beat], rfl, rfl, rfl⟩

theorem beats_beatTable (c : Coordinator) (asked : String) :
    Beats (· = asked) c (c.beatTable asked) := by
  unfold beatTable
  cases hget : c.tables.get? asked with
  | none =>
    refine ⟨fun key => ?_, rfl, rfl, rfl⟩
    by_cases hkey : key = asked
    · simp [hkey, hget]
    · simp [hkey]
  | some t =>
    refine ⟨fun key => ?_, rfl, rfl, rfl⟩
    by_cases hkey : key = asked
    · simp [hkey, hget]
    · simp [hkey]

/-- Each table after a heartbeat round was there before, with the same nodes. -/
theorem Beats.origin {asked : String → Prop} [DecidablePred asked] {c c' : Coordinator}
    (h : Beats asked c c') {key : String} {t : ReplicatedTable}
    (hget : c'.tables.get? key = some t) :
    ∃ before, c.tables.get? key = some before ∧ t.nodes = before.nodes := by
  rw [h.tables] at hget
  split at hget
  · obtain ⟨before, hbefore, rfl⟩ := Option.map_eq_some_iff.1 hget
    exact ⟨before, hbefore, funext fun partition => ReplicatedTable.nodes_beat before c.cluster _⟩
  · exact ⟨t, hget, rfl⟩

theorem Beats.housed {asked : String → Prop} [DecidablePred asked] {c c' : Coordinator}
    (h : Beats asked c c') (hhoused : c.Housed) : c'.Housed := by
  intro key t hget
  obtain ⟨before, hbefore, -⟩ := h.origin hget
  rw [h.cluster, h.settings]
  exact hhoused key before hbefore

/-- The creation of a table whose name is not taken. -/
theorem create_of_vacant {c : Coordinator} {request : CreateRequest}
    (hvalid : request.table.validate = .ok ())
    (hvacant : c.tables.contains request.table.key = false) {cluster : Cluster}
    {reply : Except Error ReplicatedTable}
    (h : ReplicatedTable.create request.table request.replicaCount request.layout c.settings
      c.cluster = (reply, cluster)) :
    c.create request = match reply with
      | .error e => (.error e, { c with cluster })
      | .ok t => (.ok (), { c with
          tables := c.tables.insert request.table.key t
          cache := c.cache.erase request.table.key
          cluster }) := by
  simp only [create, hvalid, hvacant, h, Bool.false_eq_true, if_false]
  cases reply <;> rfl

variable {key : String} {scratch : Uuid} {c d : Coordinator}

theorem twins_empty (key : String) (cluster : Cluster) (settings : ReplicationSettings)
    (h : cluster.files.Steady settings.dataDir) :
    Twins key cluster.files.scratch (empty cluster settings) (empty cluster settings) where
  settings := rfl
  orderly := ⟨orderly_empty cluster settings, orderly_empty cluster settings⟩
  housed := ⟨by simp [Housed, empty], by simp [Housed, empty]⟩
  table := rfl
  cached := rfl
  paths := by simp [empty]
  joined := Cluster.joined_refl key h

namespace Twins

variable (h : Twins key scratch c d)
include h

/-- A table in common is in the same files and reached in the same way. -/
theorem shared {t : ReplicatedTable} (hget : c.tables.get? key = some t) :
    t.table.key = key ∧ t.Deployed ∧ t.Settled c.settings.dataDir c.cluster.registry ∧
      ∃ place, c.cluster.Shares key c.settings.dataDir place scratch d.cluster := by
  obtain ⟨hkey, ht, -, hknown, -⟩ := h.orderly.1 key t hget
  refine ⟨hkey, ht, ReplicatedTable.settled_of_knownTo ht hknown (h.paths t hget), ?_⟩
  have hmade := h.housed.2 key t (h.table.trans hget)
  rw [h.settings] at hmade
  exact h.joined.shares_of_made (h.housed.1 key t hget) hmade

/-- Where there are other tables, the table is shared once the directory is made for it. -/
theorem shares_ahead {other : String} {t : ReplicatedTable} (hget : c.tables.get? other = some t) :
    ∃ place, c.cluster.Shares key c.settings.dataDir place scratch { d.cluster with
      files := (d.cluster.files.createDirectories c.settings.dataDir).2 } := by
  obtain ⟨place, hshares⟩ := h.joined.shares
  rw [(h.housed.1 other t hget).createDirectories] at hshares
  exact ⟨place, hshares rfl⟩

theorem find_eq {kind : TableKind} {name : String} (hkey : tableKey name kind = key) :
    d.find kind name = c.find kind name := by
  simp only [find, hkey, h.table]

/-! ## Requests about other tables -/

/-- A change of one cluster after which the table is shared once the other one's directory is
made. -/
theorem change_first {cluster : Cluster} {cache : ResultCache} {place : Path}
    (horderly : ({ c with cache, cluster } : Coordinator).Orderly)
    (hcached : cache.get? key = c.cache.get? key)
    (hshares : cluster.Shares key c.settings.dataDir place scratch { d.cluster with
      files := (d.cluster.files.createDirectories c.settings.dataDir).2 }) :
    Twins key scratch { c with cache, cluster } d where
  settings := h.settings
  orderly := ⟨horderly, h.orderly.2⟩
  housed := ⟨fun _ _ _ => hshares.files.made.1, h.housed.2⟩
  table := h.table
  cached := h.cached.trans hcached.symm
  paths := h.paths
  joined := h.joined.of_shares hshares

theorem create_other {request : CreateRequest} (hkey : request.table.key ≠ key) :
    Twins key scratch (c.create request).2 d := by
  have horderly := orderly_create h.orderly.1 request
  rcases create_cases c request with ⟨e, hcreate⟩ | ⟨-, reply, cluster, hreplicated, hcreate⟩
  · rw [hcreate]
    exact h
  · obtain ⟨reply', after, hother, hjoined, hlasts⟩ := ReplicatedTable.create_other hkey h.joined
      request.replicaCount request.layout
    obtain ⟨rfl, rfl⟩ : reply = reply' ∧ cluster = after := by simpa [hreplicated] using hother
    rcases hcreate with ⟨e, rfl, hcreate⟩ | ⟨t, rfl, hcreate⟩ <;> rw [hcreate] at horderly ⊢
    · exact ⟨h.settings, ⟨horderly, h.orderly.2⟩, ⟨fun other t hget =>
        hlasts (Or.inl (h.housed.1 other t hget)), h.housed.2⟩, h.table, h.cached, h.paths, hjoined⟩
    · refine ⟨h.settings, ⟨horderly, h.orderly.2⟩, ⟨fun _ _ _ => hlasts (Or.inr ⟨t, rfl⟩),
        h.housed.2⟩, ?_, ?_, ?_, hjoined⟩
      · simp [hkey.symm, h.table]
      · simp [hkey.symm, h.cached]
      · simpa [hkey.symm] using h.paths

theorem write_other {expected : OperationKind} {request : OperationRequest}
    (hkey : tableKey request.operation.table request.kind ≠ key) :
    Twins key scratch (c.write expected request).2 d := by
  have horderly := orderly_write h.orderly.1 expected request
  rcases write_cases c expected request with
    ⟨e, hwrite⟩ | ⟨t, summary, cluster, hget, hreplicated, hwrite⟩
  · rw [hwrite]
    exact h
  · obtain ⟨place, hshares⟩ := h.shares_ahead hget
    obtain ⟨hown, ht, -, hknown, -⟩ := h.orderly.1 _ t hget
    have hother : t.table.key ≠ key := hown.trans_ne hkey
    have hafter := ReplicatedTable.write_other ht hknown hother hshares request.operation
    rw [hreplicated] at hafter
    rw [hwrite] at horderly ⊢
    exact h.change_first horderly (by simp [hother.symm]) hafter

theorem select_other {request : SelectRequest} (hkey : tableKey request.table request.kind ≠ key) :
    Twins key scratch (c.select request).2 d := by
  have horderly := orderly_select h.orderly.1 request
  rcases select_cases c request with
    ⟨e, hselect⟩ | ⟨t, payload, hget, ⟨-, hselect⟩ | ⟨-, -, hselect⟩⟩
  · rw [hselect]
    exact h
  · rw [hselect]
    exact h
  · obtain ⟨place, hshares⟩ := h.shares_ahead hget
    obtain ⟨hown, -⟩ := h.orderly.1 _ t hget
    rw [hselect] at horderly ⊢
    exact h.change_first horderly (by simp [(hown.trans_ne hkey).symm]) hshares

theorem stop_other {request : ReplicaRequest} (hkey : tableKey request.table request.kind ≠ key) :
    Twins key scratch (c.stop request).2 d := by
  have horderly := orderly_stop h.orderly.1 request
  rcases stop_cases c request with ⟨e, hstop⟩ | ⟨t, registry, hget, hreplicated, hstop⟩
  · rw [hstop]
    exact h
  · obtain ⟨place, hshares⟩ := h.shares_ahead hget
    obtain ⟨hown, ht, -⟩ := h.orderly.1 _ t hget
    obtain ⟨node, hnode, rfl⟩ := ReplicatedTable.stop_ok hreplicated
    rw [hstop] at horderly ⊢
    have hother : node.id.key ≠ key := ((ht.key_eq hnode).trans hown).trans_ne hkey
    exact h.change_first horderly rfl (hshares.unregister_other hother)

theorem start_other {request : ReplicaRequest} (hkey : tableKey request.table request.kind ≠ key) :
    Twins key scratch (c.start request).2 d := by
  have horderly := orderly_start h.orderly.1 request
  rcases start_cases c request with ⟨e, hstart⟩ | ⟨t, registry, hget, hreplicated, hstart⟩
  · rw [hstart]
    exact h
  · obtain ⟨place, hshares⟩ := h.shares_ahead hget
    obtain ⟨hown, ht, -⟩ := h.orderly.1 _ t hget
    obtain ⟨node, hnode, rfl⟩ := ReplicatedTable.start_ok hreplicated
    rw [hstart] at horderly ⊢
    have hother : node.id.key ≠ key := ((ht.key_eq hnode).trans hown).trans_ne hkey
    exact h.change_first horderly rfl (hshares.register_other hother)

/-! ## Requests about the table -/

/-- A change of both clusters after which they share the table. -/
theorem change_both {cluster cluster' : Cluster} {cache cache' : ResultCache} {place : Path}
    (horderly : ({ c with cache, cluster } : Coordinator).Orderly)
    (horderly' : ({ d with cache := cache', cluster := cluster' } : Coordinator).Orderly)
    (hcached : cache'.get? key = cache.get? key)
    (hshares : cluster.Shares key c.settings.dataDir place scratch cluster') :
    Twins key scratch { c with cache, cluster }
      { d with cache := cache', cluster := cluster' } where
  settings := h.settings
  orderly := ⟨horderly, horderly'⟩
  housed := ⟨fun _ _ _ => hshares.files.made.1, fun _ _ _ => h.settings ▸ hshares.files.made.2⟩
  table := h.table
  cached := hcached
  paths := h.paths
  joined := hshares.joined

theorem create_own {request : CreateRequest} (hkey : request.table.key = key) :
    (d.create request).1 = (c.create request).1 ∧
      Twins key scratch (c.create request).2 (d.create request).2 := by
  subst hkey
  have horderly := orderly_create h.orderly.1 request
  have horderly' := orderly_create h.orderly.2 request
  have hcontains : d.tables.contains request.table.key = c.tables.contains request.table.key := by
    simp only [KeyMap.contains, h.table]
  cases hvalid : request.table.validate with
  | error e =>
    simp only [create, hvalid]
    exact ⟨trivial, h⟩
  | ok _ =>
    by_cases htaken : c.tables.contains request.table.key = true
    · simp only [create, hvalid, hcontains, if_pos htaken]
      exact ⟨trivial, h⟩
    · obtain ⟨reply, after, after', hfirst, hsecond, hjoined, hlasts, hlasts'⟩ :=
        ReplicatedTable.create_shared h.joined request.replicaCount request.layout
      rw [← h.settings] at hsecond hlasts'
      rw [create_of_vacant hvalid (by simpa using htaken) hfirst] at horderly ⊢
      rw [create_of_vacant hvalid (by simpa [hcontains] using htaken) hsecond] at horderly' ⊢
      cases reply with
      | error e =>
        exact ⟨rfl, h.settings, ⟨horderly, horderly'⟩,
          ⟨fun other t hget => hlasts (Or.inl (h.housed.1 other t hget)),
            fun other t hget => hlasts' (Or.inl (h.housed.2 other t hget))⟩,
          h.table, h.cached, h.paths, hjoined⟩
      | ok t =>
        refine ⟨rfl, h.settings, ⟨horderly, horderly'⟩,
          ⟨fun _ _ _ => hlasts (Or.inr ⟨t, rfl⟩), fun _ _ _ => hlasts' (Or.inr ⟨t, rfl⟩)⟩,
          by simp, by simp, fun created hget => ?_, hjoined⟩
        obtain rfl : t = created := by simpa using hget
        exact ReplicatedTable.path_of_create hfirst

theorem write_own {expected : OperationKind} {request : OperationRequest}
    (hkey : tableKey request.operation.table request.kind = key) :
    (d.write expected request).1 = (c.write expected request).1 ∧
      Twins key scratch (c.write expected request).2 (d.write expected request).2 := by
  have horderly := orderly_write h.orderly.1 expected request
  have horderly' := orderly_write h.orderly.2 expected request
  have hwritable : d.writable expected request = c.writable expected request := by
    simp only [writable, h.find_eq hkey]
  unfold write at horderly horderly' ⊢
  rw [hwritable] at horderly' ⊢
  cases hfound : c.writable expected request with
  | error e => exact ⟨rfl, h⟩
  | ok t =>
    obtain ⟨rfl, ht, hsettled, place, hshares⟩ := h.shared (hkey ▸ (writable_ok hfound).1)
    obtain ⟨reply, after, after', hfirst, hsecond, hafter⟩ :=
      ReplicatedTable.write_shared hsettled hshares ht request.operation
    simp only [hfound, hfirst, hsecond] at horderly horderly' ⊢
    cases reply with
    | error e => exact ⟨rfl, h.change_both horderly horderly' h.cached hafter⟩
    | ok summary =>
      exact ⟨rfl, h.change_both horderly horderly' (by simp) hafter⟩

theorem select_own {request : SelectRequest} (hkey : tableKey request.table request.kind = key) :
    (d.select request).1 = (c.select request).1 ∧
      Twins key scratch (c.select request).2 (d.select request).2 := by
  have horderly := orderly_select h.orderly.1 request
  have horderly' := orderly_select h.orderly.2 request
  unfold select at horderly horderly' ⊢
  rw [h.find_eq hkey] at horderly' ⊢
  cases hfound : c.find request.kind request.table with
  | error e => exact ⟨rfl, h⟩
  | ok t =>
    obtain ⟨rfl, -, hsettled, place, hshares⟩ := h.shared (hkey ▸ find_ok hfound)
    simp only [hfound, h.cached, ReplicatedTable.select_shared hsettled hshares]
      at horderly horderly' ⊢
    cases hcached : c.cache.get? t.table.key with
    | some payload => exact ⟨rfl, h⟩
    | none =>
      simp only [hcached] at horderly horderly' ⊢
      cases hselect : t.select c.cluster with
      | error e => exact ⟨rfl, h⟩
      | ok payload =>
        simp only [hselect] at horderly horderly' ⊢
        exact ⟨trivial, h.change_both horderly horderly' (by simp) hshares⟩

theorem stop_own {request : ReplicaRequest} (hkey : tableKey request.table request.kind = key) :
    (d.stop request).1 = (c.stop request).1 ∧
      Twins key scratch (c.stop request).2 (d.stop request).2 := by
  have horderly := orderly_stop h.orderly.1 request
  have horderly' := orderly_stop h.orderly.2 request
  unfold stop at horderly horderly' ⊢
  rw [h.find_eq hkey] at horderly' ⊢
  cases hfound : c.find request.kind request.table with
  | error e => exact ⟨rfl, h⟩
  | ok t =>
    obtain ⟨rfl, -, hsettled, place, hshares⟩ := h.shared (hkey ▸ find_ok hfound)
    simp only [hfound, ReplicatedTable.stop] at horderly horderly' ⊢
    cases hreplica : t.lookup request.partition request.replica with
    | error e => exact ⟨rfl, h⟩
    | ok replica =>
      simp only [hreplica, Except.map] at horderly horderly' ⊢
      exact ⟨trivial, h.change_both horderly horderly' h.cached (hshares.unregister replica.id)⟩

theorem start_own {request : ReplicaRequest} (hkey : tableKey request.table request.kind = key) :
    (d.start request).1 = (c.start request).1 ∧
      Twins key scratch (c.start request).2 (d.start request).2 := by
  have horderly := orderly_start h.orderly.1 request
  have horderly' := orderly_start h.orderly.2 request
  unfold start at horderly horderly' ⊢
  rw [h.find_eq hkey] at horderly' ⊢
  cases hfound : c.find request.kind request.table with
  | error e => exact ⟨rfl, h⟩
  | ok t =>
    obtain ⟨rfl, -, hsettled, place, hshares⟩ := h.shared (hkey ▸ find_ok hfound)
    simp only [hfound, ReplicatedTable.start] at horderly horderly' ⊢
    cases hreplica : t.lookup request.partition request.replica with
    | error e => exact ⟨rfl, h⟩
    | ok replica =>
      simp only [hreplica, Except.map] at horderly horderly' ⊢
      exact ⟨trivial, h.change_both horderly horderly' h.cached (hshares.register replica.node)⟩

/-- **A heartbeat round** of the same tables finds the same for the table in common. -/
theorem beats {asked : String → Prop} [DecidablePred asked] {c' d' : Coordinator}
    (hbeats : Beats asked c c') (hbeats' : Beats asked d d')
    (horderly : c'.Orderly) (horderly' : d'.Orderly) :
    Twins key scratch c' d' where
  settings := by rw [hbeats.settings, hbeats'.settings, h.settings]
  orderly := ⟨horderly, horderly'⟩
  housed := ⟨hbeats.housed h.housed.1, hbeats'.housed h.housed.2⟩
  table := by
    rw [hbeats.tables, hbeats'.tables, h.table]
    cases hget : c.tables.get? key with
    | none => rfl
    | some t =>
      obtain ⟨rfl, -, hsettled, place, hshares⟩ := h.shared hget
      simp only [Option.map_some, ReplicatedTable.beat_shared hsettled hshares]
  cached := by rw [hbeats.cache, hbeats'.cache, h.cached]
  paths := by
    intro t hget partition node hnode
    obtain ⟨before, hbefore, hnodes⟩ := hbeats.origin hget
    rw [hnodes] at hnode
    rw [hbeats.settings]
    exact h.paths before hbefore partition node hnode
  joined := by
    rw [hbeats.cluster, hbeats'.cluster, hbeats.settings]
    exact h.joined

end Twins

/-! ## Steps -/

/-- The request names the table, or the event is a heartbeat round. -/
def Event.Concerns (name : String) (kind : TableKind) (event : Event) : Prop :=
  event.table? = none ∨ event.table? = some (name, kind)

instance (name : String) (kind : TableKind) (event : Event) :
    Decidable (event.Concerns name kind) :=
  inferInstanceAs (Decidable (_ ∨ _))

/-- **A request about another table** makes no difference to the table. -/
theorem next_other {name : String} {kind : TableKind} (h : Twins (tableKey name kind) scratch c d)
    {event : Event} (hevent : ¬ event.Concerns name kind) :
    Twins (tableKey name kind) scratch (c.next event) d := by
  have hkey : ∀ other kind', event.table? = some (other, kind') →
      tableKey other kind' ≠ tableKey name kind := by
    intro other kind' hnamed hsame
    obtain ⟨rfl, rfl⟩ := ReplicaId.tableKey_injective hsame
    exact hevent (Or.inr hnamed)
  cases event with
  | create request => exact h.create_other (hkey _ _ rfl)
  | write expected request => exact h.write_other (hkey _ _ rfl)
  | select request => exact h.select_other (hkey _ _ rfl)
  | stop request => exact h.stop_other (hkey _ _ rfl)
  | start request => exact h.start_other (hkey _ _ rfl)
  | beat => exact absurd (Or.inl rfl) hevent
  | beatTable asked => exact absurd (Or.inl rfl) hevent

/-- **A request about the table, or a heartbeat round**, has the same answer and the same effects on
the table wherever it is in common. -/
theorem next_own {name : String} {kind : TableKind} (h : Twins (tableKey name kind) scratch c d)
    {event : Event} (hevent : event.Concerns name kind) :
    d.reply event = c.reply event ∧
      Twins (tableKey name kind) scratch (c.next event) (d.next event) := by
  have horderly := orderly_next h.orderly.1 event
  have horderly' := orderly_next h.orderly.2 event
  have hkey : ∀ other kind', event.table? = some (other, kind') →
      tableKey other kind' = tableKey name kind := by
    intro other kind' hnamed
    rcases hevent with hnone | hsome
    · simp [hnamed] at hnone
    · obtain ⟨rfl, rfl⟩ : other = name ∧ kind' = kind := by simpa [hnamed] using hsome
      rfl
  cases event with
  | create request => exact (h.create_own (hkey _ _ rfl)).imp_left (congrArg Reply.outcome)
  | write expected request => exact (h.write_own (hkey _ _ rfl)).imp_left (congrArg Reply.summary)
  | select request => exact (h.select_own (hkey _ _ rfl)).imp_left (congrArg Reply.rows)
  | stop request => exact (h.stop_own (hkey _ _ rfl)).imp_left (congrArg Reply.outcome)
  | start request => exact (h.start_own (hkey _ _ rfl)).imp_left (congrArg Reply.outcome)
  | beat => exact ⟨rfl, h.beats (beats_beat c) (beats_beat d) horderly horderly'⟩
  | beatTable asked =>
    exact ⟨rfl, h.beats (beats_beatTable c asked) (beats_beatTable d asked) horderly horderly'⟩

/-! ## Runs -/

/-- The answers of a run to the requests that name a table. -/
def answers (c : Coordinator) (name : String) (kind : TableKind) : List Event → List Reply
  | [] => []
  | event :: rest =>
    if event.table? = some (name, kind) then c.reply event :: (c.next event).answers name kind rest
    else (c.next event).answers name kind rest

/-- A table is the same in two coordinators: which replicas it has and which of them are alive, its
cached rows, the nodes that are registered for it, what its files hold and how its status is
reported.  Files are compared wherever one has the name of a replica's file, and as they are read
through the table's nodes. -/
structure SameTable (name : String) (kind : TableKind) (c d : Coordinator) : Prop where
  table : d.tables.get? (tableKey name kind) = c.tables.get? (tableKey name kind)
  cached : d.cache.get? (tableKey name kind) = c.cache.get? (tableKey name kind)
  registered : ∀ id : ReplicaId, id.table = name → id.kind = kind →
    d.cluster.registry.get? id = c.cluster.registry.get? id
  files : ∀ id : ReplicaId, id.table = name → id.kind = kind → id.IsValid →
    ∀ place, place.getLast? = some id.fileName → ∀ content,
      d.cluster.files.entries.get? place = some (.file content) ↔
        c.cluster.files.entries.get? place = some (.file content)
  texts : ∀ t, c.tables.get? (tableKey name kind) = some t → ∀ partition,
    ∀ node ∈ t.nodes partition,
      d.cluster.files.readText node.store.path = c.cluster.files.readText node.store.path
  status : d.status kind name = c.status kind name

theorem Twins.sameTable {name : String} {kind : TableKind}
    (h : Twins (tableKey name kind) scratch c d) : SameTable name kind c d where
  table := h.table
  cached := h.cached
  registered := by
    rintro id rfl rfl
    exact h.joined.registered id rfl
  files := by
    rintro id rfl rfl hvalid place hlast
    exact h.joined.files place id.fileName hlast ⟨id, rfl, hvalid, List.mem_cons_self⟩
  texts t hget partition node hnode := by
    obtain ⟨hkey, ht, -, place, hshares⟩ := h.shared hget
    have hown : ownNames (tableKey name kind) scratch node.id.fileName :=
      ⟨node.id, (ht.key_eq hnode).trans hkey, ht.isValid hnode, List.mem_cons_self⟩
    rw [h.paths t hget partition node hnode]
    exact (hshares.files.alike (FileSystem.liesIn_join _ (ReplicaId.isName_fileName node.id))
      hown).readText
  status := by rw [status, status, h.find_eq rfl]

/-- Coordinators with the table in common keep it in common while only one of them takes the
requests about other tables. -/
theorem twins_run {name : String} {kind : TableKind} (h : Twins (tableKey name kind) scratch c d)
    (events : List Event) :
    d.answers name kind (events.filter fun event => event.Concerns name kind) =
        c.answers name kind events ∧
      Twins (tableKey name kind) scratch (run next c events)
        (run next d (events.filter fun event => event.Concerns name kind)) := by
  induction events generalizing c d with
  | nil => exact ⟨rfl, h⟩
  | cons event rest ih =>
    by_cases hevent : event.Concerns name kind
    · obtain ⟨hreply, hafter⟩ := next_own h hevent
      obtain ⟨hanswers, hrest⟩ := ih hafter
      rw [List.filter_cons_of_pos (by simpa using hevent), answers, answers, hreply, hanswers]
      exact ⟨rfl, hrest⟩
    · obtain ⟨hanswers, hrest⟩ := ih (next_other h hevent)
      have hunnamed : event.table? ≠ some (name, kind) := fun hnamed => hevent (Or.inr hnamed)
      rw [List.filter_cons_of_neg (by simpa using hevent), hanswers, answers, if_neg hunnamed]
      exact ⟨rfl, hrest⟩

/-- **Tables do not interfere.**  Whatever the network and the files are at first, and whatever is
asked about other tables, the answers to the requests that name a table are the same as if nobody
had asked, and so is the table afterwards.  Only the data directory matters to all tables: making it
twice must come to the same as making it once, as it does on every path that never goes up. -/
theorem tables_do_not_interfere (cluster : Cluster) (settings : ReplicationSettings)
    (hsteady : cluster.files.Steady settings.dataDir) (name : String) (kind : TableKind)
    (events : List Event) :
    (empty cluster settings).answers name kind
          (events.filter fun event => event.Concerns name kind) =
        (empty cluster settings).answers name kind events ∧
      SameTable name kind (run next (empty cluster settings) events)
        (run next (empty cluster settings)
          (events.filter fun event => event.Concerns name kind)) := by
  obtain ⟨hanswers, htwins⟩ := twins_run (twins_empty (tableKey name kind) cluster settings hsteady)
    events
  exact ⟨hanswers, htwins.sameTable⟩

/-- Files among which the replica of the second group of columns of the SQL orders cannot be
created. -/
def kitchenFiles : FileSystem :=
  ⟨∅, [⟨.create, ["data", "orders-SQL-1-0.csv"], .permissionDenied, 0⟩], ⟨0⟩⟩

/-- Orders are taken in one table.  A second table of the same name fails to be created, and a menu
is kept and stopped. -/
def kitchen : List Event :=
  [.create ⟨⟨"orders", .noSql, none⟩, 2, .single⟩,
    .write .insert ⟨.noSql, .insertion "orders" ["soup"] ["2"]⟩,
    .create ⟨⟨"orders", .sql, some ["id", "dish"]⟩, 1, .byColumns [["id"], ["dish"]]⟩,
    .create ⟨⟨"menu", .noSql, none⟩, 1, .single⟩,
    .write .insert ⟨.noSql, .insertion "menu" ["soup"] ["5"]⟩, .stop ⟨.noSql, "menu", 0, 0⟩,
    .stop ⟨.noSql, "orders", 0, 1⟩, .beat, .select ⟨.noSql, "menu"⟩,
    .write .delete ⟨.noSql, .removal "orders" ⟨"soup", "2"⟩⟩, .select ⟨.noSql, "orders"⟩]

/-- Neither the failure nor the menu can be told from what the orders answer. -/
theorem tables_do_not_interfere_kitchen :
    kitchenFiles.Steady ["data"] ∧
      (empty ⟨.direct, kitchenFiles⟩ ⟨["data"], 1000⟩).answers "orders" .sql kitchen =
        [.outcome (.error (.io .permissionDenied))] ∧
      (empty ⟨.direct, kitchenFiles⟩ ⟨["data"], 1000⟩).answers "orders" .noSql kitchen =
        [.outcome (.ok ()), .summary (.ok ⟨2, 2, []⟩), .outcome (.ok ()),
          .summary (.error (.cannotWrite 0 "orders-NoSQL-0-1")), .rows (.ok "soup,2,\n")] ∧
      (empty ⟨.direct, kitchenFiles⟩ ⟨["data"], 1000⟩).answers "orders" .noSql
          (kitchen.filter fun event => event.Concerns "orders" .noSql) =
        (empty ⟨.direct, kitchenFiles⟩ ⟨["data"], 1000⟩).answers "orders" .noSql kitchen ∧
      SameTable "orders" .noSql (run next (empty ⟨.direct, kitchenFiles⟩ ⟨["data"], 1000⟩) kitchen)
        (run next (empty ⟨.direct, kitchenFiles⟩ ⟨["data"], 1000⟩)
          (kitchen.filter fun event => event.Concerns "orders" .noSql)) := by
  have hrooted : kitchenFiles.Rooted := fun place name hentry => absurd rfl hentry
  have hsteady : kitchenFiles.Steady ["data"] := hrooted.steady (by decide)
  exact ⟨hsteady, by decide, by decide,
    tables_do_not_interfere ⟨.direct, kitchenFiles⟩ ⟨["data"], 1000⟩ hsteady "orders" .noSql
      kitchen⟩

end TableStore.Coordinator
