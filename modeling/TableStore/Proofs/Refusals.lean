import TableStore.Proofs.AnyRuns
import TableStore.Proofs.WriteGates

/-!
# Refused writes

A coordinator can refuse a write at many points: the request may be of another kind than the
endpoint, there may be no such table, the table may not accept the operation, the operation may
lead to no partition, and a replica that it would reach may be down.  All these checks are made
before the first call, so a write that is refused has no effect at all.

* `Refuses` lists the reasons.  `refuses_of_error` and `error_of_refuses` say that a write is
  refused if and only if there is one.
* `refusals_are_atomic` is the result.
* `deploys_run` says that the condition on tables in it is true of every coordinator that comes
  of requests.
-/

namespace TableStore.Coordinator

variable {c : Coordinator} {expected : OperationKind} {request : OperationRequest}

/-! ## Reasons -/

/-- The request is about the table `t`. -/
def IsAbout (c : Coordinator) (request : OperationRequest) (t : ReplicatedTable) : Prop :=
  c.tables.get? (tableKey request.operation.table request.kind) = some t

/-- The reasons for which a coordinator refuses a write of which it is expected that it does
`expected`. -/
inductive Refuses (c : Coordinator) (expected : OperationKind) (request : OperationRequest) : Prop
  /-- The operation does something else. -/
  | unexpected (hkind : request.operation.kind ≠ expected)
  /-- There is no such table. -/
  | unknown (hnone : ∀ t, ¬ c.IsAbout request t)
  /-- The table does not accept the operation. -/
  | invalid {t : ReplicatedTable} (habout : c.IsAbout request t)
      (hinvalid : request.operation.validate t.table ≠ .ok ())
  /-- A key, a condition or an assignment leads to no partition. -/
  | unroutable {t : ReplicatedTable} (habout : c.IsAbout request t)
      (hroutes : ¬ t.Routes request.operation)
  /-- A replica of a partition that the write would reach is down. -/
  | blocked {t : ReplicatedTable} {partition replica : Nat} (habout : c.IsAbout request t)
      (htarget : t.Targets request.operation partition) (hdown : t.DownAt partition replica)

/-- All tables are deployed. -/
def Deploys (c : Coordinator) : Prop := ∀ key t, c.tables.get? key = some t → t.Deployed

/-- Coordinators only ever hold deployed tables. -/
theorem deploys_run (cluster : Cluster) (settings : ReplicationSettings) (events : List Event) :
    (run next (empty cluster settings) events).Deploys := by
  intro key t hget
  exact (orderly_run (orderly_empty cluster settings) events key t hget).deployed

/-! ## Refusals -/

/-- What is found for a request that passes the first checks. -/
theorem writable_of_checks {t : ReplicatedTable} (hkind : request.operation.kind = expected)
    (habout : c.IsAbout request t) (hvalid : request.operation.validate t.table = .ok ()) :
    c.writable expected request = .ok t := by
  have hfind : c.find request.kind request.operation.table = .ok t := by
    rw [find, show c.tables.get? _ = some t from habout]
  simp [writable, hkind, hfind, hvalid, Except.map]

/-- There is a reason for every refusal. -/
theorem refuses_of_error (hdeploys : c.Deploys) {e : Error}
    (h : (c.write expected request).1 = .error e) : c.Refuses expected request := by
  by_contra hnone
  have hkind : request.operation.kind = expected := by
    by_contra hne
    exact hnone (.unexpected hne)
  obtain ⟨t, habout⟩ : ∃ t, c.IsAbout request t := by
    by_contra hno
    exact hnone (.unknown (not_exists.1 hno))
  have hvalid : request.operation.validate t.table = .ok () := by
    by_contra hne
    exact hnone (.invalid habout hne)
  have hroutes : t.Routes request.operation := by
    by_contra hne
    exact hnone (.unroutable habout hne)
  rcases ReplicatedTable.write_refused (hdeploys _ t habout) hroutes c.cluster with
    ⟨hok, -⟩ | ⟨partition, replica, found, -, htarget, hfound, hdown, -⟩
  · rw [write, writable_of_checks hkind habout hvalid] at h
    simp only at h
    split at h
    · next heq =>
      rw [heq] at hok
      simp [Except.isOk, Except.toBool] at hok
    · simp at h
  · exact hnone (.blocked habout htarget ⟨found, hfound, hdown⟩)

/-- A write that is not refused was found writable and has a plan for which no replica is down. -/
theorem write_ok {summary : Summary} (h : (c.write expected request).1 = .ok summary) :
    ∃ t plan, request.operation.kind = expected ∧ c.IsAbout request t ∧
      request.operation.validate t.table = .ok () ∧ t.plan? request.operation = .ok plan ∧
      t.checkAllAlive plan.checked = .ok () := by
  unfold write at h
  cases hwritable : c.writable expected request with
  | error e => simp [hwritable] at h
  | ok t =>
    obtain ⟨habout, hvalid⟩ := writable_ok hwritable
    have hkind : request.operation.kind = expected := by
      by_contra hne
      simp [writable, hne] at hwritable
    rcases ReplicatedTable.write_cases t request.operation c.cluster with
      ⟨e, hwrite⟩ | ⟨plan, hplan, halive, -⟩
    · simp [hwritable, hwrite] at h
    · exact ⟨t, plan, hkind, habout, hvalid, hplan, halive⟩

/-- Every reason makes the coordinator refuse the write. -/
theorem error_of_refuses (hexpected : expected ≠ .select) (hdeploys : c.Deploys)
    (h : c.Refuses expected request) : ∃ e, (c.write expected request).1 = .error e := by
  cases hreply : (c.write expected request).1 with
  | error e => exact ⟨e, rfl⟩
  | ok summary =>
    obtain ⟨t, plan, hkind, habout, hvalid, hplan, halive⟩ := write_ok hreply
    have hroutes : t.Routes request.operation :=
      ReplicatedTable.routes_of_plan? (hkind ▸ hexpected) hplan
    have hsame : ∀ {other}, c.IsAbout request other → t = other := fun hother =>
      Option.some.inj (habout.symm.trans hother)
    exfalso
    cases h with
    | unexpected hne => exact hne hkind
    | unknown hnone => exact hnone t habout
    | invalid hother hinvalid =>
      obtain rfl := hsame hother
      exact hinvalid hvalid
    | unroutable hother hnot =>
      obtain rfl := hsame hother
      exact hnot hroutes
    | @blocked _ partition replica hother htarget hdown =>
      obtain rfl := hsame hother
      obtain ⟨plan', hplan', hchecks⟩ :=
        ReplicatedTable.checks_plan? (hdeploys _ t habout) hroutes
      obtain rfl : plan = plan' := Except.ok.inj (hplan.symm.trans hplan')
      exact ReplicatedTable.checkAllAlive_ok halive ((hchecks.mem_iff partition).2 htarget)
        replica hdown

/-- **A write that is refused changes nothing**, in whatever state the coordinator is.  If its
tables are deployed, it refuses a write if and only if there is a reason, such as one replica that
is down of one of the partitions. -/
theorem refusals_are_atomic (c : Coordinator) (expected : OperationKind)
    (request : OperationRequest) :
    (∀ e c', c.write expected request = (.error e, c') → c' = c) ∧
    (expected ≠ .select → c.Deploys →
      ((∃ e, c.write expected request = (.error e, c)) ↔ c.Refuses expected request)) := by
  have hatomic : ∀ e c', c.write expected request = (.error e, c') → c' = c := by
    intro e c' h
    rcases write_cases c expected request with ⟨e', hwrite⟩ | ⟨t, summary, cluster, -, -, hwrite⟩
    · rw [hwrite] at h
      exact (Prod.mk.inj h).2.symm
    · simp [hwrite] at h
  refine ⟨hatomic, fun hexpected hdeploys => ⟨?_, fun hrefuses => ?_⟩⟩
  · rintro ⟨e, h⟩
    exact refuses_of_error hdeploys (by rw [h])
  · obtain ⟨e, herror⟩ := error_of_refuses hexpected hdeploys hrefuses
    have h : c.write expected request = (.error e, (c.write expected request).2) :=
      Prod.ext herror rfl
    rw [hatomic e _ h] at h
    exact ⟨e, h⟩

/-- A table of two groups of columns is written and read, and the replica of the second group
fails. -/
def failingGroup : List Event :=
  [.create ⟨⟨"wards", .sql, some ["id", "name"]⟩, 1, .byColumns [["id"], ["name"]]⟩,
    .write .insert ⟨.sql, .insertion "wards" ["id", "name"] ["1", "Ida"]⟩, .select ⟨.sql, "wards"⟩,
    .stop ⟨.sql, "wards", 1, 0⟩, .beat]

/-- The first group could be written, but the second cannot, so neither is. -/
theorem refusals_are_atomic_failingGroup :
    ∃ e, (run next (empty ⟨.direct, .empty⟩ ⟨["data"], 1000⟩) failingGroup).write .insert
          ⟨.sql, .insertion "wards" ["id", "name"] ["2", "Ola"]⟩ =
        (.error e, run next (empty ⟨.direct, .empty⟩ ⟨["data"], 1000⟩) failingGroup) ∧
      (run next (empty ⟨.direct, .empty⟩ ⟨["data"], 1000⟩) failingGroup).Refuses .insert
        ⟨.sql, .insertion "wards" ["id", "name"] ["2", "Ola"]⟩ := by
  have hdeploys := deploys_run ⟨.direct, .empty⟩ ⟨["data"], 1000⟩ failingGroup
  have hreply : ((run next (empty ⟨.direct, .empty⟩ ⟨["data"], 1000⟩) failingGroup).write .insert
      ⟨.sql, .insertion "wards" ["id", "name"] ["2", "Ola"]⟩).1 =
        .error (.cannotWrite 1 "wards-SQL-1-0") := by decide
  generalize run next (empty ⟨.direct, .empty⟩ ⟨["data"], 1000⟩) failingGroup = c at *
  obtain ⟨hatomic, hiff⟩ := refusals_are_atomic c .insert
    ⟨.sql, .insertion "wards" ["id", "name"] ["2", "Ola"]⟩
  cases hwrite : c.write .insert ⟨.sql, .insertion "wards" ["id", "name"] ["2", "Ola"]⟩ with
  | mk reply c' =>
    obtain rfl : reply = .error (.cannotWrite 1 "wards-SQL-1-0") := by rwa [hwrite] at hreply
    obtain rfl := hatomic _ _ hwrite
    exact ⟨_, rfl, (hiff (by decide) hdeploys).1 ⟨_, hwrite⟩⟩

end TableStore.Coordinator
