import TableStore.Proofs.Effects

/-!
# What writes do to files

The effect of a plan on the files of a table, given as a change of the function that `Serves`
carries.  `Carried` says of such a change that every registered node of a called partition carried
out its call, and that all other files stayed.

The results hold of writes whose summaries are `Faultless`: no call failed but for want of a
registered node (see `Effect` for all others).  Then the summary follows from the registry alone
(`Registry.summaryOf`), and `carryOut_spec` gives the new texts.  A complete summary lists no
failures at all (`failures_of_isComplete`).
-/

namespace TableStore

/-! ## Summaries -/

/-- Whether a call failed because no node was registered. -/
def CallError.isUnregistered : CallError → Bool
  | notRegistered _ => true
  | _ => false

namespace Summary

/-- Nothing failed but calls on replicas without a registered node. -/
def Faultless (summary : Summary) : Prop :=
  ∀ failure ∈ summary.failures, failure.error.isUnregistered = true

instance (summary : Summary) : Decidable summary.Faultless :=
  inferInstanceAs (Decidable (∀ _ ∈ _, _))

theorem faultless_of_nil {summary : Summary} (h : summary.failures = []) : summary.Faultless := by
  simp [Faultless, h]

theorem faultless_merge {first second : Summary} :
    (first.merge second).Faultless ↔ first.Faultless ∧ second.Faultless := by
  simp only [Faultless, merge, List.mem_append, or_imp, forall_and]

/-- Every call either succeeded or is listed. -/
def Balanced (summary : Summary) : Prop :=
  summary.succeeded + summary.failures.length = summary.total

theorem Balanced.merge {first second : Summary} (h : first.Balanced) (h' : second.Balanced) :
    (first.merge second).Balanced := by
  simp only [Balanced, Summary.merge, List.length_append] at h h' ⊢
  omega

theorem Balanced.failures_eq_nil {summary : Summary} (h : summary.Balanced)
    (hcomplete : summary.isComplete = true) : summary.failures = [] := by
  have heq : summary.succeeded = summary.total := by simpa [isComplete] using hcomplete
  rw [← List.length_eq_zero_iff]
  simp only [Balanced] at h
  omega

end Summary

namespace Registry

/-- The summary of calls that fail on unregistered replicas only. -/
def summaryOf (registry : Registry) (ids : List ReplicaId) : Summary where
  succeeded := (ids.filter registry.reaches).length
  total := ids.length
  failures := (ids.filter fun id => !registry.reaches id).map fun id =>
    ⟨id.text, .unregistered id⟩

theorem summaryOf_append (registry : Registry) (ids ids' : List ReplicaId) :
    registry.summaryOf (ids ++ ids') =
      (registry.summaryOf ids).merge (registry.summaryOf ids') := by
  simp [summaryOf, Summary.merge]

theorem summaryOf_cons_of_reaches {registry : Registry} {id : ReplicaId}
    (h : registry.reaches id = true) (ids : List ReplicaId) :
    registry.summaryOf (id :: ids) =
      Summary.empty.recordSuccess.merge (registry.summaryOf ids) := by
  simp [summaryOf, Summary.merge, Summary.recordSuccess, Summary.empty, h, Nat.add_comm]

theorem summaryOf_cons_of_not_reaches {registry : Registry} {id : ReplicaId}
    (h : registry.reaches id = false) (ids : List ReplicaId) :
    registry.summaryOf (id :: ids) =
      (Summary.empty.recordFailure id (.unregistered id)).merge (registry.summaryOf ids) := by
  simp [summaryOf, Summary.merge, Summary.recordFailure, Summary.empty, h, Nat.add_comm]

/-- Such a summary is complete if all replicas are registered. -/
theorem isComplete_summaryOf {registry : Registry} {ids : List ReplicaId} :
    (registry.summaryOf ids).isComplete = true ↔ ∀ id ∈ ids, registry.reaches id = true := by
  simp only [Summary.isComplete, summaryOf, decide_eq_true_eq, List.length_filter_eq_length_iff]

theorem succeeded_summaryOf_eq_zero {registry : Registry} {ids : List ReplicaId} :
    (registry.summaryOf ids).succeeded = 0 ↔ ∀ id ∈ ids, registry.reaches id = false := by
  simp [summaryOf]

/-- A replica that is called and not registered is listed. -/
theorem mem_failures_summaryOf {registry : Registry} {ids : List ReplicaId} {id : ReplicaId} :
    id.text ∈ (registry.summaryOf ids).failures.map ReplicaFailure.replica ↔
      id ∈ ids ∧ registry.reaches id = false := by
  simp only [summaryOf, List.map_map, List.mem_map, List.mem_filter, Function.comp_apply,
    Bool.not_eq_true']
  constructor
  · rintro ⟨other, hother, htext⟩
    rwa [← ReplicaId.text_injective htext]
  · exact fun h => ⟨id, h, rfl⟩

end Registry

namespace ReplicatedTable

variable {t : ReplicatedTable} {held held' held'' : ReplicaId → String}

/-! ## Changes of texts -/

/-- The registered nodes of the called partitions carried out their calls.  All other texts
stayed. -/
structure Carried (t : ReplicatedTable) (registry : Registry) (calls : List (Nat × AnyCall))
    (held held' : ReplicaId → String) : Prop where
  untouched : ∀ id : ReplicaId, id.partition ∉ calls.map Prod.fst → held' id = held id
  unreached : ∀ id, registry.reaches id = false → held' id = held id
  performed : ∀ call ∈ calls, ∀ node ∈ t.nodes call.1, registry.reaches node.id = true →
    ∃ value, call.2.2.perform node.store (held node.id) = some (value, held' node.id)

namespace Carried

variable {registry : Registry}

theorem nil : t.Carried registry [] held held :=
  ⟨fun _ _ => rfl, fun _ _ => rfl, by simp⟩

/-- Calls on different partitions do not disturb each other. -/
theorem append (ht : t.Deployed) {calls calls' : List (Nat × AnyCall)}
    (h : t.Carried registry calls held held') (h' : t.Carried registry calls' held' held'')
    (hdisjoint : ∀ call ∈ calls, call.1 ∉ calls'.map Prod.fst) :
    t.Carried registry (calls ++ calls') held held'' where
  untouched id hid := by
    rw [List.map_append, List.mem_append, not_or] at hid
    rw [h'.untouched id hid.2, h.untouched id hid.1]
  unreached id hid := by rw [h'.unreached id hid, h.unreached id hid]
  performed call hcall node hnode hreached := by
    by_cases hfirst : call ∈ calls
    · obtain ⟨value, hvalue⟩ := h.performed call hfirst node hnode hreached
      have hkept := h'.untouched node.id (by
        rw [ht.partition_eq hnode]
        exact hdisjoint call hfirst)
      exact ⟨value, by rw [hkept, hvalue]⟩
    · have hsecond := (List.mem_append.1 hcall).resolve_left hfirst
      obtain ⟨value, hvalue⟩ := h'.performed call hsecond node hnode hreached
      have hkept := h.untouched node.id (by
        rw [ht.partition_eq hnode]
        intro hmem
        obtain ⟨other, hother, heq⟩ := List.mem_map.1 hmem
        exact hdisjoint other hother (heq ▸ List.mem_map_of_mem hsecond))
      exact ⟨value, by rw [← hkept, hvalue]⟩

end Carried

/-! ## One call -/

/-- The texts after the text of one replica has changed. -/
def setText (held : ReplicaId → String) (id : ReplicaId) (text : String) : ReplicaId → String :=
  fun other => if other = id then text else held other

theorem setText_self (held : ReplicaId → String) (id : ReplicaId) (text : String) :
    setText held id text id = text := if_pos rfl

theorem setText_of_ne {id other : ReplicaId} (h : other ≠ id) (held : ReplicaId → String)
    (text : String) : setText held id text other = held other := if_neg h

/-- A change of one replica keeps the files of all others. -/
theorem Keeps.setText (ht : t.Deployed) {cluster cluster' : Cluster} (hk : t.Keeps held cluster)
    {partition : Nat} {node : StorageNode} (hnode : node ∈ t.nodes partition)
    (hspares : cluster.Spares (· = node.id) cluster')
    (hregistry : cluster'.registry = cluster.registry) {text : String}
    (hheld : cluster'.files.Holds node.store.path text) :
    t.Keeps (setText held node.id text) cluster' where
  registered := hregistry ▸ hk.registered
  holds other node' hnode' := by
    by_cases hid : node'.id = node.id
    · rw [ht.node_inj hnode' hnode hid, setText_self]
      exact hheld
    · rw [setText_of_ne hid]
      exact hspares.contains node'.id hid (ht.isValid hnode') _ _ (ht.paths other node' hnode')
        (hk.holds other node' hnode')

/-- An attended cluster stays so when one replica changes. -/
theorem Attends.setText (ht : t.Deployed) {cluster cluster' : Cluster}
    (hs : t.Attends held cluster) {partition : Nat} {node : StorageNode}
    (hnode : node ∈ t.nodes partition) (hspares : cluster.Spares (· = node.id) cluster')
    (hregistry : cluster'.registry = cluster.registry) {text : String}
    (hheld : cluster'.files.Holds node.store.path text) :
    t.Attends (ReplicatedTable.setText held node.id text) cluster' where
  toKeeps := hs.toKeeps.setText ht hnode hspares hregistry hheld
  responds := hspares.responds.2 hs.responds
  intact := hs.intact.of_faults hspares.faults

/-- A call on a node of the table fails for want of the node, or is carried out, or fails for
another reason. -/
theorem call_spec (ht : t.Deployed) {cluster : Cluster} (hs : t.Attends held cluster)
    {partition : Nat} {node : StorageNode} (hnode : node ∈ t.nodes partition) {kind : ReplyKind}
    (call : NodeCall kind) :
    (cluster.registry.reaches node.id = false ∧
      cluster.registry.call node.id call cluster.files =
        (.error (.unregistered node.id), cluster.files)) ∨
    (cluster.registry.reaches node.id = true ∧ ∃ value text files,
      cluster.registry.call node.id call cluster.files = (.ok value, files) ∧
      call.perform node.store (held node.id) = some (value, text) ∧
      t.Attends (setText held node.id text) { cluster with files }) ∨
    (∃ e files, e.isUnregistered = false ∧
      cluster.registry.call node.id call cluster.files = (.error e, files)) := by
  rcases Registry.call_cases hs.responds (ht.isValid hnode) call cluster.files with
    ⟨hnone, hcall⟩ | ⟨found, value, files, hfound, hrun, hcall⟩ | ⟨e, files, he, hcall, -⟩
  · exact Or.inl ⟨by simp [Registry.reaches, hnone], hcall⟩
  · refine Or.inr (Or.inl ⟨by simp [Registry.reaches, hfound], ?_⟩)
    obtain rfl := hs.registered.node_eq hnode hfound
    have hlast := ht.paths partition found hnode
    obtain ⟨text, hperform, hheld⟩ := RecordStore.run_ok_of_holds hlast
      (ReplicaId.isName_fileName found.id) (hs.holds partition found hnode) hs.intact hrun
    have hspares := spares_run cluster.registry cluster.files call hlast
    rw [StorageNode.filesAfter, hrun] at hspares
    exact ⟨value, text, files, hcall, hperform, hs.setText ht hnode hspares rfl hheld⟩
  · refine Or.inr (Or.inr ⟨e, files, ?_, hcall⟩)
    cases e with
    | notRegistered replica => exact absurd rfl (he replica)
    | _ => rfl

/-! ## Calls on the replicas of a partition -/

/-- The first registered one of several nodes gives the answer that counts.  Without one there is
no answer. -/
def Answers {kind : ReplyKind} (registry : Registry) (call : NodeCall kind)
    (held : ReplicaId → String) (nodes : List StorageNode) (answers : List kind.Value) : Prop :=
  match nodes.find? fun node => registry.reaches node.id with
  | none => answers = []
  | some node => ∃ value text, answers.head? = some value ∧
      call.perform node.store (held node.id) = some (value, text)

theorem callAll_spec (ht : t.Deployed) {registry : Registry} {kind : ReplyKind}
    (call : NodeCall kind) {partition : Nat} {replicas : List Replica} {files : FileSystem}
    (hsub : ∀ replica ∈ replicas, replica.node ∈ t.nodes partition)
    (hnodup : (replicas.map Replica.id).Nodup) (hs : t.Attends held ⟨registry, files⟩)
    (hf : (callAll registry call replicas files).1.summary.Faultless) :
    (callAll registry call replicas files).1.summary =
        registry.summaryOf (replicas.map Replica.id) ∧
      Answers registry call held (replicas.map Replica.node)
        (callAll registry call replicas files).1.answers ∧
      ∃ held', t.Attends held' ⟨registry, (callAll registry call replicas files).2⟩ ∧
        (∀ id ∉ replicas.map Replica.id, held' id = held id) ∧
        (∀ id, registry.reaches id = false → held' id = held id) ∧
        ∀ replica ∈ replicas, registry.reaches replica.id = true →
          ∃ value, call.perform replica.node.store (held replica.id) =
            some (value, held' replica.id) := by
  induction replicas generalizing held files with
  | nil => exact ⟨rfl, rfl, held, hs, fun _ _ => rfl, fun _ _ => rfl, by simp⟩
  | cons replica rest ih =>
    obtain ⟨hnode, hsub⟩ := List.forall_mem_cons.1 hsub
    obtain ⟨hfresh, hnodup⟩ := List.nodup_cons.1 hnodup
    rcases call_spec ht hs hnode call with ⟨hunreached, hcall⟩ |
      ⟨hreached, value, text, files', hcall, hperform, hs'⟩ | ⟨e, files', he, hcall⟩ <;>
      simp only [Replica.id, callAll, hcall] at hf ⊢ hfresh hnodup
    · obtain ⟨-, hf⟩ := Summary.faultless_merge.1 hf
      obtain ⟨hsummary, hanswers, held', hs', hout, hkept, hperformed⟩ :=
        ih hsub hnodup hs hf
      refine ⟨?_, ?_, held', hs', ?_, hkept, ?_⟩
      · rw [hsummary]
        exact (Registry.summaryOf_cons_of_not_reaches hunreached _).symm
      · simpa [Answers, hunreached] using hanswers
      · intro id hid
        exact hout id fun hmem => hid (List.mem_cons_of_mem _ hmem)
      · rw [List.forall_mem_cons]
        exact ⟨fun hreached => absurd hunreached (by simp [hreached]), hperformed⟩
    · obtain ⟨-, hf⟩ := Summary.faultless_merge.1 hf
      obtain ⟨hsummary, -, held', hs'', hout, hkept, hperformed⟩ :=
        ih hsub hnodup hs' hf
      refine ⟨?_, ?_, held', hs'', ?_, ?_, ?_⟩
      · rw [hsummary]
        exact (Registry.summaryOf_cons_of_reaches hreached _).symm
      · simpa [Answers, hreached] using ⟨text, hperform⟩
      · intro id hid
        obtain ⟨hne, hid⟩ := not_or.1 (List.mem_cons.not.1 hid)
        exact (hout id hid).trans (setText_of_ne hne held text)
      · intro id hid
        have hne : id ≠ replica.node.id := by
          rintro rfl
          simp [hreached] at hid
        rw [hkept id hid, setText_of_ne hne]
      · rw [List.forall_mem_cons]
        refine ⟨fun _ => ⟨value, ?_⟩, fun other hother hreached => ?_⟩
        · rw [hout _ hfresh, setText_self, hperform]
        · obtain ⟨value', hvalue'⟩ := hperformed other hother hreached
          have hne : other.node.id ≠ replica.node.id := by
            intro heq
            exact hfresh (heq ▸ List.mem_map_of_mem hother)
          exact ⟨value', setText_of_ne hne held text ▸ hvalue'⟩
    · have := hf ⟨replica.node.id.text, e⟩ (by simp [Summary.merge, Summary.recordFailure])
      simp [he] at this

theorem balanced_callAll {kind : ReplyKind} (registry : Registry) (call : NodeCall kind)
    (replicas : List Replica) (files : FileSystem) :
    (callAll registry call replicas files).1.summary.Balanced := by
  induction replicas generalizing files with
  | nil => rfl
  | cons replica rest ih =>
    simp only [callAll]
    split <;> exact Summary.Balanced.merge rfl (ih _)

/-- The identities of the replicas of a partition. -/
def idsOf (t : ReplicatedTable) (partition : Nat) : List ReplicaId :=
  (t.nodes partition).map StorageNode.id

theorem map_id_replicas (t : ReplicatedTable) (partition : Nat) :
    (t.replicas partition).map Replica.id = t.idsOf partition := by
  rw [idsOf, nodes, List.map_map]
  rfl

theorem fanOut_spec (ht : t.Deployed) {cluster : Cluster} (hs : t.Attends held cluster)
    (partition : Nat) {kind : ReplyKind} (call : NodeCall kind)
    (hf : (t.fanOut partition call cluster).1.summary.Faultless) :
    (t.fanOut partition call cluster).1.summary =
        cluster.registry.summaryOf (t.idsOf partition) ∧
      Answers cluster.registry call held (t.nodes partition)
        (t.fanOut partition call cluster).1.answers ∧
      (t.fanOut partition call cluster).2.registry = cluster.registry ∧
      ∃ held', t.Attends held' (t.fanOut partition call cluster).2 ∧
        t.Carried cluster.registry [(partition, ⟨kind, call⟩)] held held' := by
  have hnodup : ((t.replicas partition).map Replica.id).Nodup := by
    rw [map_id_replicas]
    exact ht.nodup partition
  obtain ⟨hsummary, hanswers, held', hs', hout, hkept, hperformed⟩ :=
    callAll_spec ht call (fun replica hreplica => List.mem_map_of_mem hreplica) hnodup hs hf
  refine ⟨map_id_replicas t partition ▸ hsummary, hanswers, rfl, held', hs', ?_, hkept, ?_⟩
  · intro id hid
    refine hout id fun hmem => hid ?_
    rw [map_id_replicas] at hmem
    obtain ⟨node, hnode, rfl⟩ := List.mem_map.1 hmem
    simp [ht.partition_eq hnode]
  · intro other hother node hnode hreached
    obtain rfl := List.mem_singleton.1 hother
    obtain ⟨replica, hreplica, rfl⟩ := List.mem_map.1 hnode
    exact hperformed replica hreplica hreached

theorem balanced_fanOut {kind : ReplyKind} (t : ReplicatedTable) (partition : Nat)
    (call : NodeCall kind) (cluster : Cluster) :
    (t.fanOut partition call cluster).1.summary.Balanced := balanced_callAll _ _ _ _

theorem fanOutEach_spec (ht : t.Deployed) {kind : ReplyKind} {calls : List (Nat × NodeCall kind)}
    (hnodup : (calls.map Prod.fst).Nodup) {cluster : Cluster} (hs : t.Attends held cluster)
    (hf : (t.fanOutEach calls cluster).1.Faultless) :
    (t.fanOutEach calls cluster).1 =
        cluster.registry.summaryOf (calls.flatMap fun call => t.idsOf call.1) ∧
      (t.fanOutEach calls cluster).2.registry = cluster.registry ∧
      ∃ held', t.Attends held' (t.fanOutEach calls cluster).2 ∧
        t.Carried cluster.registry (anyCalls calls) held held' := by
  induction calls generalizing held cluster with
  | nil => exact ⟨rfl, rfl, held, hs, Carried.nil⟩
  | cons call rest ih =>
    obtain ⟨partition, call⟩ := call
    obtain ⟨hfresh, hnodup⟩ := List.nodup_cons.1 hnodup
    obtain ⟨hf, hf'⟩ := Summary.faultless_merge.1 hf
    obtain ⟨hsummary, -, hregistry, held', hs', hcarried⟩ := fanOut_spec ht hs partition call hf
    obtain ⟨hsummary', hregistry', held'', hs'', hcarried'⟩ := ih hnodup hs' hf'
    rw [hregistry] at hsummary' hregistry' hcarried'
    refine ⟨?_, hregistry', held'', hs'', hcarried.append ht hcarried' ?_⟩
    · simp only [fanOutEach, hsummary, hsummary', List.flatMap_cons, Registry.summaryOf_append]
    · rw [← anyCalls, map_fst_anyCalls]
      simpa using hfresh

theorem balanced_fanOutEach {kind : ReplyKind} (t : ReplicatedTable)
    (calls : List (Nat × NodeCall kind)) (cluster : Cluster) :
    (t.fanOutEach calls cluster).1.Balanced := by
  induction calls generalizing cluster with
  | nil => rfl
  | cons call rest ih => exact (balanced_fanOut t _ _ _).merge (ih _)

end ReplicatedTable

/-! ## Plans -/

namespace Plan

open ReplicatedTable (anyCalls map_fst_anyCalls Answers Carried)

variable {t : ReplicatedTable} {held : ReplicaId → String}

/-- The positions that the driver of a plan answers: those of its first registered node, or
none. -/
def Answered (t : ReplicatedTable) (registry : Registry) (held : ReplicaId → String)
    (positions : List Nat) : Plan → Prop
  | each _ => positions = []
  | driven _ driver call _ =>
    match (t.nodes driver).find? fun node => registry.reaches node.id with
    | none => positions = []
    | some node => ∃ text, call.perform node.store (held node.id) = some (positions, text)

/-- Only checked partitions are called. -/
theorem called_subset {plan : Plan} (h : plan.Fits) (positions : List Nat) :
    ∀ call ∈ plan.called positions, call.1 ∈ plan.checked := by
  intro call hcall
  have hmem := List.mem_map_of_mem (f := Prod.fst) hcall
  cases plan with
  | each calls => rwa [called, map_fst_anyCalls] at hmem
  | driven checked driver first others =>
    rw [called, List.map_cons, List.mem_cons] at hmem
    rcases hmem with heq | hmem
    · exact heq ▸ h.1
    · split at hmem
      · simp at hmem
      · rw [map_fst_anyCalls] at hmem
        exact ((h.2 positions).2.1 _ hmem).1

/-- The first answer of a driver, if there is any, gives the positions. -/
theorem answered_of_answers {checked : List Nat} {driver : Nat} {call : NodeCall .positions}
    {others : List Nat → List (Nat × NodeCall .count)} {registry : Registry}
    {answers : List (List Nat)} (h : Answers registry call held (t.nodes driver) answers) :
    (driven checked driver call others).Answered t registry held (answers.head?.getD []) := by
  simp only [Answered, Answers] at h ⊢
  split <;> rename_i hfind <;> rw [hfind] at h
  · rw [h]
    rfl
  · obtain ⟨value, text, hhead, hperform⟩ := h
    rw [hhead]
    exact ⟨text, hperform⟩

/-- **What a plan does that only meets unregistered nodes as failures.**  Its summary follows from
the registry, and the registered nodes that it calls carry out their calls. -/
theorem carryOut_spec (ht : t.Deployed) {plan : Plan} (h : plan.Fits) {cluster : Cluster}
    (hs : t.Attends held cluster) (hf : (plan.carryOut t cluster).1.Faultless) :
    (plan.carryOut t cluster).2.registry = cluster.registry ∧
      ∃ positions held', plan.Answered t cluster.registry held positions ∧
        (plan.carryOut t cluster).1 = cluster.registry.summaryOf
          ((plan.called positions).flatMap fun call => t.idsOf call.1) ∧
        t.Attends held' (plan.carryOut t cluster).2 ∧
        t.Carried cluster.registry (plan.called positions) held held' := by
  cases plan with
  | each calls =>
    obtain ⟨hsummary, hregistry, held', hs', hcarried⟩ :=
      ReplicatedTable.fanOutEach_spec ht h hs hf
    refine ⟨hregistry, [], held', rfl, ?_, hs', hcarried⟩
    rw [called, anyCalls, List.flatMap_map]
    exact hsummary
  | driven checked driver call others =>
    have hfan : (t.fanOut driver call cluster).1.summary.Faultless := by
      simp only [carryOut, ReplicatedTable.propagate] at hf
      split at hf
      · exact hf
      · exact (Summary.faultless_merge.1 hf).1
    obtain ⟨hsummary, hanswers, hregistry, held', hs', hcarried⟩ :=
      ReplicatedTable.fanOut_spec ht hs driver call hfan
    generalize hpositions : (t.fanOut driver call cluster).1.answers.head?.getD [] = positions
    have hanswered : (driven checked driver call others).Answered t cluster.registry held
        positions := hpositions ▸ answered_of_answers hanswers
    simp only [carryOut, ReplicatedTable.propagate, hpositions] at hf ⊢
    by_cases hnil : positions = []
    · rw [if_pos hnil]
      refine ⟨hregistry, positions, held', hanswered, ?_, hs', ?_⟩
      · simpa [called, hnil] using hsummary
      · simpa [called, hnil] using hcarried
    · rw [if_neg hnil] at hf ⊢
      obtain ⟨-, hf⟩ := Summary.faultless_merge.1 hf
      obtain ⟨hsummary', hregistry', held'', hs'', hcarried'⟩ :=
        ReplicatedTable.fanOutEach_spec ht (h.2 positions).1 hs' hf
      rw [hregistry] at hsummary' hregistry' hcarried'
      refine ⟨hregistry', positions, held'', hanswered, ?_, hs'', ?_⟩
      · simp only [called, if_neg hnil, List.flatMap_cons, Registry.summaryOf_append]
        rw [hsummary, hsummary']
        simp [anyCalls, List.flatMap_map]
      · rw [called, if_neg hnil]
        refine hcarried.append ht hcarried' fun other hother => ?_
        rw [← anyCalls, map_fst_anyCalls, List.mem_singleton.1 hother]
        exact fun hmem => ((h.2 positions).2.1 driver hmem).2 rfl

theorem balanced_carryOut (t : ReplicatedTable) (plan : Plan) (cluster : Cluster) :
    (plan.carryOut t cluster).1.Balanced := by
  cases plan with
  | each calls => exact ReplicatedTable.balanced_fanOutEach t calls cluster
  | driven checked driver call others =>
    simp only [carryOut, ReplicatedTable.propagate]
    split
    · exact ReplicatedTable.balanced_fanOut t _ _ _
    · exact (ReplicatedTable.balanced_fanOut t _ _ _).merge
        (ReplicatedTable.balanced_fanOutEach t _ _)

end Plan

namespace ReplicatedTable

variable {t : ReplicatedTable} {held : ReplicaId → String}

/-! ## Writes -/

/-- A write that is refused changes nothing; one that is not refused has carried out its plan
after finding all replicas alive. -/
theorem write_cases (t : ReplicatedTable) (operation : Operation) (cluster : Cluster) :
    (∃ e, t.write operation cluster = (.error e, cluster)) ∨
      ∃ plan, t.plan? operation = .ok plan ∧ t.checkAllAlive plan.checked = .ok () ∧
        t.write operation cluster =
          (.ok (plan.carryOut t cluster).1, (plan.carryOut t cluster).2) := by
  rw [write_eq_plan]
  cases hplan : t.plan? operation with
  | error e => exact Or.inl ⟨e, rfl⟩
  | ok plan =>
    simp only [follow]
    cases hcheck : t.checkAllAlive plan.checked with
    | error e => exact Or.inl ⟨e, rfl⟩
    | ok _ => exact Or.inr ⟨plan, rfl, hcheck, rfl⟩

/-- A write that every replica carried out met no failures. -/
theorem failures_of_isComplete {operation : Operation} {cluster cluster' : Cluster}
    {summary : Summary} (h : t.write operation cluster = (.ok summary, cluster'))
    (hcomplete : summary.isComplete = true) : summary.failures = [] := by
  rcases write_cases t operation cluster with ⟨e, hwrite⟩ | ⟨plan, -, -, hwrite⟩
  · simp [hwrite] at h
  · obtain ⟨rfl, -⟩ : (plan.carryOut t cluster).1 = summary ∧ _ := by simpa [hwrite] using h
    exact (Plan.balanced_carryOut t plan cluster).failures_eq_nil hcomplete

/-- **What a write does that is not refused and only meets unregistered nodes as failures.** -/
theorem attended_write (ht : t.Deployed) {operation : Operation} {cluster cluster' : Cluster}
    {summary : Summary} (hs : t.Attends held cluster)
    (h : t.write operation cluster = (.ok summary, cluster')) (hf : summary.Faultless) :
    cluster'.registry = cluster.registry ∧
      ∃ plan positions held', t.plan? operation = .ok plan ∧ plan.Fits ∧
        (∀ partition ∈ plan.checked, ∀ replica ∈ t.replicas partition, replica.alive = true) ∧
        plan.Answered t cluster.registry held positions ∧
        summary = cluster.registry.summaryOf
          ((plan.called positions).flatMap fun call => t.idsOf call.1) ∧
        t.Attends held' cluster' ∧
        t.Carried cluster.registry (plan.called positions) held held' := by
  rcases write_cases t operation cluster with ⟨e, hwrite⟩ | ⟨plan, hplan, halive, hwrite⟩
  · simp [hwrite] at h
  · obtain ⟨rfl, rfl⟩ : (plan.carryOut t cluster).1 = summary ∧
        (plan.carryOut t cluster).2 = cluster' := by simpa [hwrite] using h
    have hfits := fits_plan? ht hplan
    obtain ⟨hregistry, positions, held', hanswered, hsummary, hs', hcarried⟩ :=
      Plan.carryOut_spec ht hfits hs hf
    exact ⟨hregistry, plan, positions, held', hplan, hfits,
      fun partition hpartition => alive_of_checkAllAlive halive hpartition, hanswered, hsummary,
      hs', hcarried⟩

/-- Such a write in a cluster whose files can be read. -/
theorem write_spec (ht : t.Deployed) {operation : Operation} {cluster cluster' : Cluster}
    {summary : Summary} (hs : t.Serves held cluster)
    (h : t.write operation cluster = (.ok summary, cluster')) (hf : summary.Faultless) :
    cluster'.registry = cluster.registry ∧
      ∃ plan positions held', t.plan? operation = .ok plan ∧ plan.Fits ∧
        (∀ partition ∈ plan.checked, ∀ replica ∈ t.replicas partition, replica.alive = true) ∧
        plan.Answered t cluster.registry held positions ∧
        summary = cluster.registry.summaryOf
          ((plan.called positions).flatMap fun call => t.idsOf call.1) ∧
        t.Serves held' cluster' ∧
        t.Carried cluster.registry (plan.called positions) held held' := by
  obtain ⟨hregistry, plan, positions, held', hplan, hfits, halive, hanswered, hsummary, hs',
    hcarried⟩ := attended_write ht hs.toAttends h hf
  have heffect := write_effect ht operation hs.registered
  rw [h] at heffect
  exact ⟨hregistry, plan, positions, held', hplan, hfits, halive, hanswered, hsummary,
    ⟨hs', hs.readable.of_faults heffect.spares.faults⟩, hcarried⟩

end ReplicatedTable

end TableStore
