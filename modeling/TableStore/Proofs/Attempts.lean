import Mathlib.Logic.Function.Iterate
import TableStore.Proofs.Transport

/-!
# How often a call is carried out

A client that gets no response tries again and cannot know whether the host has carried out the
call before.  Requests bear no mark by which the host could tell: it carries out every attempt that
reaches it.

* `Link.executions` counts the attempts that reach the host.  The last of them is the one that is
  answered, if any is.
* `NodeClient.send_spec` follows the repetition attempt by attempt, for any request.
* `NodeClient.call_executes` is the result for calls on a replica: the files are those after as
  many executions, one after another, and an answer is that of the last one.
* `Registry.call_files` keeps from this what holds of every call through a registry.
-/

namespace TableStore

/-! ## Attempts that reach the host -/

namespace Link

/-- The attempt is made, because none before it was answered, and its request reaches the host. -/
def Executes (link : Link) (attempt : Nat) : Prop :=
  (∀ earlier < attempt, link earlier ≠ .answered) ∧ link attempt ≠ .lost

instance (link : Link) (attempt : Nat) : Decidable (link.Executes attempt) :=
  inferInstanceAs (Decidable ((∀ earlier < attempt, _) ∧ _))

/-- How many of `count` attempts reach the host, the first of which has the number `attempt`. -/
def executionsFrom (link : Link) (attempt count : Nat) : Nat :=
  ((List.range' attempt count).filter fun attempt => link.Executes attempt).length

/-- How many of a number of attempts reach the host. -/
def executions (link : Link) (attempts : Nat) : Nat := link.executionsFrom 0 attempts

/-- The host carries out an attempt after another one, whose response was lost. -/
def Repeats (link : Link) (attempts : Nat) : Prop :=
  ∃ first second, first < second ∧ second < attempts ∧ link.Executes first ∧ link.Executes second

variable {link : Link} {attempt count : Nat}

theorem executionsFrom_lost (h : link attempt = .lost) :
    link.executionsFrom attempt (count + 1) = link.executionsFrom (attempt + 1) count := by
  have hnot : ¬ link.Executes attempt := fun hexecutes => hexecutes.2 h
  rw [executionsFrom, List.range'_succ, List.filter_cons_of_neg (by simpa using hnot),
    executionsFrom]

theorem executionsFrom_unanswered (hbefore : ∀ earlier < attempt, link earlier ≠ .answered)
    (h : link attempt = .unanswered) :
    link.executionsFrom attempt (count + 1) = link.executionsFrom (attempt + 1) count + 1 := by
  have hexecutes : link.Executes attempt := ⟨hbefore, by simp [h]⟩
  rw [executionsFrom, List.range'_succ, List.filter_cons_of_pos (by simpa using hexecutes),
    List.length_cons, executionsFrom]

/-- The attempt that is answered is the last one. -/
theorem executionsFrom_answered (hbefore : ∀ earlier < attempt, link earlier ≠ .answered)
    (h : link attempt = .answered) : link.executionsFrom attempt (count + 1) = 1 := by
  have hexecutes : link.Executes attempt := ⟨hbefore, by simp [h]⟩
  have hlater : ∀ later ∈ List.range' (attempt + 1) count, ¬ link.Executes later := by
    intro later hlater hexecutes
    have hlt : attempt < later := by
      have := (List.mem_range'_1.1 hlater).1
      omega
    exact hexecutes.1 attempt hlt h
  rw [executionsFrom, List.range'_succ, List.filter_cons_of_pos (by simpa using hexecutes),
    List.filter_eq_nil_iff.2 (by simpa using hlater)]
  rfl

theorem before_succ (hbefore : ∀ earlier < attempt, link earlier ≠ .answered)
    (h : link attempt ≠ .answered) : ∀ earlier < attempt + 1, link earlier ≠ .answered := by
  intro earlier hearlier
  rcases Nat.lt_succ_iff_lt_or_eq.1 hearlier with hlt | rfl
  · exact hbefore earlier hlt
  · exact h

theorem executions_le (link : Link) (attempts : Nat) : link.executions attempts ≤ attempts := by
  have hle := List.length_filter_le (fun attempt => decide (link.Executes attempt))
    (List.range' 0 attempts)
  rwa [List.length_range'] at hle

/-- Nothing is carried out twice as long as no attempt reaches the host after another one. -/
theorem executions_le_one {attempts : Nat} (h : ¬ link.Repeats attempts) :
    link.executions attempts ≤ 1 := by
  unfold executions executionsFrom
  have hascending : ((List.range' 0 attempts).filter fun attempt => link.Executes attempt).Pairwise
      (· < ·) := List.Pairwise.sublist List.filter_sublist (List.pairwise_lt_range' ..)
  have hmem : ∀ attempt ∈ (List.range' 0 attempts).filter (fun attempt => link.Executes attempt),
      attempt < attempts ∧ link.Executes attempt := by simp
  cases hlist : (List.range' 0 attempts).filter fun attempt => link.Executes attempt with
  | nil => simp
  | cons first rest =>
    cases rest with
    | nil => simp
    | cons second rest =>
      rw [hlist] at hascending hmem
      have hlt : first < second := (List.pairwise_cons.1 hascending).1 second (by simp)
      obtain ⟨-, hfirst⟩ := hmem first (by simp)
      obtain ⟨hbound, hsecond⟩ := hmem second (by simp)
      exact absurd ⟨first, second, hlt, hbound, hfirst, hsecond⟩ h

end Link

/-! ## Repeated requests -/

/-- The files after a request was served. -/
def NodeHost.filesAfter (host : NodeHost) (request : Http.Request) (fs : FileSystem) :
    FileSystem := (host.serve request fs).2

/-- The files after a node carried out a call. -/
def StorageNode.filesAfter {kind : ReplyKind} (node : StorageNode) (call : NodeCall kind)
    (fs : FileSystem) : FileSystem := (node.run call fs).2

namespace NodeClient

/-- The host serves a request once for every attempt that reaches it, and the response that comes
back is the last one. -/
theorem send_spec (host : NodeHost) (link : Link) (request : Http.Request) {attempt : Nat}
    (hbefore : ∀ earlier < attempt, link earlier ≠ .answered) (count : Nat) (fs : FileSystem) :
    (send host link request attempt count fs).2 =
        (host.filesAfter request)^[link.executionsFrom attempt count] fs ∧
      ∀ response, (send host link request attempt count fs).1 = some response →
        ∃ before, link.executionsFrom attempt count = before + 1 ∧
          response = (host.serve request ((host.filesAfter request)^[before] fs)).1 := by
  induction count generalizing attempt fs with
  | zero =>
    refine ⟨rfl, fun response h => ?_⟩
    simp [send] at h
  | succ count ih =>
    cases hlink : link attempt with
    | lost =>
      simp only [send, hlink, Link.executionsFrom_lost hlink]
      exact ih (Link.before_succ hbefore (by simp [hlink])) fs
    | unanswered =>
      obtain ⟨hfiles, hresponse⟩ :=
        ih (Link.before_succ hbefore (by simp [hlink])) (host.serve request fs).2
      simp only [send, hlink, Link.executionsFrom_unanswered hbefore hlink]
      refine ⟨hfiles, fun response h => ?_⟩
      obtain ⟨before, hcount, hserved⟩ := hresponse response h
      exact ⟨before + 1, by rw [hcount], hserved⟩
    | answered =>
      simp only [send, hlink, Link.executionsFrom_answered hbefore hlink]
      refine ⟨rfl, fun response h => ⟨0, rfl, ?_⟩⟩
      exact (Option.some.inj h).symm

/-! ## Repeated calls -/

section

variable {client : NodeClient} {host : NodeHost} {id : ReplicaId} {node : StorageNode}
  {kind : ReplyKind} {call : NodeCall kind}

/-- A host does with the files what the node that is bound to it does. -/
theorem filesAfter_call (hbound : host.nodes.get? id.text = some node) (fs : FileSystem) :
    (host.call id.text call fs).2 = node.filesAfter call fs := by
  rw [NodeHost.call, hbound, StorageNode.filesAfter]
  simp only [StorageNode.answer]
  cases node.run call fs with
  | mk reply fs' => cases reply <;> rfl

/-- What serving a call does to the files is what the bound node does. -/
theorem filesAfter_request (hvalid : id.IsValid) (hclient : client.replica = id.text)
    (hbound : host.nodes.get? id.text = some node) (hfits : call.Fits) :
    (∀ fs, host.serve (client.request call) fs = host.call id.text call fs) ∧
      host.filesAfter (client.request call) = node.filesAfter call := by
  have hserve : ∀ fs, host.serve (client.request call) fs = host.call id.text call fs := by
    rcases serve_request client hvalid hclient call with hcall | ⟨-, hlarge, -⟩
    · exact hcall host
    · exact absurd hfits hlarge
  refine ⟨hserve, funext fun fs => ?_⟩
  rw [NodeHost.filesAfter, hserve, filesAfter_call hbound]

/-- The answer that a client takes from the response of a node is the node's. -/
theorem run_of_answer (hbound : host.nodes.get? id.text = some node) {fs : FileSystem}
    {replica : String} {value : kind.Value}
    (h : (Received.ofResponse (host.call id.text call fs).1).answer kind replica = .ok value) :
    (node.run call fs).1 = .ok value := by
  simp only [NodeHost.call, hbound, StorageNode.answer] at h
  cases hrun : node.run call fs with
  | mk reply fs' =>
    rw [hrun] at h
    cases reply with
    | error e =>
      rw [Received.answer_failure] at h
      simp at h
    | ok found =>
      rcases Received.answer_message kind replica found with hanswer | ⟨detail, hanswer⟩
      · simpa [hanswer] using h
      · simp [hanswer] at h

/-- **A call is carried out once for every attempt that reaches the host.**  That is not more often
than the client tries, and not more than once if no attempt reaches the host after another one.  An
answer is that of the last execution. -/
theorem call_executes (hvalid : id.IsValid) (hclient : client.replica = id.text)
    (hbound : host.nodes.get? id.text = some node) (hfits : call.Fits) (link : Link)
    (fs : FileSystem) :
    (client.call host link call fs).2 =
        (node.filesAfter call)^[link.executions (client.attemptsFor call)] fs ∧
      link.executions (client.attemptsFor call) ≤ client.attemptsFor call ∧
      (¬ link.Repeats (client.attemptsFor call) →
        link.executions (client.attemptsFor call) ≤ 1) ∧
      ∀ value, (client.call host link call fs).1 = .ok value →
        ∃ before, link.executions (client.attemptsFor call) = before + 1 ∧
          (node.run call ((node.filesAfter call)^[before] fs)).1 = .ok value := by
  obtain ⟨hserve, hfilesAfter⟩ := filesAfter_request hvalid hclient hbound hfits
  have hbefore : ∀ earlier < 0, link earlier ≠ .answered := by simp
  obtain ⟨hfiles, hresponse⟩ :=
    send_spec host link (client.request call) hbefore (client.attemptsFor call) fs
  rw [hfilesAfter] at hfiles hresponse
  refine ⟨?_, Link.executions_le link _, Link.executions_le_one, fun value hvalue => ?_⟩
  · rw [Link.executions, ← hfiles, NodeClient.call]
    split <;> rename_i heq <;> rw [heq]
  · rw [NodeClient.call] at hvalue
    split at hvalue
    · simp at hvalue
    · next response fs' heq =>
      obtain ⟨before, hcount, hserved⟩ := hresponse response (by rw [heq])
      have hanswer : (Received.ofResponse (host.call id.text call
          ((node.filesAfter call)^[before] fs)).1).answer kind client.replica = .ok value := by
        rw [← hserve, ← hserved]
        exact hvalue
      exact ⟨before, hcount, run_of_answer hbound hanswer⟩

end

/-! ### A call that is carried out twice -/

/-- A node for students. -/
def student : StorageNode :=
  ⟨⟨"students", .sql, 0, 0⟩, ⟨["data", "students-SQL-0-0.csv"], some ["id"]⟩⟩

/-- A host that the node is bound to. -/
def studentHost : NodeHost := .bind .empty student

/-- The files after the node was created and one row was added. -/
def studentFiles : FileSystem :=
  student.filesAfter (.insert ["id"] ["1"])
    (StorageNode.create student.id ["data"] student.store.columns .empty).2

/-- A client of the node that tries twice. -/
def studentClient : NodeClient := create "http://127.0.0.1:9000" student.id.text 2

/-- The network that loses the first response. -/
def forgetful : Link := fun attempt => if attempt = 0 then .unanswered else .answered

/-- The removal of the row. -/
def removal : NodeCall .positions := .delete ⟨"id", "1"⟩

theorem isValid_student : student.id.IsValid := by
  have hname : (TableDef.mk "students" .sql (some ["id"])).hasValidName = true := by
    decide +kernel
  exact ReplicaId.isValid_of_hasValidName hname 0 0

theorem studentClient_replica : studentClient.replica = student.id.text := rfl

/-- The first attempt removes the row.  The second one finds none, and that is the answer. -/
theorem call_executes_student :
    studentHost.nodes.get? student.id.text = some student ∧ removal.Fits ∧
      (studentClient.call studentHost forgetful removal studentFiles).1 = .ok [] ∧
      forgetful.executions (studentClient.attemptsFor removal) = 2 ∧
      (studentClient.call studentHost forgetful removal studentFiles).2 =
        (student.filesAfter removal)^[2] studentFiles ∧
      ∃ before, 2 = before + 1 ∧
        (student.run removal ((student.filesAfter removal)^[before] studentFiles)).1 = .ok [] := by
  have hbound : studentHost.nodes.get? student.id.text = some student := by decide +kernel
  have hfits : removal.Fits := by decide
  have hanswer : (studentClient.call studentHost forgetful removal studentFiles).1 = .ok [] := by
    decide +kernel
  have hcount : forgetful.executions (studentClient.attemptsFor removal) = 2 := by decide +kernel
  obtain ⟨hfiles, -, -, hlast⟩ :=
    call_executes isValid_student studentClient_replica hbound hfits forgetful studentFiles
  rw [hcount] at hfiles hlast
  exact ⟨hbound, hfits, hanswer, hcount, hfiles, hlast [] hanswer⟩

/-- **A call can be carried out twice.**  An insertion whose first response is lost adds two rows,
so that the file is neither as before nor as after one execution. -/
theorem calls_can_repeat :
    ¬ ∀ (client : NodeClient) (host : NodeHost) (node : StorageNode) (kind : ReplyKind)
        (call : NodeCall kind) (link : Link) (fs : FileSystem),
      node.id.IsValid → client.replica = node.id.text →
      host.nodes.get? node.id.text = some node → call.Fits → call.endpoint.method = .post →
      (client.call host link call fs).2.readText node.store.path = fs.readText node.store.path ∨
        (client.call host link call fs).2.readText node.store.path =
          (node.filesAfter call fs).readText node.store.path := by
  intro h
  have hbound : studentHost.nodes.get? student.id.text = some student := by decide +kernel
  have hcases := h studentClient studentHost student .done (.insert ["id"] ["2"]) forgetful
    studentFiles isValid_student rfl hbound (by decide) rfl
  have hbefore : studentFiles.readText student.store.path = .ok "id\n1,\n" := by decide +kernel
  have honce : (student.filesAfter (.insert ["id"] ["2"]) studentFiles).readText
      student.store.path = .ok "id\n1,\n2,\n" := by decide +kernel
  have htwice : (studentClient.call studentHost forgetful (.insert ["id"] ["2"])
      studentFiles).2.readText student.store.path = .ok "id\n1,\n2,\n2,\n" := by decide +kernel
  rw [hbefore, honce, htwice] at hcases
  exact absurd hcases (by decide)

end NodeClient

/-! ## Calls through a registry -/

/-- Steps that do nothing or make one step of another kind are some steps of that kind. -/
theorem iterate_of_cases {σ : Type} {step step' : σ → σ}
    (h : ∀ state, step state = state ∨ step state = step' state) (count : Nat) (state : σ) :
    ∃ count', step^[count] state = step'^[count'] state := by
  induction count generalizing state with
  | zero => exact ⟨0, rfl⟩
  | succ count ih =>
    obtain ⟨count', hcount'⟩ := ih (step state)
    rw [Function.iterate_succ_apply, hcount']
    rcases h state with hsame | hstep
    · exact ⟨count', by rw [hsame]⟩
    · exact ⟨count' + 1, by rw [hstep, Function.iterate_succ_apply]⟩

/-- Whatever becomes of a call through a registry, the files are those after the registered node
has carried it out some number of times. -/
theorem Registry.call_files {kind : ReplyKind} (registry : Registry) {id : ReplicaId}
    (h : id.IsValid) (call : NodeCall kind) (fs : FileSystem) :
    (registry.call id call fs).2 = fs ∨
      ∃ node count, registry.get? id = some node ∧
        (registry.call id call fs).2 = (node.filesAfter call)^[count] fs := by
  cases registry with
  | inProcess nodes =>
    simp only [Registry.call, Registry.get?]
    cases hnode : nodes.get? id with
    | none => exact Or.inl rfl
    | some node =>
      refine Or.inr ⟨node, 1, rfl, ?_⟩
      simp only [StorageNode.answer, StorageNode.filesAfter, Function.iterate_one]
      cases node.run call fs with
      | mk reply fs' => cases reply <;> rfl
  | networked host link attempts =>
    have hbefore : ∀ earlier < 0, link earlier ≠ .answered := by simp
    have hsent := (NodeClient.send_spec host link ((NodeClient.create "" id.text attempts).request
      call) hbefore ((NodeClient.create "" id.text attempts).attemptsFor call) fs).1
    have hcall : (Registry.call (.networked host link attempts) id call fs).2 = (NodeClient.send
        host link ((NodeClient.create "" id.text attempts).request call) 0
        ((NodeClient.create "" id.text attempts).attemptsFor call) fs).2 := by
      simp only [Registry.call, NodeClient.call]
      split <;> rename_i heq <;> rw [heq]
    rw [hcall, hsent]
    have hserve := serve_request (.create "" id.text attempts) h rfl call
    simp only [Registry.get?]
    cases hnode : host.nodes.get? id.text with
    | none =>
      refine Or.inl (Function.iterate_fixed ?_ _)
      rcases hserve with heq | ⟨status, -, -, -, -, heq⟩ <;> rw [NodeHost.filesAfter, heq]
      rw [NodeHost.call, hnode]
    | some node =>
      have hstep : ∀ fs, host.filesAfter ((NodeClient.create "" id.text attempts).request call) fs =
          fs ∨ host.filesAfter ((NodeClient.create "" id.text attempts).request call) fs =
            node.filesAfter call fs := by
        intro fs
        rcases hserve with heq | ⟨status, -, -, -, -, heq⟩ <;> rw [NodeHost.filesAfter, heq]
        · exact Or.inr (NodeClient.filesAfter_call hnode fs)
        · exact Or.inl rfl
      obtain ⟨count, hcount⟩ := iterate_of_cases hstep _ fs
      exact Or.inr ⟨node, count, rfl, hcount⟩

end TableStore
