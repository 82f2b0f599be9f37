import TableStore.Proofs.Runs
import TableStore.Proofs.SideBySide

/-!
# Calls in one process and over a network

Whether the nodes of tables are called in the same process or bound to a host and called over a
network that delivers everything makes no difference to anyone but for the text of store errors,
which the network wraps once more (`CallError.relayed`).

* Registries.  `Registry.Hosts` relates the two ways of keeping nodes: by their identities, and by
  the texts of these.  `Hosts.call` compares single calls.  It needs that the numbers of a message
  have 64 bits.
* Sizes.  Positions of rows have 64 bits as long as files have less than that many bytes
  (`isCountable_of_roomy`).  A call makes no other store longer, so this stays true until a
  replica is called (`mirrors_of_hosts`).
* Writes.  The calls that a write plans are small enough to be sent (`isSmall_of_called`).
-/

namespace TableStore

open FileSystem (Outcome)

/-! ## Numbers in messages -/

/-- Whether the numbers of an answer have 64 bits, and the number of its positions. -/
def ReplyKind.Fits : (kind : ReplyKind) → kind.Value → Prop
  | positions, found =>
    (∀ position ∈ found, position < Text.nat64Limit) ∧ found.length < Text.nat64Limit
  | count, found => found < Text.nat64Limit
  | rows, _ | done, _ => True

/-- An answer with numbers of 64 bits is received as it is. -/
theorem Received.answer_message_of_fits {kind : ReplyKind} {value : kind.Value}
    (h : kind.Fits value) (replica : String) :
    (ofResponse (.message 200 (kind.toJson value))).answer kind replica = .ok value := by
  have hanswer : (ofResponse (.message 200 (kind.toJson value))).answer kind replica =
      (kind.decoder (kind.toJson value).toDocument).mapError fun _ =>
        .decode "unexpected message" := rfl
  rw [hanswer]
  cases kind with
  | rows =>
    have hdecode := decode_one (a := "rows") (x := (Json.texts value).toDocument) id
      (Json.asList Json.asText)
    rw [asList_texts] at hdecode
    exact congrArg (Except.mapError fun _ => CallError.decode "unexpected message") hdecode
  | done => rfl
  | positions =>
    have hdecode := decode_one (a := "positions") (x := (Json.numbers value).toDocument) id
      (Json.asList Json.asNat)
    rw [asList_numbers_of_lt h.1] at hdecode
    exact congrArg (Except.mapError fun _ => CallError.decode "unexpected message") hdecode
  | count =>
    have hnumber : Json.asNat (Json.number value).toDocument = .ok value := asNat_number_of_lt h
    have hdecode := decode_one (a := "count") (x := (Json.number value).toDocument) id Json.asNat
    rw [hnumber] at hdecode
    exact congrArg (Except.mapError fun _ => CallError.decode "unexpected message") hdecode

/-! ## Registries -/

/-- The error of a call as it is reported over a network.  The text of a store's error is the whole
message of the error on the other side, which says already that a store failed. -/
def CallError.relayed : CallError → CallError
  | store text => .store ("Store failure on replica: " ++ text)
  | e => e

namespace Registry

/-- The second registry binds to a host the nodes that the first one registers, and the network
answers every call at once. -/
def Hosts : Registry → Registry → Prop
  | inProcess nodes, networked host link _ => link 0 = .answered ∧
    host.nodes.entries = nodes.entries.map fun entry => (entry.1.text, entry.2)
  | _, _ => False

variable {direct remote : Registry}

theorem hosts_empty {link : Link} (h : link 0 = .answered) (attempts : Nat) :
    Hosts .direct (.remote link attempts) := ⟨h, rfl⟩

theorem Hosts.size_eq (h : direct.Hosts remote) : remote.size = direct.size := by
  cases direct <;> cases remote <;> try exact h.elim
  simp only [size, KeyMap.size, h.2, List.length_map]

/-- Texts of identities can be erased in place of identities. -/
theorem entries_erase_text {nodes : KeyMap ReplicaId StorageNode}
    {hosted : KeyMap String StorageNode}
    (h : hosted.entries = nodes.entries.map fun entry => (entry.1.text, entry.2))
    (id : ReplicaId) : (hosted.erase id.text).entries =
      (nodes.erase id).entries.map fun entry => (entry.1.text, entry.2) := by
  simp only [KeyMap.erase, KeyMap.filter, h, List.filter_map]
  congr 1
  refine List.filter_congr fun entry _ => ?_
  have hiff : entry.1.text = id.text ↔ entry.1 = id :=
    ⟨ReplicaId.text_injective, fun heq => heq ▸ rfl⟩
  simp [hiff]

theorem Hosts.register (h : direct.Hosts remote) (node : StorageNode) :
    (direct.register node).Hosts (remote.register node) := by
  cases direct <;> cases remote <;> try exact h.elim
  refine ⟨h.1, ?_⟩
  simp only [NodeHost.bind, KeyMap.insert, entries_erase_text h.2, List.map_append, List.map_cons,
    List.map_nil]

theorem Hosts.unregister (h : direct.Hosts remote) (id : ReplicaId) :
    (direct.unregister id).Hosts (remote.unregister id) := by
  cases direct <;> cases remote <;> try exact h.elim
  exact ⟨h.1, entries_erase_text h.2 id⟩

theorem Hosts.get?_eq (h : direct.Hosts remote) (id : ReplicaId) :
    remote.get? id = direct.get? id := by
  cases direct <;> cases remote <;> try exact h.elim
  rename_i nodes host link attempts
  have hiff : ∀ entry : ReplicaId × StorageNode, entry.1.text = id.text ↔ entry.1 = id :=
    fun entry => ⟨ReplicaId.text_injective, fun heq => heq ▸ rfl⟩
  simp only [get?, KeyMap.get?, h.2, List.find?_map, Option.map_map, Function.comp_def, hiff]

/-- **A call over the network comes to the same as a call in the process**, if the numbers in its
message and in its answer have 64 bits. -/
theorem Hosts.call (h : direct.Hosts remote) {id : ReplicaId} (hvalid : id.IsValid)
    {kind : ReplyKind} {call : NodeCall kind} (hfits : call.Fits) {files : FileSystem}
    (hanswer : ∀ value, (direct.call id call files).1 = .ok value → kind.Fits value) :
    remote.call id call files =
      ((direct.call id call files).1.mapError CallError.relayed,
        (direct.call id call files).2) := by
  have hget := h.get?_eq id
  cases direct <;> cases remote <;> try exact h.elim
  rename_i nodes host link attempts
  simp only [get?] at hget
  simp only [Registry.call, NodeClient.call_of_answered h.1] at hanswer ⊢
  rcases serve_request (.create "" id.text attempts) hvalid rfl call with
    hserve | ⟨status, hlarge, -⟩
  · rw [hserve]
    simp only [NodeHost.call, hget]
    cases hnode : nodes.get? id with
    | none =>
      simp only [Received.answer_missing]
      rfl
    | some node =>
      simp only [hnode] at hanswer
      simp only [StorageNode.answer] at hanswer ⊢
      cases hrun : node.run call files with
      | mk reply after =>
        cases reply with
        | error e =>
          simp only [Received.answer_failure]
          rfl
        | ok value =>
          simp only [hrun] at hanswer
          simp only [Received.answer_message_of_fits (hanswer value rfl)]
          rfl
  · exact absurd hfits hlarge

/-- Registered nodes have valid identities and write to files of their own names. -/
def Placed (registry : Registry) : Prop :=
  ∀ id node, registry.get? id = some node →
    id.IsValid ∧ node.store.path.getLast? = some id.fileName

theorem placed_direct : Placed .direct := by
  intro id node hget
  simp [Registry.direct, get?] at hget

theorem Placed.register (h : direct.Placed) {node : StorageNode} (hvalid : node.id.IsValid)
    (hlast : node.store.path.getLast? = some node.id.fileName) :
    (direct.register node).Placed := by
  intro id found hget
  rw [get?_register] at hget
  split at hget
  · next heq =>
    obtain rfl := Option.some.inj hget
    exact heq ▸ ⟨hvalid, hlast⟩
  · exact h id found hget

theorem Placed.unregister (h : direct.Placed) (id : ReplicaId) :
    (direct.unregister id).Placed := by
  intro other found hget
  rw [get?_unregister] at hget
  split at hget
  · simp at hget
  · exact h other found hget

end Registry

/-! ## Sizes -/

namespace Text

theorem length_pieces_le (c : Char) {pieces : List (List Char)} (hne : pieces ≠ []) :
    pieces.dropLast.length + (pieces.getLast?.toList.filter (· ≠ [])).length ≤
      ([c].intercalate pieces).length := by
  induction pieces with
  | nil => exact absurd rfl hne
  | cons piece rest ih =>
    cases rest with
    | nil => cases piece <;> simp [List.intercalate]
    | cons next rest =>
      have hrest := ih (List.cons_ne_nil _ _)
      have hcons : [c].intercalate (piece :: next :: rest) =
          piece ++ c :: [c].intercalate (next :: rest) := by simp [List.intercalate]
      rw [hcons]
      simp only [List.dropLast_cons_cons, List.length_cons, List.length_append,
        List.getLast?_cons_cons] at hrest ⊢
      omega

/-- A text has no more lines than characters. -/
theorem length_lines_le (text : String) : (lines text).length ≤ text.toList.length := by
  have hpieces := length_pieces_le '\n' (List.splitOn_ne_nil '\n' text.toList)
  rw [List.intercalate_splitOn] at hpieces
  simpa [lines] using hpieces

theorem length_toList_le (text : String) : text.toList.length ≤ text.toByteArray.size := by
  rw [← String.utf8Encode_toList]
  induction text.toList with
  | nil => simp
  | cons c cs ih =>
    have hpos := Char.utf8Size_pos c
    rw [List.utf8Encode_cons, ByteArray.size_append, List.utf8Encode_singleton]
    simp
    omega

end Text

/-- The number of bytes in a file. -/
def Entry.size : Entry → Nat
  | file content => content.size
  | directory => 0

namespace FileSystem

/-- Whether the number of bytes of every file has 64 bits. -/
def Roomy (fs : FileSystem) : Prop :=
  ∀ entry ∈ fs.entries.entries, entry.2.size < Text.nat64Limit

instance (fs : FileSystem) : Decidable fs.Roomy := inferInstanceAs (Decidable (∀ _ ∈ _, _))

end FileSystem

namespace RecordStore

/-- Whether the number of rows that the store reads has 64 bits. -/
def IsCountable (store : RecordStore) (fs : FileSystem) : Prop :=
  ∀ contents, store.contents fs = .ok contents → contents.rows.length < Text.nat64Limit

variable {store : RecordStore} {fs fs' : FileSystem}

theorem length_rows_le {contents : Contents} {text : String}
    (h : store.parse? text = some contents) :
    contents.rows.length ≤ (Text.lines text).length := by
  unfold parse? at h
  simp only at h
  split at h
  · obtain rfl := Option.some.inj h
    exact List.length_filter_le _ _
  · next header lines _ hlines =>
    obtain rfl := Option.some.inj h
    rw [hlines]
    exact (List.length_filter_le _ _).trans (Nat.le_succ _)
  · simp at h

/-- Files with a number of bytes of 64 bits have no more rows than that. -/
theorem isCountable_of_roomy (h : fs.Roomy) (store : RecordStore) : store.IsCountable fs := by
  intro contents hread
  rcases contents_ok hread with hnil | ⟨text, htext, hparse⟩
  · rw [hnil]
    decide
  · obtain ⟨dir, name, -, -, hentry⟩ := FileSystem.holds_of_readText htext
    have hsize : text.toByteArray.size < Text.nat64Limit :=
      h _ (KeyMap.get?_eq_some_iff.1 hentry)
    have hlines := (length_rows_le hparse).trans (Text.length_lines_le text)
    have hbytes := Text.length_toList_le text
    omega

/-- What is done under other names does not make a store longer. -/
theorem IsCountable.of_confined (h : store.IsCountable fs) {names : List String}
    (hconfined : FileSystem.Confined names fs fs') {name : String}
    (hlast : store.path.getLast? = some name) (hname : Path.IsName name) (hout : name ∉ names) :
    store.IsCountable fs' := by
  intro contents hread
  rcases contents_ok hread with hnil | ⟨text, htext, hparse⟩
  · rw [hnil]
    decide
  · cases hlocate : fs'.locate store.path with
    | error cause => simp [FileSystem.readText, FileSystem.readBytes, hlocate] at htext
    | ok location =>
      have halike := hconfined.alike hlast hname hout hlocate
      refine h contents ?_
      rw [halike.readText] at htext
      simp only [RecordStore.contents, htext, hparse]

/-- A call that is answered with rows or numbers is answered with those of the rows that the store
reads. -/
theorem run_ok {kind : ReplyKind} {node : StorageNode} {call : NodeCall kind} {value : kind.Value}
    (h : node.run call fs = (.ok value, fs')) :
    kind = .done ∨ ∃ contents, node.store.contents fs = .ok contents ∧
      value = (call.onRows node.store.columns contents.rows).1 := by
  have hreads : call.reads = true → kind = .done ∨ ∃ contents,
      node.store.contents fs = .ok contents ∧
        value = (call.onRows node.store.columns contents.rows).1 := by
    intro hcall
    obtain ⟨contents, hread, hvalue, -⟩ := run_ok_of_reads hcall h
    exact Or.inr ⟨contents, hread, hvalue⟩
  cases call with
  | insert names values => exact Or.inl rfl
  | heartbeat => exact Or.inl rfl
  | _ => exact hreads rfl

end RecordStore

/-- Whether the numbers of a call have 64 bits, and the number of its positions. -/
def NodeCall.IsSmall {kind : ReplyKind} (call : NodeCall kind) : Prop :=
  call.Fits ∧ call.positions.length < Text.nat64Limit

theorem Row.fits_matching (columns : Option (List String)) (condition : Predicate)
    {rows : List String} (h : rows.length < Text.nat64Limit) :
    ReplyKind.positions.Fits (Row.matching columns condition rows) := by
  rw [Row.matching_eq_positionsOf]
  refine ⟨fun position hposition => (Row.lt_length_of_mem_positionsOf hposition).trans h, ?_⟩
  refine Nat.lt_of_le_of_lt ?_ h
  rw [Row.positionsOf, List.length_map]
  exact (List.length_filter_le _ _).trans (List.length_zipIdx).le

/-- The answers of a store whose number of rows has 64 bits have 64 bits. -/
theorem StorageNode.fits_of_run {kind : ReplyKind} {node : StorageNode} {call : NodeCall kind}
    (hsmall : call.IsSmall) {fs fs' : FileSystem} (hcount : node.store.IsCountable fs)
    {value : kind.Value} (h : node.run call fs = (.ok value, fs')) : kind.Fits value := by
  rcases RecordStore.run_ok h with rfl | ⟨contents, hread, rfl⟩
  · trivial
  · have hlength := hcount contents hread
    cases call with
    | select => trivial
    | insert names values => trivial
    | heartbeat => trivial
    | update names values condition => exact Row.fits_matching _ _ hlength
    | updateAt positions names values =>
      exact Nat.lt_of_le_of_lt (List.length_filter_le _ _) hsmall.2
    | delete condition => exact Row.fits_matching _ _ hlength
    | deleteAt positions => exact Nat.lt_of_le_of_lt (Nat.sub_le _ _) hlength

theorem StorageNode.answer_eq (node : StorageNode) {kind : ReplyKind} (call : NodeCall kind)
    (files : FileSystem) : node.answer call files =
      ((node.run call files).1.mapError fun e => .store e.message, (node.run call files).2) := by
  unfold StorageNode.answer
  split <;> rename_i heq <;> rw [heq] <;> rfl

/-! ## Calls on replicas that were not called before -/

/-- The files are the same, and the replicas `ids` have not been called since their stores were
found to be countable. -/
def Ready (registry : Registry) (ids : List ReplicaId) (files files' : FileSystem) : Prop :=
  files' = files ∧ ids.Nodup ∧ ∀ id ∈ ids, id.IsValid ∧
    ∀ node, registry.get? id = some node → node.store.IsCountable files

section

variable {direct remote : Registry} (hosts : direct.Hosts remote) (placed : direct.Placed)
include hosts

theorem call_direct {kind : ReplyKind} (id : ReplicaId) (call : NodeCall kind)
    (files : FileSystem) : direct.call id call files =
      match direct.get? id with
      | none => (.error (.unregistered id), files)
      | some node => node.answer call files := by
  cases direct with
  | inProcess nodes => rfl
  | networked host link attempts => cases remote <;> exact hosts.elim

include placed

/-- **A host answers the calls of a write as its nodes do.** -/
theorem mirrors_of_hosts : direct.Mirrors remote CallError.relayed (fun call => call.2.IsSmall)
    ReplyKind.Fits (Ready direct) where
  call {kind call id rest files files'} hsmall hready := by
    obtain ⟨rfl, hnodup, hids⟩ := hready
    obtain ⟨⟨hvalid, hcountable⟩, hrest⟩ := List.forall_mem_cons.1 hids
    obtain ⟨hout, hnodup⟩ := List.nodup_cons.1 hnodup
    have hanswer : ∀ value, (direct.call id call files').1 = .ok value → kind.Fits value := by
      intro value hvalue
      rw [call_direct hosts] at hvalue
      cases hnode : direct.get? id with
      | none => simp [hnode] at hvalue
      | some node =>
        simp only [hnode, StorageNode.answer_eq] at hvalue
        cases hrun : node.run call files' with
        | mk reply after =>
          rw [hrun] at hvalue
          cases reply with
          | error e => simp [Except.mapError] at hvalue
          | ok found =>
            obtain rfl : found = value := by simpa [Except.mapError] using hvalue
            exact StorageNode.fits_of_run hsmall (hcountable node hnode) hrun
    refine ⟨_, (direct.call id call files').2, (direct.call id call files').2, rfl,
      hosts.call hvalid hsmall.1 hanswer, ⟨rfl, hnodup, ?_⟩, hanswer⟩
    intro other hother
    obtain ⟨hvalid', hcountable'⟩ := hrest other hother
    refine ⟨hvalid', fun node hnode => ?_⟩
    rw [call_direct hosts]
    cases hcalled : direct.get? id with
    | none => exact hcountable' node hnode
    | some called =>
      -- the call writes under names of its own
      have hconfined := RecordStore.confined_run call files' (placed id called hcalled).2
        (ReplicaId.isName_fileName id)
      simp only [StorageNode.answer_eq]
      refine (hcountable' node hnode).of_confined hconfined (placed other node hnode).2
        (ReplicaId.isName_fileName other) ?_
      exact ReplicaId.fileName_notMem_names hvalid' (fun heq : other = id => hout (heq ▸ hother)) _
  done := fun ⟨hfiles, _, _⟩ => ⟨hfiles, List.nodup_nil, by simp⟩

end

namespace ReplicatedTable

variable {t : ReplicatedTable}

theorem mem_idsOf (ht : t.Deployed) {partition : Nat} {id : ReplicaId}
    (h : id ∈ t.idsOf partition) : id.partition = partition ∧ id.IsValid := by
  obtain ⟨node, hnode, rfl⟩ := List.mem_map.1 h
  exact ⟨ht.partition_eq hnode, ht.isValid hnode⟩

theorem nodup_flatMap_idsOf (ht : t.Deployed) {partitions : List Nat}
    (h : partitions.Nodup) : (partitions.flatMap t.idsOf).Nodup := by
  refine List.nodup_flatMap.2 ⟨fun partition _ => ht.nodup partition, h.imp fun {a b} hne => ?_⟩
  intro id ha hb
  exact hne ((mem_idsOf ht ha).1.symm.trans (mem_idsOf ht hb).1)

/-- The calls that a write plans have no other numbers than the positions that it is told. -/
theorem isSmall_of_called {operation : Operation} {plan : Plan} {positions : List Nat}
    (hplan : t.plan? operation = .ok plan)
    (hpositions : positions = [] ∨ ReplyKind.positions.Fits positions) {call : Nat × AnyCall}
    (hcall : call ∈ plan.called positions) : call.2.2.IsSmall := by
  have hgiven : (∀ position ∈ positions, position < Text.nat64Limit) ∧
      positions.length < Text.nat64Limit := by
    rcases hpositions with rfl | hfits
    · exact ⟨by simp, by decide⟩
    · exact hfits
  have hnone : (∀ position ∈ ([] : List Nat), position < Text.nat64Limit) ∧
      ([] : List Nat).length < Text.nat64Limit := ⟨by simp, by decide⟩
  rcases mem_called_cases hplan hcall with
    ⟨slice, -, -, -, rfl⟩ | ⟨-, columns, values, -, hcall⟩ | hcall
  · exact hnone
  · rcases hcall with ⟨driver, condition, rfl⟩ | ⟨partition, rfl⟩
    · exact hnone
    · exact hgiven
  · rcases hcall with ⟨driver, condition, rfl⟩ | ⟨partition, rfl⟩
    · exact hnone
    · exact hgiven

end ReplicatedTable

end TableStore
