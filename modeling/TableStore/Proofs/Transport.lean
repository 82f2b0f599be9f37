import Mathlib.Data.List.TakeWhile
import TableStore.Proofs.Names
import TableStore.Registry

/-!
# Calls through a registry

A registry carries out calls directly or over a network.  This module shows that a caller sees
little of the difference, as long as the network answers the first attempt (`Registry.Responds`).

* Messages.  A call or an answer that is encoded is decoded to itself, or not at all if it holds a
  number beyond 64 bits (`decode_request`, `decode_answer`).  `NodeCall.Fits` excludes such
  numbers.
* Requests.  The address of an endpoint is taken apart again (`locate_target`), so a host makes the
  call that the client asked for (`serve_request`).
* Registries.  `Registry.call_cases` lists what a call can come to, for both kinds of registries.
-/

namespace TableStore

open FileSystem (Outcome)
open Json

/-! ## Messages -/

/-- A list is decoded to itself if its items are. -/
theorem asList_items {α : Type} {encode : α → Json} {item : Decoder α} {values : List α}
    (h : ∀ value ∈ values, item (encode value).toDocument = .ok value) :
    asList item (Json.list (values.map encode)).toDocument = .ok values := by
  have hall : decodeAll item (itemDocuments (values.map encode)) = .ok values := by
    induction values with
    | nil => rfl
    | cons value rest ih =>
      obtain ⟨hvalue, hrest⟩ := List.forall_mem_cons.1 h
      simp [itemDocuments, decodeAll, hvalue, ih hrest]
  simp [toDocument, asList, hall]

theorem asList_texts (values : List String) :
    asList asText (Json.texts values).toDocument = .ok values :=
  asList_items fun _ _ => rfl

/-- A number of 64 bits is decoded to itself. -/
theorem asNat_number_of_lt {n : Nat} (h : n < Text.nat64Limit) :
    asNat (Json.number n).toDocument = .ok n := by
  simp [toDocument, asNat, h]

/-- A number is decoded to itself, or refused. -/
theorem asNat_number (n : Nat) :
    asNat (Json.number n).toDocument = .ok n ∨
      ∃ e, asNat (Json.number n).toDocument = .error e := by
  simp only [toDocument]
  split
  · exact Or.inl rfl
  · exact Or.inr ⟨_, rfl⟩

theorem decodeAll_numbers (values : List Nat) :
    decodeAll asNat (itemDocuments (values.map .number)) = .ok values ∨
      ∃ e, decodeAll asNat (itemDocuments (values.map .number)) = .error e := by
  induction values with
  | nil => exact Or.inl rfl
  | cons value rest ih =>
    simp only [List.map_cons, itemDocuments, decodeAll]
    rcases asNat_number value with hvalue | ⟨e, hvalue⟩
    · rcases ih with hrest | ⟨e, hrest⟩
      · exact Or.inl (by simp [hvalue, hrest])
      · exact Or.inr ⟨e, by simp [hvalue, hrest]⟩
    · exact Or.inr ⟨e, by simp [hvalue]⟩

/-- Numbers of 64 bits are decoded to themselves. -/
theorem asList_numbers_of_lt {values : List Nat} (h : ∀ value ∈ values, value < Text.nat64Limit) :
    asList asNat (Json.numbers values).toDocument = .ok values :=
  asList_items fun value hvalue => asNat_number_of_lt (h value hvalue)

theorem asList_numbers (values : List Nat) :
    asList asNat (Json.numbers values).toDocument = .ok values ∨
      ∃ e, asList asNat (Json.numbers values).toDocument = .error e := by
  simp only [Json.numbers, toDocument, asList]
  rcases decodeAll_numbers values with hvalues | ⟨e, hvalues⟩
  · exact Or.inl (by simp [hvalues])
  · exact Or.inr ⟨e, by simp [hvalues]⟩

/-! ### Records with given fields -/

section

variable {α β γ δ : Type} {a b c : String} {x y z : Document}

theorem decode_one (f : α → β) (first : Decoder α) :
    Record.decode (f <$> Record.required a first) (.object [(some a, x)] .closed) =
      (first x).map f := by
  simp only [Record.decode, Functor.map, Record.required, gatherFields]
  cases hx : first x <;> simp [Record.checking, hx, Except.map, Given.get?]

theorem decode_two (f : α → β → γ) (first : Decoder α) (second : Decoder β) (hab : a ≠ b) :
    Record.decode (f <$> Record.required a first <*> Record.required b second)
        (.object [(some a, x), (some b, y)] .closed) =
      match first x with
      | .error e => .error e
      | .ok u => (second y).map (f u) := by
  have hba : b ≠ a := Ne.symm hab
  simp only [Record.decode, Functor.map, Seq.seq, Record.required, gatherFields]
  cases hx : first x <;> cases hy : second y <;>
    simp [Record.checking, hx, hy, Except.map, Given.get?, hab, hba]

theorem decode_three (f : α → β → γ → δ) (first : Decoder α) (second : Decoder β)
    (third : Decoder γ) (hab : a ≠ b) (hac : a ≠ c) (hbc : b ≠ c) :
    Record.decode
        (f <$> Record.required a first <*> Record.required b second <*> Record.required c third)
        (.object [(some a, x), (some b, y), (some c, z)] .closed) =
      match first x with
      | .error e => .error e
      | .ok u =>
        match second y with
        | .error e => .error e
        | .ok v => (third z).map (f u v) := by
  have hba : b ≠ a := Ne.symm hab
  have hca : c ≠ a := Ne.symm hac
  have hcb : c ≠ b := Ne.symm hbc
  simp only [Record.decode, Functor.map, Seq.seq, Record.required, gatherFields]
  cases hx : first x <;> cases hy : second y <;> cases hz : third z <;>
    simp [Record.checking, hx, hy, hz, Except.map, Given.get?, hab, hac, hbc, hba, hca, hcb]

end

theorem decode_predicate (condition : Predicate) :
    Predicate.decoder condition.toJson.toDocument = .ok condition :=
  decode_two Predicate.mk asText asText (by decide)

/-! ### Calls and answers -/

namespace NodeCall

/-- The positions that a call gives. -/
def positions {kind : ReplyKind} : NodeCall kind → List Nat
  | .updateAt positions _ _ => positions
  | .deleteAt positions => positions
  | _ => []

/-- Whether the numbers of a call have 64 bits, as all numbers of its senders have. -/
def Fits {kind : ReplyKind} (call : NodeCall kind) : Prop :=
  ∀ position ∈ call.positions, position < Text.nat64Limit

instance {kind : ReplyKind} (call : NodeCall kind) : Decidable call.Fits :=
  inferInstanceAs (Decidable (∀ _ ∈ _, _))

end NodeCall

/-- The message of a call is decoded to the call, or refused because of a number. -/
theorem decode_request {kind : ReplyKind} (call : NodeCall kind) {json : Json}
    (h : call.toJson? = some json) :
    NodeCall.decode call.endpoint json.toDocument = .ok ⟨kind, call⟩ ∨
      ¬ call.Fits ∧ ∃ e, NodeCall.decode call.endpoint json.toDocument = .error e := by
  cases call with
  | select => simp [NodeCall.toJson?] at h
  | heartbeat => simp [NodeCall.toJson?] at h
  | insert names values =>
    obtain rfl := Option.some.inj h
    have hdecode := decode_two (x := (Json.texts names).toDocument)
      (y := (Json.texts values).toDocument) NodeCall.insert (asList asText) (asList asText)
      (show "columns" ≠ "values" by decide)
    rw [asList_texts, asList_texts] at hdecode
    exact Or.inl (congrArg (Except.map (@Sigma.mk ReplyKind NodeCall .done)) hdecode)
  | update names values condition =>
    obtain rfl := Option.some.inj h
    have hdecode := decode_three (x := (Json.texts names).toDocument)
      (y := (Json.texts values).toDocument) (z := condition.toJson.toDocument) NodeCall.update
      (asList asText) (asList asText) Predicate.decoder (show "columns" ≠ "values" by decide)
      (show "columns" ≠ "predicate" by decide) (by decide)
    rw [asList_texts, asList_texts, decode_predicate] at hdecode
    exact Or.inl (congrArg (Except.map (@Sigma.mk ReplyKind NodeCall .positions)) hdecode)
  | updateAt positions names values =>
    obtain rfl := Option.some.inj h
    have hdecode := decode_three (x := (Json.numbers positions).toDocument)
      (y := (Json.texts names).toDocument) (z := (Json.texts values).toDocument) NodeCall.updateAt
      (asList asNat) (asList asText) (asList asText) (show "positions" ≠ "columns" by decide)
      (show "positions" ≠ "values" by decide) (by decide)
    rcases asList_numbers positions with hpositions | ⟨e, hpositions⟩
    · rw [hpositions, asList_texts, asList_texts] at hdecode
      exact Or.inl (congrArg (Except.map (@Sigma.mk ReplyKind NodeCall .count)) hdecode)
    · rw [hpositions] at hdecode
      refine Or.inr ⟨fun hfits => ?_, e,
        congrArg (Except.map (@Sigma.mk ReplyKind NodeCall .count)) hdecode⟩
      have hfit : asList asNat (Json.numbers positions).toDocument = .ok positions :=
        asList_numbers_of_lt hfits
      simp [hfit] at hpositions
  | delete condition =>
    obtain rfl := Option.some.inj h
    have hdecode := decode_one (a := "predicate") (x := condition.toJson.toDocument)
      NodeCall.delete Predicate.decoder
    rw [decode_predicate] at hdecode
    exact Or.inl (congrArg (Except.map (@Sigma.mk ReplyKind NodeCall .positions)) hdecode)
  | deleteAt positions =>
    obtain rfl := Option.some.inj h
    have hdecode := decode_one (a := "positions") (x := (Json.numbers positions).toDocument)
      NodeCall.deleteAt (asList asNat)
    rcases asList_numbers positions with hpositions | ⟨e, hpositions⟩
    · rw [hpositions] at hdecode
      exact Or.inl (congrArg (Except.map (@Sigma.mk ReplyKind NodeCall .count)) hdecode)
    · rw [hpositions] at hdecode
      refine Or.inr ⟨fun hfits => ?_, e,
        congrArg (Except.map (@Sigma.mk ReplyKind NodeCall .count)) hdecode⟩
      have hfit : asList asNat (Json.numbers positions).toDocument = .ok positions :=
        asList_numbers_of_lt hfits
      simp [hfit] at hpositions

/-- Rows are decoded to themselves. -/
theorem decode_rows (rows : List String) :
    ReplyKind.rows.decoder (ReplyKind.rows.toJson rows).toDocument = .ok rows := by
  have hdecode := decode_one (a := "rows") (x := (Json.texts rows).toDocument) id
    (asList asText)
  rw [asList_texts] at hdecode
  exact hdecode

/-- The message of an answer is decoded to the answer, or refused because of a number. -/
theorem decode_answer (kind : ReplyKind) (value : kind.Value) :
    kind.decoder (kind.toJson value).toDocument = .ok value ∨
      ∃ e, kind.decoder (kind.toJson value).toDocument = .error e := by
  cases kind with
  | rows => exact Or.inl (decode_rows value)
  | done => exact Or.inl rfl
  | positions =>
    have hdecode := decode_one (a := "positions") (x := (Json.numbers value).toDocument) id
      (asList asNat)
    rcases asList_numbers value with hvalue | ⟨e, hvalue⟩ <;> rw [hvalue] at hdecode
    · exact Or.inl hdecode
    · exact Or.inr ⟨e, hdecode⟩
  | count =>
    have hdecode := decode_one (a := "count") (x := (Json.number value).toDocument) id asNat
    rcases asNat_number value with hvalue | ⟨e, hvalue⟩ <;> rw [hvalue] at hdecode
    · exact Or.inl hdecode
    · exact Or.inr ⟨e, hdecode⟩

/-! ## Requests -/

theorem toList_loop (bytes : ByteArray) (i : Nat) (acc : List UInt8) :
    ByteArray.toList.loop bytes i acc = acc.reverse ++ bytes.data.toList.drop i := by
  rw [ByteArray.toList.loop]
  split
  · next hlt =>
    have hlt' : i < bytes.data.toList.length := by simpa using hlt
    have hget : bytes.get! i = bytes.data.toList[i] := by
      rw [ByteArray.get!, getElem!_pos bytes.data i hlt, Array.getElem_toList]
    rw [toList_loop bytes (i + 1), List.drop_eq_getElem_cons hlt', hget]
    simp
  · next hge =>
    have hge' : bytes.data.toList.length ≤ i := by simpa using hge
    rw [List.drop_eq_nil_of_le hge', List.append_nil]
termination_by bytes.size - i

theorem toList_toUTF8 (text : String) :
    text.toUTF8.toList = text.toList.flatMap String.utf8EncodeChar := by
  rw [ByteArray.toList, toList_loop, String.toUTF8, ← String.utf8Encode_toList, List.utf8Encode]
  simp

/-- A text without percent signs stands for itself. -/
theorem percentBytes_of_notMem {cs : List Char} (h : '%' ∉ cs) :
    Http.percentBytes cs = cs.flatMap String.utf8EncodeChar := by
  induction cs with
  | nil => simp [Http.percentBytes]
  | cons c rest ih =>
    obtain ⟨hc, hrest⟩ : '%' ≠ c ∧ '%' ∉ rest := by simpa using h
    have hstep : Http.percentBytes (c :: rest) =
        c.toString.toUTF8.toList ++ Http.percentBytes rest := by
      rw [Http.percentBytes]
      rintro a b tail rfl
      exact absurd rfl hc
    rw [hstep, ih hrest, toList_toUTF8]
    simp [Char.toString]

theorem percentDecode?_text {id : ReplicaId} (h : id.IsValid) :
    Http.percentDecode? id.text = some id.text := by
  have hfree : '%' ∉ id.text.toList := by
    intro hc
    rcases ReplicaId.mem_text h hc with hname | hhyphen
    · exact absurd hname (by decide)
    · exact absurd hhyphen (by decide)
  have hbytes : (Http.percentBytes id.text.toList).toByteArray = id.text.toByteArray := by
    rw [percentBytes_of_notMem hfree, ← String.utf8Encode_toList, List.utf8Encode]
  rw [Http.percentDecode?, hbytes]
  exact dif_pos id.text.isValidUTF8

/-- The address of an endpoint names the replica and the endpoint. -/
theorem locate_target {id : ReplicaId} (h : id.IsValid) (endpoint : NodeEndpoint) :
    NodeHost.locate (Http.segments (nodeAddress "" id.text ("/" ++ endpoint.name))) =
      some (id.text, endpoint) := by
  have hplain : ∀ c ∈ id.text.toList, c ≠ '/' ∧ c ≠ '?' ∧ c ≠ '#' := by
    intro c hc
    rcases ReplicaId.mem_text h hc with hname | rfl
    · refine ⟨?_, ?_, ?_⟩ <;> rintro rfl <;> exact absurd hname (by decide)
    · decide
  have hname : ∀ c ∈ endpoint.name.toList, c ≠ '/' ∧ c ≠ '?' ∧ c ≠ '#' := by
    have hall : endpoint.name.toList.all (fun c => c ≠ '/' && (c ≠ '?' && c ≠ '#')) = true := by
      cases endpoint <;> decide
    simpa only [List.all_eq_true, Bool.and_eq_true, decide_eq_true_eq] using hall
  have hnode : ∀ c ∈ "node".toList, (c ≠ '?' && c ≠ '#') = true := List.all_eq_true.1 (by decide)
  have htarget : (nodeAddress "" id.text ("/" ++ endpoint.name)).toList =
      '/' :: ("node".toList ++ '/' :: (id.text.toList ++ '/' :: endpoint.name.toList)) := by
    simp [nodeAddress]
  have hpath : (nodeAddress "" id.text ("/" ++ endpoint.name)).toList.takeWhile
      (fun c => c ≠ '?' && c ≠ '#') =
        '/' :: ("node".toList ++ '/' :: (id.text.toList ++ '/' :: endpoint.name.toList)) := by
    rw [htarget]
    refine List.takeWhile_eq_self_iff.2 fun c hc => ?_
    simp only [List.mem_cons, List.mem_append] at hc
    rcases hc with rfl | hc | rfl | hc | rfl | hc
    · decide
    · exact hnode c hc
    · decide
    · simp [(hplain c hc).2]
    · decide
    · simp [(hname c hc).2]
  have hsplit : ('/' :: ("node".toList ++ '/' :: (id.text.toList ++ '/' ::
      endpoint.name.toList))).splitOn '/' =
        [[], "node".toList, id.text.toList, endpoint.name.toList] := by
    have hfirst := List.splitOn_append_cons_self_of_not_mem (List.not_mem_nil (a := '/'))
      ("node".toList ++ '/' :: (id.text.toList ++ '/' :: endpoint.name.toList))
    rw [List.nil_append] at hfirst
    rw [hfirst, List.splitOn_append_cons_self_of_not_mem (by decide),
      List.splitOn_append_cons_self_of_not_mem fun hc => (hplain _ hc).1 rfl,
      List.splitOn_eq_singleton fun hc => (hname _ hc).1 rfl]
  simp only [Http.segments, hpath, hsplit]
  simp [NodeHost.locate]

/-- Every host makes the call that a client asks for, or refuses a message with a number beyond 64
bits. -/
theorem serve_request {kind : ReplyKind} (client : NodeClient) {id : ReplicaId} (h : id.IsValid)
    (hclient : client.replica = id.text) (call : NodeCall kind) :
    (∀ (host : NodeHost) (fs : FileSystem),
        host.serve (client.request call) fs = host.call id.text call fs) ∨
      ∃ status, ¬ call.Fits ∧ call.toJson? ≠ none ∧ status ≠ 404 ∧
        ¬ (200 ≤ status ∧ status < 300) ∧
        ∀ (host : NodeHost) (fs : FileSystem),
          host.serve (client.request call) fs = (.bare status, fs) := by
  have hlocate := locate_target h call.endpoint
  have hmade : (client.request call).isMadeBy call.endpoint.method = true := by
    simp [NodeClient.request, Http.Request.isMadeBy]
  have hsend : ∀ response : Http.Response, response.send (client.request call) = response := by
    intro response
    cases call <;> rfl
  have hserve : ∀ (host : NodeHost) (fs : FileSystem), host.serve (client.request call) fs =
      match NodeHost.requestedCall call.endpoint (client.request call) with
      | .error response => (response, fs)
      | .ok ⟨_, call⟩ => host.call id.text call fs := by
    intro host fs
    have htarget : (client.request call).target =
        nodeAddress "" id.text ("/" ++ call.endpoint.name) := by
      rw [← hclient]
      rfl
    rw [NodeHost.serve, htarget, hlocate]
    simp only [hmade, percentDecode?_text h, Bool.not_true, Bool.false_eq_true, if_false]
    cases NodeHost.requestedCall call.endpoint (client.request call) with
    | error response => rfl
    | ok requested => simp only [hsend]
  simp only [hserve]
  cases hjson : call.toJson? with
  | none =>
    cases call with
    | select => exact Or.inl fun _ _ => rfl
    | heartbeat => exact Or.inl fun _ _ => rfl
    | insert names values => simp [NodeCall.toJson?] at hjson
    | update names values condition => simp [NodeCall.toJson?] at hjson
    | updateAt positions names values => simp [NodeCall.toJson?] at hjson
    | delete condition => simp [NodeCall.toJson?] at hjson
    | deleteAt positions => simp [NodeCall.toJson?] at hjson
  | some json =>
    have hpost : call.endpoint.method = .post := by
      cases call <;> first | rfl | simp [NodeCall.toJson?] at hjson
    have hrequested : NodeHost.requestedCall call.endpoint (client.request call) =
        (NodeCall.decode call.endpoint json.toDocument).mapError Http.rejection := by
      have htype : Http.isJsonType "application/json" = true := by decide
      simp [NodeHost.requestedCall, hpost, Http.Request.message, NodeClient.request, hjson, htype]
    rw [hrequested]
    rcases decode_request call hjson with hdecode | ⟨hlarge, e, hdecode⟩ <;> rw [hdecode]
    · exact Or.inl fun _ _ => rfl
    · refine Or.inr ?_
      cases e with
      | malformed =>
        exact ⟨400, hlarge, Option.some_ne_none _, by decide, by decide, fun _ _ => rfl⟩
      | unexpected =>
        exact ⟨422, hlarge, Option.some_ne_none _, by decide, by decide, fun _ _ => rfl⟩

/-! ## Registries -/

namespace Registry

/-- The first attempt at every call is answered. -/
def Responds : Registry → Prop
  | inProcess _ => True
  | networked _ link _ => link 0 = .answered

instance (registry : Registry) : Decidable registry.Responds :=
  match registry with
  | inProcess _ => inferInstanceAs (Decidable True)
  | networked _ link _ => inferInstanceAs (Decidable (link 0 = .answered))

@[simp] theorem responds_register (registry : Registry) (node : StorageNode) :
    (registry.register node).Responds ↔ registry.Responds := by
  cases registry <;> rfl

@[simp] theorem responds_unregister (registry : Registry) (id : ReplicaId) :
    (registry.unregister id).Responds ↔ registry.Responds := by
  cases registry <;> rfl

/-- Whether a node is registered for a replica. -/
def reaches (registry : Registry) (id : ReplicaId) : Bool := (registry.get? id).isSome

@[simp] theorem get?_register (registry : Registry) (node : StorageNode) (id : ReplicaId) :
    (registry.register node).get? id = if id = node.id then some node else registry.get? id := by
  cases registry with
  | inProcess nodes => simp [register, get?]
  | networked host link attempts =>
    simp only [register, get?, NodeHost.bind, KeyMap.get?_insert]
    by_cases heq : id = node.id
    · simp [heq]
    · have htext : id.text ≠ node.id.text := fun htext => heq (ReplicaId.text_injective htext)
      simp [heq, htext]

@[simp] theorem get?_unregister (registry : Registry) (removed id : ReplicaId) :
    (registry.unregister removed).get? id = if id = removed then none else registry.get? id := by
  cases registry with
  | inProcess nodes => simp [unregister, get?]
  | networked host link attempts =>
    simp only [unregister, get?, NodeHost.unbind, KeyMap.get?_erase]
    by_cases heq : id = removed
    · simp [heq]
    · have htext : id.text ≠ removed.text := fun htext => heq (ReplicaId.text_injective htext)
      simp [heq, htext]

end Registry

/-! ### What responses mean -/

namespace Received

theorem answer_missing (kind : ReplyKind) (replica text : String) :
    (ofResponse (NodeHost.failure 404 text)).answer kind replica =
      .error (.notRegistered replica) := rfl

theorem answer_failure (kind : ReplyKind) (replica text : String) :
    (ofResponse (NodeHost.failure 500 text)).answer kind replica = .error (.store text) := rfl

/-- A response with rows always carries them. -/
theorem answer_rows (replica : String) (rows : List String) :
    (ofResponse (.message 200 (ReplyKind.rows.toJson rows))).answer .rows replica = .ok rows :=
  congrArg (Except.mapError fun _ => CallError.decode "unexpected message") (decode_rows rows)

/-- A response without a message only tells its status. -/
theorem answer_bare (kind : ReplyKind) (replica : String) {status : Nat} (hmissing : status ≠ 404)
    (hrange : ¬ (200 ≤ status ∧ status < 300)) :
    (ofResponse (.bare status)).answer kind replica = .error (.status status) := by
  have hstatus : (ofResponse (.bare status)).status = status := rfl
  rw [answer, hstatus, if_neg hmissing, if_neg hrange]
  rfl

/-- The response of a handler carries its answer, unless that holds a number beyond 64 bits. -/
theorem answer_message (kind : ReplyKind) (replica : String) (value : kind.Value) :
    (ofResponse (.message 200 (kind.toJson value))).answer kind replica = .ok value ∨
      ∃ detail, (ofResponse (.message 200 (kind.toJson value))).answer kind replica =
        .error (.decode detail) := by
  have hanswer : (ofResponse (.message 200 (kind.toJson value))).answer kind replica =
      (kind.decoder (kind.toJson value).toDocument).mapError fun _ =>
        .decode "unexpected message" := rfl
  rw [hanswer]
  rcases decode_answer kind value with hdecode | ⟨e, hdecode⟩ <;> rw [hdecode]
  · exact Or.inl rfl
  · exact Or.inr ⟨_, rfl⟩

end Received

/-- The first attempt at a call decides if it is answered. -/
theorem NodeClient.call_of_answered {kind : ReplyKind} {link : Link} (hlink : link 0 = .answered)
    (host : NodeHost) (replica : String) (attempts : Nat) (call : NodeCall kind)
    (fs : FileSystem) :
    (create "" replica attempts).call host link call fs =
      ((Received.ofResponse (host.serve ((create "" replica attempts).request call) fs).1).answer
        kind replica, (host.serve ((create "" replica attempts).request call) fs).2) := by
  obtain ⟨n, hn⟩ : ∃ n, (create "" replica attempts).attemptsFor call = n + 1 := by
    have hone : 1 ≤ max attempts 1 := Nat.le_max_right _ _
    cases call <;> first
      | exact ⟨0, rfl⟩
      | exact ⟨max attempts 1 - 1, by simp only [attemptsFor, create]; omega⟩
  rw [NodeClient.call, hn, send, hlink]
  rfl

/-! ### Calls -/

/-- **What a call through a registry comes to.**  No node is registered and the call fails without
a trace; or the registered node carries it out; or it fails for another reason, and whether a node
carried it out remains open. -/
theorem Registry.call_cases {kind : ReplyKind} {registry : Registry} (hresponds : registry.Responds)
    {id : ReplicaId} (h : id.IsValid) (call : NodeCall kind) (fs : FileSystem) :
    (registry.get? id = none ∧ registry.call id call fs = (.error (.unregistered id), fs)) ∨
    (∃ node value fs', registry.get? id = some node ∧ node.run call fs = (.ok value, fs') ∧
      registry.call id call fs = (.ok value, fs')) ∨
    (∃ e fs', (∀ replica, e ≠ .notRegistered replica) ∧
      registry.call id call fs = (.error e, fs') ∧
      (fs' = fs ∨ ∃ node, registry.get? id = some node ∧ fs' = (node.run call fs).2)) := by
  cases registry with
  | inProcess nodes =>
    simp only [Registry.call, Registry.get?]
    cases hnode : nodes.get? id with
    | none => exact Or.inl ⟨rfl, rfl⟩
    | some node =>
      refine Or.inr ?_
      simp only [StorageNode.answer]
      cases hrun : node.run call fs with
      | mk reply fs' =>
        cases reply with
        | ok value => exact Or.inl ⟨node, value, fs', rfl, hrun, rfl⟩
        | error e =>
          exact Or.inr ⟨_, fs', fun _ => CallError.noConfusion, rfl,
            Or.inr ⟨node, rfl, by rw [hrun]⟩⟩
  | networked host link attempts =>
    have hlink : link 0 = .answered := hresponds
    simp only [Registry.call, Registry.get?, NodeClient.call_of_answered hlink]
    rcases serve_request (.create "" id.text attempts) h rfl call with
      hserve | ⟨status, -, -, hmissing, hrange, hserve⟩ <;> rw [hserve]
    · simp only [NodeHost.call]
      cases hnode : host.nodes.get? id.text with
      | none => exact Or.inl ⟨rfl, by rw [Received.answer_missing]; rfl⟩
      | some node =>
        refine Or.inr ?_
        simp only [StorageNode.answer]
        cases hrun : node.run call fs with
        | mk reply fs' =>
          cases reply with
          | error e =>
            exact Or.inr ⟨.store _, fs', fun _ => CallError.noConfusion,
              by rw [Received.answer_failure], Or.inr ⟨node, rfl, by rw [hrun]⟩⟩
          | ok value =>
            rcases Received.answer_message kind id.text value with hanswer | ⟨detail, hanswer⟩
            · exact Or.inl ⟨node, value, fs', rfl, hrun, by simp only [hanswer]⟩
            · exact Or.inr ⟨.decode detail, fs', fun _ => CallError.noConfusion,
                by simp only [hanswer], Or.inr ⟨node, rfl, by rw [hrun]⟩⟩
    · rw [Received.answer_bare _ _ hmissing hrange]
      exact Or.inr (Or.inr ⟨_, fs, fun _ => CallError.noConfusion, rfl, Or.inl rfl⟩)

/-- A registered node that is only asked answers. -/
theorem Registry.call_of_asks {kind : ReplyKind} {registry : Registry}
    (hresponds : registry.Responds) {replica : ReplicaId} (h : replica.IsValid)
    {call : NodeCall kind}
    (hasks : call.toJson? = none) {node : StorageNode} (hnode : registry.get? replica = some node)
    {fs fs' : FileSystem} {value : kind.Value} (hrun : node.run call fs = (.ok value, fs')) :
    registry.call replica call fs = (.ok value, fs') := by
  cases registry with
  | inProcess nodes =>
    simp only [Registry.get?] at hnode
    simp only [Registry.call, hnode, StorageNode.answer, hrun]
  | networked host link attempts =>
    have hlink : link 0 = .answered := hresponds
    simp only [Registry.get?] at hnode
    simp only [Registry.call, NodeClient.call_of_answered hlink]
    rcases serve_request (.create "" replica.text attempts) h rfl call with
      hserve | ⟨-, -, hcarries, -⟩
    · have hanswer : (Received.ofResponse (.message 200 (kind.toJson value))).answer kind
          replica.text = .ok value := by
        cases call with
        | select => exact Received.answer_rows replica.text value
        | heartbeat => rfl
        | insert names values => simp [NodeCall.toJson?] at hasks
        | update names values condition => simp [NodeCall.toJson?] at hasks
        | updateAt positions names values => simp [NodeCall.toJson?] at hasks
        | delete condition => simp [NodeCall.toJson?] at hasks
        | deleteAt positions => simp [NodeCall.toJson?] at hasks
      rw [hserve]
      simp only [NodeHost.call, hnode, StorageNode.answer, hrun, hanswer]
    · exact absurd hasks hcarries

/-- A heartbeat is answered if a node is registered and the network delivers. -/
theorem Registry.heartbeat_isOk {registry : Registry} {replica : ReplicaId} (h : replica.IsValid)
    (fs : FileSystem) :
    (registry.call replica .heartbeat fs).1.isOk = true ↔
      registry.Responds ∧ registry.reaches replica = true := by
  by_cases hresponds : registry.Responds
  · simp only [hresponds, true_and, reaches]
    cases hnode : registry.get? replica with
    | none =>
      rcases call_cases hresponds h .heartbeat fs with
        ⟨-, hcall⟩ | ⟨node, -, -, hsome, -⟩ | ⟨e, fs', -, hcall, -⟩
      · simp [hcall, Except.isOk, Except.toBool]
      · simp [hsome] at hnode
      · simp [hcall, Except.isOk, Except.toBool]
    | some node =>
      have hcall : registry.call replica .heartbeat fs = (.ok (), fs) :=
        call_of_asks hresponds h rfl hnode rfl
      simp [hcall, Except.isOk, Except.toBool]
  · -- a heartbeat is tried once only
    simp only [hresponds, false_and, iff_false]
    cases registry with
    | inProcess nodes => exact absurd trivial hresponds
    | networked host link attempts =>
      have hlink : link 0 ≠ .answered := hresponds
      simp only [Registry.call, NodeClient.call, NodeClient.attemptsFor, NodeClient.send]
      cases hzero : link 0 with
      | answered => exact absurd hzero hlink
      | lost => simp [Except.isOk, Except.toBool]
      | unanswered => simp [Except.isOk, Except.toBool]

end TableStore
