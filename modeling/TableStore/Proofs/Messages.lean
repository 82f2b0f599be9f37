import TableStore.Proofs.MessageForms
import TableStore.Proofs.Transport
import TableStore.Wire.CoordinatorMessage

/-!
# Messages are read as they were meant

Every type of messages has a `form`: the names of its fields, the forms of the messages inside
them, and what is taken for granted if a field is left out.

* `steady` says for each type that its decoder does not tell apart the documents that the form lets
  vary.  Its proof goes through the fields in the order of the decoder, so the form is the one that
  the decoder follows.
* `decoder_toJson` says for each type that the message of a value is decoded to the value, if its
  numbers have 64 bits.
* `messages_faithful` puts these together: whatever way a message is abbreviated, extended or
  rearranged, at any depth, it is read as the value that was meant.
-/

namespace TableStore

open Json
open Json.Record (follows_required follows_defaulted follows_nullable builds_required
  builds_defaulted builds_nullable)

/-! ## Values -/

theorem asText_text (value : String) : asText (Json.text value).toDocument = .ok value := rfl

/-- An optional part is decoded to itself if the part is, and is not written as `null`. -/
theorem asOption_optional {α : Type} {encode : α → Json} {item : Decoder α}
    (hnull : ∀ value, (encode value).toDocument ≠ .null)
    (h : ∀ value, item (encode value).toDocument = .ok value) (part : Option α) :
    asOption item (Json.optional encode part).toDocument = .ok part := by
  cases part with
  | none => rfl
  | some value =>
    rw [Json.optional, asOption, h]
    · rfl
    · exact hnull value

/-- A name is decoded to what it names. -/
theorem asName_text {α : Type} {text : α → String} {ofText? : String → Option α}
    (h : ∀ value, ofText? (text value) = some value) (value : α) :
    asName ofText? (Json.text (text value)).toDocument = .ok value := by
  simp [toDocument, asName, h]

theorem asOption_texts (columns : Option (List String)) :
    asOption (asList asText) (Json.optional .texts columns).toDocument = .ok columns :=
  asOption_optional (by simp [Json.texts, toDocument]) asList_texts columns

theorem TableKind.decoder_toJson (kind : TableKind) : decoder kind.toJson.toDocument = .ok kind :=
  asName_text ofText?_text kind

/-! ## Tables, operations and layouts -/

namespace TableDef

def form : Form :=
  .record [⟨"name", .plain, none⟩, ⟨"kind", .plain, none⟩, ⟨"columns", .plain, some .null⟩]

theorem steady : form.Steady decoder :=
  ((((follows_required "name" (steady_plain asText)).map mk).seq
    (follows_required "kind" (steady_plain TableKind.decoder))).seq
    (follows_nullable "columns" (steady_plain (asList asText)))).steady (by decide)

theorem decoder_toJson (table : TableDef) : decoder table.toJson.toDocument = .ok table :=
  ((((builds_required "name" (asText_text table.name)).map mk).seq
    (builds_required "kind" (TableKind.decoder_toJson table.kind))).seq
    (builds_nullable "columns" (asOption_texts table.columns))).decode_object (by simp)

end TableDef

namespace ReplicaId

/-- Whether the numbers of a replica have 64 bits. -/
def Fits (id : ReplicaId) : Prop :=
  id.partition < Text.nat64Limit ∧ id.replica < Text.nat64Limit

def form : Form :=
  .record [⟨"table", .plain, none⟩, ⟨"kind", .plain, none⟩, ⟨"partition", .plain, none⟩,
    ⟨"replica", .plain, none⟩]

theorem steady : form.Steady decoder :=
  (((((follows_required "table" (steady_plain asText)).map mk).seq
    (follows_required "kind" (steady_plain TableKind.decoder))).seq
    (follows_required "partition" (steady_plain asNat))).seq
    (follows_required "replica" (steady_plain asNat))).steady (by decide)

theorem decoder_toJson {id : ReplicaId} (h : id.Fits) : decoder id.toJson.toDocument = .ok id :=
  (((((builds_required "table" (asText_text id.table)).map mk).seq
    (builds_required "kind" (TableKind.decoder_toJson id.kind))).seq
    (builds_required "partition" (asNat_number_of_lt h.1))).seq
    (builds_required "replica" (asNat_number_of_lt h.2))).decode_object (by simp)

end ReplicaId

namespace Predicate

def form : Form := .record [⟨"column", .plain, none⟩, ⟨"value", .plain, none⟩]

theorem steady : form.Steady decoder :=
  (((follows_required "column" (steady_plain asText)).map mk).seq
    (follows_required "value" (steady_plain asText))).steady (by decide)

end Predicate

namespace Operation

def form : Form :=
  .record [⟨"kind", .plain, none⟩, ⟨"table", .plain, none⟩, ⟨"columns", .plain, some (.list [])⟩,
    ⟨"values", .plain, some (.list [])⟩, ⟨"where", Predicate.form, some .null⟩]

theorem steady : form.Steady decoder :=
  ((((((follows_required "kind" (steady_plain OperationKind.decoder)).map mk).seq
    (follows_required "table" (steady_plain asText))).seq
    (follows_defaulted "columns" (steady_plain (asList asText)) rfl)).seq
    (follows_defaulted "values" (steady_plain (asList asText)) rfl)).seq
    (follows_defaulted "where" Predicate.steady.asOption rfl)).steady (by decide)

theorem decoder_toJson (operation : Operation) :
    decoder operation.toJson.toDocument = .ok operation := by
  have hkind : OperationKind.decoder operation.kind.toJson.toDocument = .ok operation.kind :=
    asName_text OperationKind.ofText?_text operation.kind
  have hcondition : asOption Predicate.decoder
      (Json.optional Predicate.toJson operation.condition).toDocument = .ok operation.condition :=
    asOption_optional (by simp [Predicate.toJson, toDocument]) decode_predicate operation.condition
  exact ((((((builds_required "kind" hkind).map mk).seq
    (builds_required "table" (asText_text operation.table))).seq
    (builds_defaulted "columns" [] (asList_texts operation.columns))).seq
    (builds_defaulted "values" [] (asList_texts operation.values))).seq
    (builds_defaulted "where" none hcondition)).decode_object (by simp)

end Operation

namespace Layout

/-- Whether the number of partitions has 64 bits. -/
def Fits (layout : Layout) : Prop := layout.partitionCount < Text.nat64Limit

def form : Form :=
  .record [⟨"type", .plain, some LayoutKind.none.toJson⟩,
    ⟨"partition_count", .plain, some (.number 1)⟩, ⟨"column_groups", .plain, some .null⟩]

theorem steady : form.Steady decoder :=
  ((((follows_defaulted "type" (steady_plain LayoutKind.decoder) rfl).map mk).seq
    (follows_defaulted "partition_count" (steady_plain asNat) rfl)).seq
    (follows_defaulted "column_groups" (steady_plain (asOption (asList (asList asText))))
      rfl)).steady (by decide)

theorem decoder_toJson {layout : Layout} (h : layout.Fits) :
    decoder layout.toJson.toDocument = .ok layout := by
  have hkind : LayoutKind.decoder layout.kind.toJson.toDocument = .ok layout.kind :=
    asName_text LayoutKind.ofText?_text layout.kind
  have hgroups : asOption (asList (asList asText))
      (Json.optional (fun groups => .list (groups.map .texts)) layout.columnGroups).toDocument =
        .ok layout.columnGroups :=
    asOption_optional (by simp [toDocument])
      (fun _ => asList_items fun group _ => asList_texts group) layout.columnGroups
  exact ((((builds_defaulted "type" .none hkind).map mk).seq
    (builds_defaulted "partition_count" 1 (asNat_number_of_lt h))).seq
    (builds_defaulted "column_groups" none hgroups)).decode_object (by simp)

end Layout

/-! ## Requests to the coordinator -/

namespace CreateRequest

/-- Whether the numbers of a request have 64 bits. -/
def Fits (request : CreateRequest) : Prop :=
  request.replicaCount < Text.nat64Limit ∧ request.layout.Fits

def form : Form :=
  .record [⟨"table", .plain, none⟩, ⟨"table_kind", .plain, none⟩, ⟨"columns", .plain, some .null⟩,
    ⟨"replica_count", .plain, some (.number 1)⟩,
    ⟨"partition", Layout.form, some Layout.single.toJson⟩]

theorem steady : form.Steady decoder :=
  ((((((follows_required "table" (steady_plain asText)).map ofParts).seq
    (follows_required "table_kind" (steady_plain TableKind.decoder))).seq
    (follows_defaulted "columns" (steady_plain (asOption (asList asText))) rfl)).seq
    (follows_defaulted "replica_count" (steady_plain asNat) rfl)).seq
    (follows_defaulted "partition" Layout.steady rfl)).steady (by decide)

theorem decoder_toJson {request : CreateRequest} (h : request.Fits) :
    decoder request.toJson.toDocument = .ok request :=
  ((((((builds_required "table" (asText_text request.table.name)).map ofParts).seq
    (builds_required "table_kind" (TableKind.decoder_toJson request.table.kind))).seq
    (builds_defaulted "columns" none (asOption_texts request.table.columns))).seq
    (builds_defaulted "replica_count" 1 (asNat_number_of_lt h.1))).seq
    (builds_defaulted "partition" Layout.single (Layout.decoder_toJson h.2))).decode_object
    (by simp)

end CreateRequest

namespace OperationRequest

def form : Form :=
  .record [⟨"table_kind", .plain, none⟩, ⟨"operation", Operation.form, none⟩]

theorem steady : form.Steady decoder :=
  (((follows_required "table_kind" (steady_plain TableKind.decoder)).map mk).seq
    (follows_required "operation" Operation.steady)).steady (by decide)

theorem decoder_toJson (request : OperationRequest) :
    decoder request.toJson.toDocument = .ok request :=
  (((builds_required "table_kind" (TableKind.decoder_toJson request.kind)).map mk).seq
    (builds_required "operation" request.operation.decoder_toJson)).decode_object (by simp)

end OperationRequest

namespace SelectRequest

def form : Form := .record [⟨"table_kind", .plain, none⟩, ⟨"table", .plain, none⟩]

theorem steady : form.Steady decoder :=
  (((follows_required "table_kind" (steady_plain TableKind.decoder)).map mk).seq
    (follows_required "table" (steady_plain asText))).steady (by decide)

theorem decoder_toJson (request : SelectRequest) :
    decoder request.toJson.toDocument = .ok request :=
  (((builds_required "table_kind" (TableKind.decoder_toJson request.kind)).map mk).seq
    (builds_required "table" (asText_text request.table))).decode_object (by simp)

end SelectRequest

namespace ReplicaRequest

/-- Whether the numbers of a request have 64 bits. -/
def Fits (request : ReplicaRequest) : Prop :=
  request.partition < Text.nat64Limit ∧ request.replica < Text.nat64Limit

def form : Form :=
  .record [⟨"table_kind", .plain, none⟩, ⟨"table", .plain, none⟩, ⟨"partition", .plain, none⟩,
    ⟨"replica", .plain, none⟩]

theorem steady : form.Steady decoder :=
  (((((follows_required "table_kind" (steady_plain TableKind.decoder)).map mk).seq
    (follows_required "table" (steady_plain asText))).seq
    (follows_required "partition" (steady_plain asNat))).seq
    (follows_required "replica" (steady_plain asNat))).steady (by decide)

theorem decoder_toJson {request : ReplicaRequest} (h : request.Fits) :
    decoder request.toJson.toDocument = .ok request :=
  (((((builds_required "table_kind" (TableKind.decoder_toJson request.kind)).map mk).seq
    (builds_required "table" (asText_text request.table))).seq
    (builds_required "partition" (asNat_number_of_lt h.1))).seq
    (builds_required "replica" (asNat_number_of_lt h.2))).decode_object (by simp)

end ReplicaRequest

/-! ## Messages to and from storage nodes -/

namespace NodeEndpoint

/-- The form of the messages that an endpoint receives.  Endpoints that only ask receive none. -/
def form : NodeEndpoint → Form
  | select | heartbeat => .plain
  | insert => .record [⟨"columns", .plain, none⟩, ⟨"values", .plain, none⟩]
  | update =>
    .record [⟨"columns", .plain, none⟩, ⟨"values", .plain, none⟩,
      ⟨"predicate", Predicate.form, none⟩]
  | updateAt =>
    .record [⟨"positions", .plain, none⟩, ⟨"columns", .plain, none⟩, ⟨"values", .plain, none⟩]
  | delete => .record [⟨"predicate", Predicate.form, none⟩]
  | deleteAt => .record [⟨"positions", .plain, none⟩]

theorem steady (endpoint : NodeEndpoint) :
    endpoint.form.Steady (NodeCall.decode endpoint) := by
  have htexts (name : String) := follows_required name (steady_plain (asList asText))
  have hnumbers (name : String) := follows_required name (steady_plain (asList asNat))
  have hcondition := follows_required "predicate" Predicate.steady
  cases endpoint with
  | select | heartbeat => exact steady_plain _
  | insert =>
    exact ((((htexts "columns").map NodeCall.insert).seq (htexts "values")).steady
      (by decide)).map _
  | update =>
    exact (((((htexts "columns").map NodeCall.update).seq (htexts "values")).seq
      hcondition).steady (by decide)).map _
  | updateAt =>
    exact (((((hnumbers "positions").map NodeCall.updateAt).seq (htexts "columns")).seq
      (htexts "values")).steady (by decide)).map _
  | delete => exact ((hcondition.map NodeCall.delete).steady (by decide)).map _
  | deleteAt => exact (((hnumbers "positions").map NodeCall.deleteAt).steady (by decide)).map _

end NodeEndpoint

theorem NodeCall.decode_toJson {kind : ReplyKind} {call : NodeCall kind} (h : call.Fits)
    {json : Json} (hjson : call.toJson? = some json) :
    decode call.endpoint json.toDocument = .ok ⟨kind, call⟩ :=
  (decode_request call hjson).resolve_right fun hlarge => hlarge.1 h

namespace Ack

def form : Form := .record [⟨"success", .plain, none⟩, ⟨"error", .plain, some .null⟩]

theorem steady : form.Steady decoder :=
  (((follows_required "success" (steady_plain asBool)).map mk).seq
    (follows_defaulted "error" (steady_plain (asOption asText)) rfl)).steady (by decide)

theorem decoder_toJson (ack : Ack) : decoder ack.toJson.toDocument = .ok ack := by
  have hsuccess : asBool (Json.bool ack.success).toDocument = .ok ack.success := rfl
  have herror : asOption asText (Json.optional .text ack.error).toDocument = .ok ack.error :=
    asOption_optional (by simp [toDocument]) asText_text ack.error
  exact (((builds_required "success" hsuccess).map mk).seq
    (builds_defaulted "error" none herror)).decode_object (by simp)

end Ack

/-! ## All messages -/

/-- The message of a value is decoded to the value, and documents that say the same are decoded to
the same value. -/
structure Faithful {α : Type} (form : Form) (encode : α → Json) (decode : Decoder α)
    (fits : α → Prop) : Prop where
  written : ∀ value, fits value → decode (encode value).toDocument = .ok value
  varied : ∀ ⦃document document' : Document⦄ ⦃value : α⦄, Varies form document document' →
    decode document = .ok value → decode document' = .ok value

/-- **Messages are read as they were meant.**  A value is decoded from its message, if its numbers
have 64 bits; and it makes no difference if the fields are written in another order, if fields are
added that nobody asks for, or if fields are left out that hold what is taken for granted, also in
the messages inside. -/
theorem messages_faithful :
    Faithful Operation.form Operation.toJson Operation.decoder (fun _ => True) ∧
    Faithful Layout.form Layout.toJson Layout.decoder Layout.Fits ∧
    Faithful TableDef.form TableDef.toJson TableDef.decoder (fun _ => True) ∧
    Faithful ReplicaId.form ReplicaId.toJson ReplicaId.decoder ReplicaId.Fits ∧
    Faithful CreateRequest.form CreateRequest.toJson CreateRequest.decoder CreateRequest.Fits ∧
    Faithful OperationRequest.form OperationRequest.toJson OperationRequest.decoder
      (fun _ => True) ∧
    Faithful SelectRequest.form SelectRequest.toJson SelectRequest.decoder (fun _ => True) ∧
    Faithful ReplicaRequest.form ReplicaRequest.toJson ReplicaRequest.decoder
      ReplicaRequest.Fits ∧
    Faithful Ack.form Ack.toJson Ack.decoder (fun _ => True) ∧
    (∀ (kind : ReplyKind) (call : NodeCall kind) (json : Json), call.Fits →
      call.toJson? = some json →
      NodeCall.decode call.endpoint json.toDocument = .ok ⟨kind, call⟩) ∧
    ∀ (endpoint : NodeEndpoint) (document document' : Document)
      (call : (kind : ReplyKind) × NodeCall kind), Varies endpoint.form document document' →
      NodeCall.decode endpoint document = .ok call →
      NodeCall.decode endpoint document' = .ok call :=
  ⟨⟨fun operation _ => operation.decoder_toJson, Operation.steady⟩,
    ⟨fun _ => Layout.decoder_toJson, Layout.steady⟩,
    ⟨fun table _ => table.decoder_toJson, TableDef.steady⟩,
    ⟨fun _ => ReplicaId.decoder_toJson, ReplicaId.steady⟩,
    ⟨fun _ => CreateRequest.decoder_toJson, CreateRequest.steady⟩,
    ⟨fun request _ => request.decoder_toJson, OperationRequest.steady⟩,
    ⟨fun request _ => request.decoder_toJson, SelectRequest.steady⟩,
    ⟨fun _ => ReplicaRequest.decoder_toJson, ReplicaRequest.steady⟩,
    ⟨fun ack _ => ack.decoder_toJson, Ack.steady⟩,
    fun _ _ _ hfits hjson => NodeCall.decode_toJson hfits hjson,
    fun endpoint _ _ _ hvaries hdecode => endpoint.steady hvaries hdecode⟩

/-- A request that names its fields backwards, carries a comment, and leaves the number of copies
and the groups of columns open. -/
theorem messages_faithful_backwards :
    CreateRequest.decoder (.object [(some "comment", .bool true),
      (some "partition", .object [(some "partition_count", .number (.natural 2)),
        (some "type", .text (some "horizontal"))] .closed),
      (some "columns", .list [.text (some "name")] .closed),
      (some "table_kind", .text (some "SQL")), (some "table", .text (some "marks"))] .closed) =
        .ok ⟨⟨"marks", .sql, some ["name"]⟩, 1, .byKey 2⟩ := by
  obtain ⟨-, -, -, -, hcreate, -⟩ := messages_faithful
  have hfits : CreateRequest.Fits ⟨⟨"marks", .sql, some ["name"]⟩, 1, .byKey 2⟩ :=
    ⟨by decide, show 2 < Text.nat64Limit by decide⟩
  refine hcreate.varied ?_ (hcreate.written _ hfits)
  -- backwards, the field that is left out stands first
  have hlayout : Varies Layout.form (Layout.byKey 2).toJson.toDocument
      (.object [(some "partition_count", .number (.natural 2)),
        (some "type", .text (some "horizontal"))] .closed) :=
    (Varies.permute _ (List.reverse_perm _).symm).trans
      (.leaveOut _ (.tail _ (.tail _ (.head _))) rfl)
  refine (Varies.permute _ (List.reverse_perm _).symm).trans ?_
  refine (Varies.inside _ (.tail _ (.tail _ (.tail _ (.tail _ (.head _))))) hlayout).trans ?_
  refine (Varies.permute _ (.swap _ _ _)).trans ?_
  refine (Varies.leaveOut _ (.tail _ (.tail _ (.tail _ (.head _)))) rfl).trans ?_
  exact .extend _ (by decide) rfl

end TableStore
