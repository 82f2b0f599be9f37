import TableStore.Json.Document

/-!
# Records in messages

A message is a record of named fields.  It is written as an object, whose fields may stand in any
order and among fields that nobody asks for, or as a list of the fields in their declared order.
Some fields may be left out.

A document is decoded from left to right, and the first fault decides the outcome: the text is
either `malformed`, or well-formed so far and of an `unexpected` form.

* A `Decoder` takes a document to a value of one type.
* A `Record` is a decoder for the fields of a record.  Records are built from single fields with
  the operations of an applicative functor, in the declared order of the fields.
-/

namespace TableStore.Json

/-- Why a document is not the message that is expected. -/
inductive Rejection
  | malformed
  | unexpected
  deriving DecidableEq, Repr

/-- The reading of values of one type from documents. -/
abbrev Decoder (α : Type) := Document → Except Rejection α

/-! ## Values -/

/-- The fault of a document whose kind is not the expected one. -/
def wrongKind : Document → Rejection
  | .broken => .malformed
  | .text none => .malformed
  | .number .outOfRange => .malformed
  | _ => .unexpected

/-- Reads a string. -/
def asText : Decoder String
  | .text (some value) => .ok value
  | document => .error (wrongKind document)

/-- Reads a natural number of 64 bits. -/
def asNat : Decoder Nat
  | .number (.natural value) => .ok value
  | document => .error (wrongKind document)

/-- Reads a truth value. -/
def asBool : Decoder Bool
  | .bool value => .ok value
  | document => .error (wrongKind document)

/-- Decodes items one after another. -/
def decodeAll {α : Type} (item : Decoder α) : List Document → Except Rejection (List α)
  | [] => .ok []
  | document :: rest =>
    match item document with
    | .error e => .error e
    | .ok value =>
      match decodeAll item rest with
      | .error e => .error e
      | .ok values => .ok (value :: values)

/-- Reads a list. -/
def asList {α : Type} (item : Decoder α) : Decoder (List α)
  | .list items ending =>
    match decodeAll item items with
    | .error e => .error e
    | .ok values => if ending = .closed then .ok values else .error .malformed
  | document => .error (wrongKind document)

/-- Reads a value that may be `null` instead. -/
def asOption {α : Type} (value : Decoder α) : Decoder (Option α)
  | .null => .ok none
  | document => (value document).map some

/-- Reads one of several names.  The name stands in a string, or as the only field of an object
whose value is `null`. -/
def asName {α : Type} (ofText? : String → Option α) : Decoder α
  | .text (some name) =>
    match ofText? name with
    | none => .error .unexpected
    | some value => .ok value
  | .object ((some name, content) :: rest) ending =>
    match ofText? name, content with
    | none, _ => .error .unexpected
    | some value, .null =>
      if rest.isEmpty && ending = .closed then .ok value else .error .malformed
    | some _, content => .error (wrongKind content)
  | _ => .error .malformed

/-! ## Fields -/

/-- What is asked of one field before a record is put together. -/
structure Field where
  name : String
  /-- Refuses a document that is not a value of the field. -/
  check : Document → Except Rejection Unit
  /-- Whether a list of fields may end before this one. -/
  mayEnd : Bool

/-- The documents of the fields that a message gives. -/
abbrev Given := List (String × Document)

/-- The document of a field, if the message gives it. -/
def Given.get? (given : Given) (name : String) : Option Document :=
  (given.find? fun field => field.1 = name).map Prod.snd

/-- Goes through the fields of an object.  `seen` holds the names met before. -/
def gatherFields (fields : List Field) (seen : List String) (ending : Ending) :
    List (Option String × Document) → Except Rejection Given
  | [] => if ending = .closed then .ok [] else .error .malformed
  | (none, _) :: _ => .error .malformed
  | (some name, document) :: rest =>
    match fields.find? fun field => field.name = name with
    | none =>
      if document.isComplete then gatherFields fields seen ending rest else .error .malformed
    | some field =>
      if name ∈ seen then .error .unexpected
      else
        match field.check document with
        | .error e => .error e
        | .ok () =>
          match gatherFields fields (name :: seen) ending rest with
          | .error e => .error e
          | .ok given => .ok ((name, document) :: given)

/-- Goes through the items of a list as the values of fields. -/
def gatherItems (ending : Ending) : List Field → List Document → Except Rejection Given
  | [], [] => if ending = .closed then .ok [] else .error .malformed
  | [], _ :: _ => .error .malformed
  | field :: fields, [] =>
    if ending ≠ .closed then .error .malformed
    else if (field :: fields).all Field.mayEnd then .ok []
    else .error .unexpected
  | field :: fields, document :: rest =>
    match field.check document with
    | .error e => .error e
    | .ok () =>
      match gatherItems ending fields rest with
      | .error e => .error e
      | .ok given => .ok ((field.name, document) :: given)

/-- The reading of a record: its fields, and how the values are put together from what a message
gives. -/
structure Record (α : Type) where
  fields : List Field
  build : Given → Except Rejection α

namespace Record

instance : Functor Record where
  map f record := ⟨record.fields, fun given => (record.build given).map f⟩

instance : Applicative Record where
  pure value := ⟨[], fun _ => .ok value⟩
  seq f x :=
    ⟨f.fields ++ (x ()).fields, fun given =>
      match f.build given with
      | .error e => .error e
      | .ok g => ((x ()).build given).map g⟩

/-- Refuses what a decoder refuses. -/
def checking {α : Type} (decode : Decoder α) (document : Document) : Except Rejection Unit :=
  (decode document).map fun _ => ()

/-- A field that a message must give. -/
def required {α : Type} (name : String) (decode : Decoder α) : Record α where
  fields := [⟨name, checking decode, false⟩]
  build given :=
    match given.get? name with
    | none => .error .unexpected
    | some document => decode document

/-- A field that has the value `absent` if a message does not give it. -/
def defaulted {α : Type} (name : String) (decode : Decoder α) (absent : α) : Record α where
  fields := [⟨name, checking decode, true⟩]
  build given :=
    match given.get? name with
    | none => .ok absent
    | some document => decode document

/-- A field that may be `null`, and that an object may leave out but a list may not. -/
def nullable {α : Type} (name : String) (decode : Decoder α) : Record (Option α) where
  fields := [⟨name, checking (asOption decode), false⟩]
  build given :=
    match given.get? name with
    | none => .ok none
    | some document => asOption decode document

/-- Reads a record from an object or a list. -/
def decode {α : Type} (record : Record α) : Decoder α
  | .object fields ending =>
    match gatherFields record.fields [] ending fields with
    | .error e => .error e
    | .ok given => record.build given
  | .list items ending =>
    match gatherItems ending record.fields items with
    | .error e => .error e
    | .ok given => record.build given
  | document => .error (wrongKind document)

end Record

end TableStore.Json
