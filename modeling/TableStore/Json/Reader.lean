import TableStore.Json.Token

/-!
# Reading documents

The reader takes one token after another and keeps a stack of the lists and objects that are still
open.  It stops after the first complete value, or at the first token that may not follow; then
the open lists and objects end where they are.
-/

namespace TableStore.Json

/-- A list or an object that is still open, with its parts so far, the last one first. -/
inductive Frame
  | list (items : List Document)
  /-- The name is that of a field whose value is not complete yet. -/
  | object (fields : List (Option String × Document)) (name : Option (Option String))

/-- What may come next. -/
inductive Expected
  | value
  /-- A value, or the end of a list that is still empty. -/
  | firstValue
  | name
  /-- A name, or the end of an object that is still empty. -/
  | firstName
  | colon
  /-- A comma, or the end of what is open. -/
  | separator

namespace Frame

/-- The frame with a complete part added. -/
def add (part : Document) : Frame → Frame
  | list items => list (part :: items)
  | object fields (some name) => object ((name, part) :: fields) none
  | object fields none => object fields none

/-- The document that a frame becomes when it ends. -/
def close (ending : Ending) : Frame → Document
  | list items => .list items.reverse ending
  | object fields none => .object fields.reverse ending
  | object fields (some name) => .object ((name, .broken) :: fields).reverse .broken

end Frame

/-- The document that open frames become around a damaged part. -/
def unwind : List Frame → Document → Document
  | [], part => part
  | frame :: rest, part => unwind rest ((frame.add part).close .broken)

/-- The document that open frames become when nothing that may follow comes next. -/
def abandon : List Frame → Document
  | [] => .broken
  | frame :: rest => unwind rest (frame.close .broken)

/-- Where the reader stands after a token: it waits for another one, or has its document. -/
inductive Progress
  | waiting (expected : Expected) (stack : List Frame)
  | finished (document : Document)

/-- A complete value has been read. -/
def complete (value : Document) : List Frame → Progress
  | [] => .finished value
  | frame :: rest => .waiting .separator (frame.add value :: rest)

/-- The innermost frame has been closed by its bracket. -/
def closeTop : List Frame → Progress
  | [] => .finished .broken
  | frame :: rest => complete (frame.close .closed) rest

/-- What follows a token at the place of a value. -/
def stepValue (stack : List Frame) : Token → Progress
  | .openList => .waiting .firstValue (.list [] :: stack)
  | .openObject => .waiting .firstName (.object [] none :: stack)
  | .null => complete .null stack
  | .bool value => complete (.bool value) stack
  | .number value => complete (.number value) stack
  | .text value => complete (.text value) stack
  | _ => .finished (abandon stack)

/-- What follows a token at the place of a name. -/
def stepName (stack : List Frame) (token : Token) : Progress :=
  match token, stack with
  | .text name, .object fields _ :: rest => .waiting .colon (.object fields (some name) :: rest)
  | _, stack => .finished (abandon stack)

/-- What follows a token behind a complete part. -/
def stepSeparator (stack : List Frame) (token : Token) : Progress :=
  match token, stack with
  | .comma, .list _ :: _ => .waiting .value stack
  | .comma, .object _ _ :: _ => .waiting .name stack
  | .closeList, .list _ :: _ => closeTop stack
  | .closeObject, .object _ _ :: _ => closeTop stack
  | _, _ => .finished (abandon stack)

/-- What follows a token. -/
def step (expected : Expected) (stack : List Frame) (token : Token) : Progress :=
  match expected, token with
  | .firstValue, .closeList => closeTop stack
  | .firstName, .closeObject => closeTop stack
  | .value, token => stepValue stack token
  | .firstValue, token => stepValue stack token
  | .name, token => stepName stack token
  | .firstName, token => stepName stack token
  | .colon, .colon => .waiting .value stack
  | .colon, _ => .finished (abandon stack)
  | .separator, token => stepSeparator stack token

/-- The document that tokens begin with, and the tokens after it. -/
def readTokens (expected : Expected) (stack : List Frame) : List Token → Document × List Token
  | [] => (abandon stack, [])
  | token :: rest =>
    match step expected stack token with
    | .finished document => (document, rest)
    | .waiting expected stack => readTokens expected stack rest

/-- The document that a text begins with, whatever follows it. -/
def read (text : String) : Document := (readTokens .value [] (tokens text)).1

/-- The document that a whole text writes.  Anything but white space behind it is a fault. -/
def readWhole (text : String) : Document :=
  match readTokens .value [] (tokens text) with
  | (document, []) => document
  | (_, _ :: _) => .broken

end TableStore.Json
