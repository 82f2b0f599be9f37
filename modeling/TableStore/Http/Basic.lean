import TableStore.Http.MediaType
import TableStore.Json.Record
import TableStore.Node.Endpoint

/-!
# Requests and responses

A request names a target by a path, and may carry a message.  A response has a status, and carries
a message if a handler wrote it; responses to requests that reach no handler have a status only.

Paths are told apart by the parts between their slashes.  A part that stands for a parameter is
decoded after that; it may be empty, but not at the end of a path.
-/

namespace TableStore.Http

/-- A request as its receiver sees it. -/
structure Request where
  method : String
  /-- The path with what may follow it after a question mark. -/
  target : String
  /-- The media type that the request gives for its message. -/
  contentType : Option String
  /-- The message. -/
  body : Document

/-- A response as its sender states it. -/
structure Response where
  status : Nat
  body : Option Json

namespace Response

/-- The response of a handler. -/
def message (status : Nat) (body : Json) : Response := ⟨status, some body⟩

/-- A response that is nothing but its status. -/
def bare (status : Nat) : Response := ⟨status, none⟩

end Response

/-! ## Paths -/

/-- The parts of the path that a target begins with. -/
def segments (target : String) : List String :=
  let path := target.toList.takeWhile fun c => c ≠ '?' && c ≠ '#'
  (path.splitOn '/').map String.ofList

/-- The bytes that a text with percent signs writes.  A percent sign without two hexadecimal
digits behind it stands for itself. -/
def percentBytes : List Char → List UInt8
  | [] => []
  | '%' :: a :: b :: rest =>
    match Text.hexValue? a, Text.hexValue? b with
    | some high, some low => UInt8.ofNat (16 * high + low) :: percentBytes rest
    | _, _ => '%'.toNat.toUInt8 :: percentBytes (a :: b :: rest)
  | c :: rest => c.toString.toUTF8.toList ++ percentBytes rest
termination_by cs => cs.length

/-- The text that a parameter of a path means, if it means one. -/
def percentDecode? (text : String) : Option String :=
  String.fromUTF8? (percentBytes text.toList).toByteArray

/-! ## Methods and messages -/

/-- Whether a request is made by the given method.  Who may be asked with `GET` may also be asked
with `HEAD`. -/
def Request.isMadeBy (request : Request) (method : Method) : Bool :=
  request.method = method.text || method = .get && request.method = "HEAD"

/-- The response as it is sent.  The answer to `HEAD` leaves out the message. -/
def Response.send (response : Response) (request : Request) : Response :=
  if request.method = "HEAD" then .bare response.status else response

/-- The response to a message that is not of the expected form. -/
def rejection : Json.Rejection → Response
  | .malformed => .bare 400
  | .unexpected => .bare 422

/-- The message of a request, or the response if it has none of the expected form. -/
def Request.message {α : Type} (request : Request) (decode : Document → Except Json.Rejection α) :
    Except Response α :=
  if request.contentType.any isJsonType then (decode request.body).mapError rejection
  else .error (.bare 415)

end TableStore.Http
