import TableStore.Json.Basic
import TableStore.Text.Decimal

/-!
# Documents

A document is what a reader learns from a text from left to right.  Unlike a value it can end in
the middle: a list or an object says how it ended, and what stands before the fault is known all
the same.  The receiver of a message decides from the part that it needs first whether the text is
damaged or only has another form than expected.

A number is kept only as far as receivers can tell numbers apart.  A string that writes half of a
surrogate pair has no text, which matters only to those who want to read it.
-/

namespace TableStore

/-- How a list or an object ended. -/
inductive Ending
  /-- With its closing bracket, after well-formed parts only. -/
  | closed
  /-- With something that may not stand there, or with the end of the text. -/
  | broken
  deriving DecidableEq, Repr

/-- A number, as far as it matters. -/
inductive Numeral
  /-- A natural number below `2 ^ 64`, without sign, fraction or exponent. -/
  | natural (value : Nat)
  /-- Any other number that a double-precision number can come close to. -/
  | inexact
  /-- A number beyond the range of double-precision numbers. -/
  | outOfRange
  deriving DecidableEq, Repr

/-- What a text says, up to its first fault. -/
inductive Document
  | null
  | bool (value : Bool)
  | number (value : Numeral)
  | text (value : Option String)
  | list (items : List Document) (ending : Ending)
  | object (fields : List (Option String × Document)) (ending : Ending)
  /-- No value begins here. -/
  | broken
  deriving Repr

namespace Document

/-- Whether the value is well-formed to its end.  A reader closes a list or an object only if all
its parts are. -/
def isComplete : Document → Bool
  | list _ ending => ending = .closed
  | object _ ending => ending = .closed
  | broken => false
  | _ => true

end Document

namespace Json

mutual

/-- The document that the text of a value is read as. -/
def toDocument : Json → Document
  | null => .null
  | bool value => .bool value
  | number value => .number (if value < Text.nat64Limit then .natural value else .inexact)
  | text value => .text (some value)
  | list items => .list (itemDocuments items) .closed
  | object fields => .object (fieldDocuments fields) .closed

/-- The documents of the items of a list. -/
def itemDocuments : List Json → List Document
  | [] => []
  | item :: rest => item.toDocument :: itemDocuments rest

/-- The documents of the fields of an object. -/
def fieldDocuments : List (String × Json) → List (Option String × Document)
  | [] => []
  | (name, value) :: rest => (some name, value.toDocument) :: fieldDocuments rest

end

end Json

end TableStore
