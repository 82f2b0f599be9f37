/-!
# Media types

A media type is a type and a subtype with a slash between them, and parameters after semicolons.
The part of the subtype behind its last plus sign is its suffix.  Messages in JSON have the type
`application` and the subtype or suffix `json`; capital letters count as small ones.
-/

namespace TableStore.Http

/-- Whether a character may occur in a name. -/
def isTokenChar (c : Char) : Bool := c.isAlphanum || "!#$%&'*+-.^_`|~".toList.contains c

/-- Whether a character may occur in a quoted value: a space or a visible ASCII character. -/
def isQuotedChar (c : Char) : Bool := 0x20 ≤ c.toNat && c.toNat < 0x7f

/-- Where in a list of parameters a reader stands. -/
inductive ParameterState
  /-- Before a parameter. -/
  | start
  | name
  /-- Behind the equals sign. -/
  | equals
  | value
  | quoted (empty : Bool)
  /-- Behind a quoted value. -/
  | after

/-- Where the reader stands behind one more character, if that may stand there. -/
def ParameterState.next? (state : ParameterState) (c : Char) : Option ParameterState :=
  match state with
  | start => if c = ' ' then some start else if isTokenChar c then some name else none
  | name => if c = '=' then some equals else if isTokenChar c then some name else none
  | equals => if c = '"' then some (quoted true) else if isTokenChar c then some value else none
  | value => if c = ';' then some start else if isTokenChar c then some value else none
  | quoted empty =>
    if c = '"' && !empty then some after
    else if isQuotedChar c then some (quoted false)
    else none
  | after => if c = ';' then some start else if c = ' ' then some after else none

/-- Whether the parameters may end where the reader stands. -/
def ParameterState.mayEnd : ParameterState → Bool
  | name => false
  | quoted _ => false
  | _ => true

/-- Whether a text is a list of parameters. -/
def areParameters (cs : List Char) : Bool :=
  match cs.foldlM ParameterState.next? .start with
  | none => false
  | some state => state.mayEnd

/-- A subtype without its suffix, and the suffix. -/
def splitSuffix (subtype : List Char) : List Char × Option (List Char) :=
  let suffix := (subtype.reverse.takeWhile (· ≠ '+')).reverse
  let front := subtype.take (subtype.length - suffix.length - 1)
  if suffix.length = subtype.length ∨ front = [] then (subtype, none) else (front, some suffix)

/-- Whether a media type means JSON. -/
def isJsonType (text : String) : Bool :=
  let (type, rest) := text.toList.span isTokenChar
  match rest with
  | '/' :: rest =>
    let (subtype, rest) := rest.span isTokenChar
    let (front, suffix) := splitSuffix (subtype.map Char.toLower)
    let wellFormed :=
      match rest with
      | [] => true
      | ';' :: rest => subtype ≠ [] && areParameters rest
      | _ => false
    wellFormed && type.map Char.toLower = "application".toList &&
      (front = "json".toList || suffix = some "json".toList)
  | _ => false

end TableStore.Http
