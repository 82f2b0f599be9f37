import TableStore.Toml.Scalar

/-!
# Reading configuration documents

The grammar of documents: keys, values, and the statements on the lines.  Lists may stretch over
lines and hold comments; tables in braces stand on one line.  Lists and tables may be nested up to
a fixed depth.
-/

namespace TableStore.Toml

/-! ## Keys -/

/-- Whether a character may occur in a key without quotes. -/
def isKeyChar (c : Char) : Bool := c.isAlphanum || c = '_' || c = '-'

/-- Reads one part of a key. -/
def scanKeyPart (cs : List Char) : Option (String × List Char) :=
  match cs with
  | '"' :: rest => scanBasic (rest.length + 1) [] rest
  | '\'' :: rest => scanLiteral rest
  | _ =>
    let (part, rest) := cs.span isKeyChar
    if part = [] then none else some (String.ofList part, rest)

/-- The greatest depth to which keys, lists and tables may be nested. -/
def maxDepth : Nat := 80

/-- Reads the parts of a key with dots and white space between them, `count` parts at most. -/
def scanKeyParts : Nat → List Char → Option (List String × List Char)
  | 0, _ => none
  | count + 1, cs => do
    let (part, rest) ← scanKeyPart (cs.dropWhile isBlank)
    match rest.dropWhile isBlank with
    | '.' :: rest =>
      let (parts, rest) ← scanKeyParts count rest
      return (part :: parts, rest)
    | rest => return ([part], rest)

/-- Reads a key: the parts before the last one, and the last one. -/
def scanKey (cs : List Char) : Option ((List String × String) × List Char) := do
  let (parts, rest) ← scanKeyParts (maxDepth - 1) cs
  let last ← parts.getLast?
  return ((parts.dropLast, last), rest)

/-! ## Values -/

/-- Reads an equals sign with the white space around it. -/
def skipEquals (cs : List Char) : Option (List Char) :=
  (skip '=' (cs.dropWhile isBlank)).map fun rest => rest.dropWhile isBlank

/-- The text behind a comment, up to the end of its line. -/
def skipComment (cs : List Char) : List Char :=
  match cs with
  | '#' :: rest => rest.dropWhile isPlain
  | _ => cs

/-- The text behind white space, line ends and comments.  Fails at a comment that does not end
with its line. -/
def skipTrivia : Nat → List Char → Option (List Char)
  | 0, _ => none
  | fuel + 1, cs =>
    match skipLines cs with
    | '#' :: rest => (lineEnd? (rest.dropWhile isPlain)).bind (skipTrivia fuel)
    | rest => some rest

/-- Reads the items of a list up to its closing bracket, with the given reader of values. -/
def scanItems (value : List Char → Option (Toml × List Char)) :
    Nat → List Char → Option (List Toml × List Char)
  | 0, _ => none
  | fuel + 1, cs => do
    match ← skipTrivia (cs.length + 1) cs with
    | ']' :: rest => return ([], rest)
    | rest =>
      let (item, rest) ← value rest
      match ← skipTrivia (rest.length + 1) rest with
      | ',' :: rest =>
        let (items, rest) ← scanItems value fuel rest
        return (item :: items, rest)
      | ']' :: rest => return ([item], rest)
      | _ => none

/-- Reads one assignment, with the given reader of values. -/
def scanAssignment (value : List Char → Option (Toml × List Char)) (cs : List Char) :
    Option ((List String × String × Toml) × List Char) := do
  let ((path, key), rest) ← scanKey cs
  let (content, rest) ← value (← skipEquals rest)
  return ((path, key, content), rest)

/-- Reads the assignments of a table up to its closing brace. -/
def scanAssignments (value : List Char → Option (Toml × List Char)) :
    Nat → List Char → Option (List (List String × String × Toml) × List Char)
  | 0, _ => none
  | fuel + 1, cs => do
    let (assignment, rest) ← scanAssignment value cs
    match rest.dropWhile isBlank with
    | ',' :: rest =>
      let (assignments, rest) ← scanAssignments value fuel rest
      return (assignment :: assignments, rest)
    | '\x7d' :: rest => return ([assignment], rest)
    | _ => none

/-- Reads a table behind its opening brace. -/
def scanTable (value : List Char → Option (Toml × List Char)) (cs : List Char) :
    Option (Toml × List Char) :=
  match cs.dropWhile isBlank with
  | '\x7d' :: rest => some (.table .inline [], rest)
  | rest => do
    let (assignments, rest) ← scanAssignments value (rest.length + 1) rest
    let entries ← inlineEntries assignments []
    return (.table .inline entries, rest)

/-- Reads a value in which lists and tables are nested up to `depth`. -/
def scanValue : Nat → List Char → Option (Toml × List Char)
  | _, '"' :: rest => (scanString ('"' :: rest)).map fun found => (.text found.1, found.2)
  | _, '\'' :: rest => (scanString ('\'' :: rest)).map fun found => (.text found.1, found.2)
  | 0, '[' :: _ => none
  | 0, '\x7b' :: _ => none
  | depth + 1, '[' :: rest =>
    (scanItems (scanValue depth) (rest.length + 1) rest).map fun found =>
      (.list found.1, found.2)
  | depth + 1, '\x7b' :: rest => scanTable (scanValue depth) rest
  | _, cs => scanWord cs

/-! ## Documents -/

/-- The text behind the end of a line, which a comment may precede.  The end of the text ends a
line as well. -/
def endOfLine (cs : List Char) : Option (List Char) :=
  match skipComment (cs.dropWhile isBlank) with
  | [] => some []
  | rest => lineEnd? rest

/-- Reads a header behind its opening brackets, which `closing` closes. -/
def scanHeader (closing : List Char) (cs : List Char) :
    Option ((List String × String) × List Char) := do
  let (key, rest) ← scanKey cs
  if closing.isPrefixOf rest then return (key, rest.drop closing.length) else none

/-- Reads one statement. -/
def scanStatement (cs : List Char) : Option (Statement × List Char) :=
  match cs with
  | '[' :: '[' :: rest =>
    (scanHeader "]]".toList rest).map fun found => (.addTable found.1.1 found.1.2, found.2)
  | '[' :: rest =>
    (scanHeader "]".toList rest).map fun found => (.openTable found.1.1 found.1.2, found.2)
  | _ =>
    (scanAssignment (scanValue (maxDepth - 1)) cs).map fun found =>
      (.assign found.1.1 found.1.2.1 found.1.2.2, found.2)

/-- Reads the statements on the remaining lines, `fuel` lines at most. -/
def scanLines : Nat → List Char → Option (List Statement)
  | 0, _ => none
  | fuel + 1, cs =>
    match cs.dropWhile isBlank with
    | [] => some []
    | '#' :: rest => (endOfLine ('#' :: rest)).bind (scanLines fuel)
    | cs =>
      match lineEnd? cs with
      | some rest => scanLines fuel rest
      | none => do
        let (statement, rest) ← scanStatement cs
        let statements ← scanLines fuel (← endOfLine rest)
        return statement :: statements

/-- The entries of the document with the given text, if it is one.  A byte order mark may precede
it. -/
def read (text : String) : Option Entries :=
  let cs := match text.toList with
    | '\ufeff' :: rest => rest
    | cs => cs
  (scanLines (cs.length + 1) cs).bind ofStatements

end TableStore.Toml
