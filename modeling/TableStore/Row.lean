/-!
# The text of a row

A row is one line in which every field ends with a comma.  A row under fixed columns holds one
field for each column, `1,'Alice',20,`.  A row of pairs holds key and value in turn,
`name,bob,age,30,`.  The header of a file is the list of its columns with commas between them and
none at the end.

There are three groups.

* Fields: `parse` and `render`, and `parsePadded` for a row of known width.
* Headers: `parseHeader` and `renderHeader`.
* Pairs: `parsePairs` and `renderPairs`.
-/

namespace TableStore.Row

/-- The character that ends a field. -/
def separator : Char := ','

/-! ## Fields -/

/-- The text before a final separator, or all of it if it ends otherwise. -/
def body (line : List Char) : List Char :=
  if line.getLast? = some separator then line.dropLast else line

/-- The pieces of a text between separators. -/
def pieces (text : List Char) : List String := (text.splitOn separator).map String.ofList

/-- The fields of a row.  The separator that ends the last field may be missing. -/
def parse (line : String) : List String := pieces (body line.toList)

/-- A field with its separator. -/
def renderField (field : String) : String := field.push separator

/-- The row with the given fields. -/
def render (fields : List String) : String := String.join (fields.map renderField)

/-- The fields of a row, filled up with empty ones to `width` if there are fewer. -/
def parsePadded (line : String) (width : Nat) : List String :=
  let fields := parse line
  fields ++ List.replicate (width - fields.length) ""

/-- The value that a request gives to `column`: the one at the column's first occurrence, or the
empty text. -/
def valueOf (columns values : List String) (column : String) : String :=
  ((columns.idxOf? column).bind (values[·]?)).getD ""

/-- The values of a request in the order of the table's columns. -/
def layOut (tableColumns columns values : List String) : List String :=
  tableColumns.map (valueOf columns values)

/-! ## Headers -/

/-- The header with the given columns. -/
def renderHeader (columns : List String) : String := ",".intercalate columns

/-- The columns of a header. -/
def parseHeader (line : String) : List String := pieces line.toList

/-! ## Pairs -/

/-- The fields of a row taken two by two.  A last key without a value has the empty one. -/
def pairUp : List String → List (String × String)
  | [] => []
  | [key] => [(key, "")]
  | key :: value :: rest => (key, value) :: pairUp rest

/-- The pairs of a row. -/
def parsePairs (line : String) : List (String × String) := pairUp (parse line)

/-- The fields of a list of pairs. -/
def flatten (pairs : List (String × String)) : List String :=
  pairs.flatMap fun pair => [pair.1, pair.2]

/-- The row with the given pairs. -/
def renderPairs (pairs : List (String × String)) : String := render (flatten pairs)

end TableStore.Row
