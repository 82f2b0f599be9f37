import TableStore.Error
import TableStore.Operation
import TableStore.Row
import TableStore.Table
import TableStore.Text.Escaped

/-!
# Checks of requests

What a coordinator refuses before any replica is called: tables whose names or columns would not
fit into files of rows, and operations that do not fit their table.  A field of a row can hold
neither the separator of fields nor the end of a line.
-/

namespace TableStore

/-- Whether a text can be a field of a row. -/
def isField (text : String) : Bool :=
  text.toList.all fun c => c ≠ Row.separator && c ≠ '\n' && c ≠ '\r'

/-- The reason to refuse a text that cannot be a field of a row. -/
def notAField (what text : String) : String :=
  what ++ " '" ++ Text.escape text ++ "' contains a field or row delimiter"

/-! ## Tables -/

/-- Checks columns one after another.  `seen` holds those before. -/
def checkColumnNames (seen : List String) : List String → Except Error Unit
  | [] => .ok ()
  | column :: rest =>
    if !isField column then .error (.config (notAField "column" column))
    else if column = "" then .error (.config "column names cannot be empty")
    else if column ∈ seen then .error (.config ("duplicate column '" ++ column ++ "'"))
    else checkColumnNames (column :: seen) rest

/-- Refuses tables that a coordinator does not take. -/
def TableDef.validate (table : TableDef) : Except Error Unit :=
  if !table.hasValidName then
    .error (.config ("table name '" ++ Text.escape table.name ++
      "' must be non-empty and use only letters, digits or '_'"))
  else
    match table.kind, table.columns with
    | .sql, some [] => .error (.config "SQL table needs at least one column")
    | .sql, some columns => checkColumnNames [] columns
    | .sql, none => .error (.config "SQL table needs columns")
    | .noSql, some _ => .error (.config "NoSQL tables are schemaless and take no columns")
    | .noSql, none => .ok ()

/-! ## Operations -/

/-- Whether an operation of a kind gives columns and values. -/
def OperationKind.assigns : OperationKind → Bool
  | insert | update => true
  | delete | select => false

/-- Whether an operation of a kind needs a condition. -/
def OperationKind.needsCondition : OperationKind → Bool
  | update | delete => true
  | insert | select => false

namespace Operation

/-- Checks that there are as many values as columns, and at least one, where there must be. -/
def checkCounts (operation : Operation) : Except Error Unit :=
  if !operation.kind.assigns then .ok ()
  else if operation.columns = [] then
    .error (.invalidOperation (operation.kind.text ++ " needs at least one column"))
  else if operation.columns.length ≠ operation.values.length then
    .error (.invalidOperation (toString operation.columns.length ++ " columns but " ++
      toString operation.values.length ++ " values"))
  else .ok ()

/-- Checks that there is a condition where there must be. -/
def checkCondition (operation : Operation) : Except Error Unit :=
  if operation.kind.needsCondition && operation.condition.isNone then
    .error (.invalidOperation (operation.kind.text ++ " needs a where clause"))
  else .ok ()

/-- The texts of an operation that become fields or are compared with fields. -/
def fields (operation : Operation) : List String :=
  operation.columns ++ operation.values ++
    operation.condition.toList.flatMap fun condition => [condition.column, condition.value]

/-- Checks that all texts can be fields of rows. -/
def checkFields (operation : Operation) : Except Error Unit :=
  match operation.fields.find? fun text => !isField text with
  | some text => .error (.invalidOperation (notAField "value" text))
  | none => .ok ()

/-- Checks that a table with columns has all those that the operation names. -/
def checkColumns (operation : Operation) (table : TableDef) : Except Error Unit :=
  match table.columns with
  | none => .ok ()
  | some columns =>
    match operation.columns.find? (· ∉ columns), operation.condition with
    | some column, _ =>
      .error (.invalidOperation ("unknown column '" ++ column ++ "' for table " ++ table.name))
    | none, none => .ok ()
    | none, some condition =>
      if condition.column ∈ columns then .ok ()
      else
        .error (.invalidOperation ("unknown where column '" ++ condition.column ++
          "' for table " ++ table.name))

/-- Refuses operations that do not fit a table. -/
def validate (operation : Operation) (table : TableDef) : Except Error Unit :=
  match operation.checkCounts, operation.checkCondition, operation.checkFields with
  | .error e, _, _ => .error e
  | .ok (), .error e, _ => .error e
  | .ok (), .ok (), .error e => .error e
  | .ok (), .ok (), .ok () => operation.checkColumns table

end Operation

end TableStore
