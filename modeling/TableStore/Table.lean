/-!
# Tables and replicas

What a table is called and how it stores its rows, and what each copy of one of its partitions is
called.  Names are joined by hyphens: a table of a kind is `students-SQL`, and the copy 2 of its
partition 1 is `students-SQL-1-2`.
-/

namespace TableStore

/-- How a table stores its rows: under a fixed list of columns, or as free pairs of key and
value. -/
inductive TableKind
  | sql
  | noSql
  deriving DecidableEq, Repr

namespace TableKind

/-- The name of a kind. -/
def text : TableKind → String
  | sql => "SQL"
  | noSql => "NoSQL"

/-- The kind with the given name. -/
def ofText? : String → Option TableKind
  | "SQL" => some sql
  | "NoSQL" => some noSql
  | _ => none

/-- The message for a text that names no kind. -/
def unknownMessage (text : String) : String := "unknown table kind: " ++ text

@[simp] theorem ofText?_text (kind : TableKind) : ofText? kind.text = some kind := by
  cases kind <;> rfl

end TableKind

/-- The name under which a table of a kind is registered. -/
def tableKey (name : String) (kind : TableKind) : String := name ++ "-" ++ kind.text

/-- What is fixed when a table is created. -/
structure TableDef where
  name : String
  kind : TableKind
  /-- The columns in their order, if the table has any. -/
  columns : Option (List String)
  deriving DecidableEq, Repr

namespace TableDef

/-- The name under which the table is registered. -/
def key (table : TableDef) : String := tableKey table.name table.kind

/-- Whether a character may occur in the name of a table. -/
def isNameChar (c : Char) : Bool := c.isAlphanum || c = '_'

/-- Whether the name is a word of ASCII letters, digits and `_`.  It becomes part of file names
and addresses, so it must hold nothing else. -/
def hasValidName (table : TableDef) : Bool :=
  !table.name.toList.isEmpty && table.name.toList.all isNameChar

end TableDef

/-- The identity of one copy of one partition of a table. -/
structure ReplicaId where
  table : String
  kind : TableKind
  partition : Nat
  replica : Nat
  deriving DecidableEq, Repr

namespace ReplicaId

/-- The identity of copy `replica` of partition `partition` of `table`. -/
def ofTable (table : TableDef) (partition replica : Nat) : ReplicaId :=
  ⟨table.name, table.kind, partition, replica⟩

/-- The name of a replica: table, kind, partition and copy, joined by hyphens. -/
def text (id : ReplicaId) : String :=
  tableKey id.table id.kind ++ "-" ++ toString id.partition ++ "-" ++ toString id.replica

/-- The name of the file that holds the rows of a replica. -/
def fileName (id : ReplicaId) : String := id.text ++ ".csv"

end ReplicaId

end TableStore
