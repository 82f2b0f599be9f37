/-!
# Configuration documents

The values of a configuration document, and how its lines make up the tree of tables.  A document
is a sequence of statements: assignments to dotted keys, and headers that open a table or one more
table of a list.  Assignments go into the table opened last.

A table can be opened once.  What may be added to a table later depends on how it came to be, its
`Origin`: a table that only a longer header has named can still be opened; a table made by dotted
keys can be extended by dotted keys only; a table with a header of its own or in braces cannot be
extended by dotted keys at all.
-/

namespace TableStore.Toml

/-- How a table came to be. -/
inductive Origin
  /-- By a header of its own. -/
  | header
  /-- As part of the name in a header. -/
  | implied
  /-- As part of a dotted key. -/
  | dotted
  /-- In braces. -/
  | inline
  deriving DecidableEq, Repr

end Toml

/-- A value of a configuration document.  Of fractions, times and dates only the kind is kept. -/
inductive Toml
  | text (value : String)
  | integer (value : Int)
  | fraction
  | boolean (value : Bool)
  | time
  | list (items : List Toml)
  | table (origin : Toml.Origin) (entries : List (String × Toml))
  /-- The tables that were opened under one name by headers in double brackets. -/
  | tables (items : List (List (String × Toml)))
  deriving Repr

namespace Toml

/-- The entries of a table. -/
abbrev Entries := List (String × Toml)

/-! ## Values -/

/-- The text that a value is. -/
def asText? : Toml → Option String
  | text value => some value
  | _ => none

/-- The natural number that a value is. -/
def asNat? : Toml → Option Nat
  | integer (.ofNat value) => some value
  | _ => none

/-- Whether a value is a list or a table with nothing in it. -/
def isEmpty : Toml → Bool
  | list items => items.isEmpty
  | table _ entries => entries.isEmpty
  | tables items => items.isEmpty
  | _ => false

/-- A line of a document. -/
inductive Statement
  /-- The assignment of a value to a dotted key, whose last part stands apart. -/
  | assign (path : List String) (key : String) (value : Toml)
  /-- A header that opens the table `key` in the table at `path`. -/
  | openTable (path : List String) (key : String)
  /-- A header that adds a table to the list `key` in the table at `path`. -/
  | addTable (path : List String) (key : String)
  deriving Repr

/-! ## Entries -/

/-- The value of a key. -/
def Entries.get? (entries : Entries) (key : String) : Option Toml :=
  (entries.find? fun entry => entry.1 = key).map Prod.snd

/-- The entries in which a key has a new value in its old place. -/
def Entries.replace (entries : Entries) (key : String) (value : Toml) : Entries :=
  entries.map fun entry => if entry.1 = key then (key, value) else entry

/-! ## Places in the tree -/

/-- Changes the entries of the table at a path.  Tables that are missing on the way are made; they
are `dotted` or implied.  Fails where the path leads through something that may not be extended
in this way. -/
def descend (dotted : Bool) (change : Origin → Entries → Option Entries) :
    List String → Origin → Entries → Option Entries
  | [], origin, entries => change origin entries
  | key :: path, _, entries =>
    match entries.get? key with
    | none =>
      let origin := if dotted then Origin.dotted else Origin.implied
      (descend dotted change path origin []).map fun inner =>
        entries ++ [(key, .table origin inner)]
    | some (.table origin inner) =>
      if origin = .inline ∨ (dotted ∧ origin = .header) then none
      else
        (descend dotted change path origin inner).map fun inner =>
          entries.replace key (.table origin inner)
    | some (.tables items) =>
      match items.getLast? with
      | none => none
      | some last =>
        (descend dotted change path .header last).map fun inner =>
          entries.replace key (.tables (items.dropLast ++ [inner]))
    | some _ => none

/-- Changes the entries of the table that was opened at a path. -/
def within (change : Entries → Option Entries) : List String → Entries → Option Entries
  | [], entries => change entries
  | key :: path, entries =>
    match entries.get? key with
    | some (.table origin inner) =>
      (within change path inner).map fun inner => entries.replace key (.table origin inner)
    | some (.tables items) =>
      match items.getLast? with
      | none => none
      | some last =>
        (within change path last).map fun inner =>
          entries.replace key (.tables (items.dropLast ++ [inner]))
    | _ => none

/-! ## Statements -/

/-- Gives a key its first value.  `here` tells that the key stands alone, without dots.  Dotted
keys cannot extend tables of other origins than dotted keys. -/
def addValue (here : Bool) (key : String) (value : Toml) (origin : Origin) (entries : Entries) :
    Option Entries :=
  if decide (origin = .dotted) = here then none
  else if (entries.get? key).isSome then none
  else some (entries ++ [(key, value)])

/-- Assigns a value to a dotted key below entries of the given origin. -/
def assign (path : List String) (key : String) (value : Toml) (origin : Origin)
    (entries : Entries) : Option Entries :=
  descend true (addValue path.isEmpty key value) path origin entries

/-- Opens a table for the first time. -/
def openTable (key : String) (_ : Origin) (entries : Entries) : Option Entries :=
  match entries.get? key with
  | none => some (entries ++ [(key, .table .header [])])
  | some (.table .implied inner) => some (entries.replace key (.table .header inner))
  | some _ => none

/-- Adds a table to a list of tables. -/
def addTable (key : String) (_ : Origin) (entries : Entries) : Option Entries :=
  match entries.get? key with
  | none => some (entries ++ [(key, .tables [[]])])
  | some (.tables items) => some (entries.replace key (.tables (items ++ [[]])))
  | some _ => none

/-- The entries of a document after its statements.  `current` is the path of the table opened
last. -/
def run (current : List String) (root : Entries) : List Statement → Option Entries
  | [] => some root
  | .assign path key value :: rest =>
    (within (assign path key value .header) current root).bind fun root => run current root rest
  | .openTable path key :: rest =>
    (descend false (openTable key) path .header root).bind fun root =>
      run (path ++ [key]) root rest
  | .addTable path key :: rest =>
    (descend false (addTable key) path .header root).bind fun root =>
      run (path ++ [key]) root rest

/-- The entries of a document. -/
def ofStatements (statements : List Statement) : Option Entries := run [] [] statements

/-- The entries of a table in braces, from its assignments. -/
def inlineEntries : List (List String × String × Toml) → Entries → Option Entries
  | [], entries => some entries
  | (path, key, value) :: rest, entries =>
    (assign path key value .inline entries).bind (inlineEntries rest)

end TableStore.Toml
