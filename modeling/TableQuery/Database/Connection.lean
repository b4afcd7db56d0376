import TableQuery.Database.Answer
import TableQuery.Database.Storage
import TableQuery.World

/-!
# Connections

A connection works on the tables of a database in memory or in a file, until it is closed.  The
tables in memory are its own; those in a file are shared through the storage.
-/

namespace TableQuery
namespace Database

/-- Where the tables of a connection are. -/
inductive Location where
  | memory (tables : List Table)
  /-- The file at a place. -/
  | file (place : List String)
deriving Repr

/-- A connection to a database. -/
structure Connection where
  /-- The text that shows the absolute path of the file, or the word for a database in memory. -/
  file : String
  location : Location
  isOpen : Bool := true
  foreignKeys : Int := 1
  /-- The journal that the connection has chosen. -/
  chosenJournal : String
  synchronous : Int
  busyTimeout : Int
deriving Repr

/-- The stored databases together with a connection to a database. -/
structure Access where
  storage : Storage
  connection : Connection
deriving Repr

namespace Access

/-- The tables of the database. -/
def tables (access : Access) : List Table :=
  match access.connection.location with
  | .memory tables => tables
  | .file place => (access.storage.find place).tables

/-- Replaces the tables of the database. -/
def setTables (tables : List Table) (access : Access) : Access :=
  match access.connection.location with
  | .memory _ =>
    { access with connection := { access.connection with location := .memory tables } }
  | .file place =>
    { access with storage := access.storage.modify place fun stored => { stored with tables } }

/-- The journal in use: a file with a log for its changes has no other one. -/
def journal (access : Access) : String :=
  match access.connection.location with
  | .memory _ => access.connection.chosenJournal
  | .file place =>
    if (access.storage.find place).writesAhead then "wal" else access.connection.chosenJournal

/-- Closes the connection; to close it again changes nothing. -/
def close (access : Access) : Access :=
  let closed := { access.connection with isOpen := false }
  match access.connection.location, access.connection.isOpen with
  | .file place, true =>
    { storage := access.storage.modify place fun stored =>
        { stored with connections := stored.connections - 1 }
      connection := closed }
  | _, _ => { access with connection := closed }

/-! ## Statements -/

/-- A change through a connection with a result or a fault. -/
abbrev Change := Action Access

/-- Refuses to work on a closed connection. -/
def ensureOpen : Change Unit := do
  if (← get).connection.isOpen then pure () else throw (.database .closed)

/-- The result of the engine as a change. -/
def orProblem (result : Except Problem α) : Except Fault α :=
  match result with
  | .ok value => .ok value
  | .error problem => .error (.database problem)

/-- The answer to a statement. -/
def answer (statement : String) : Change Answer := do
  ensureOpen
  (orProblem (query (← get).tables statement) : Except Fault Answer)

/-- A row of an answer as a dictionary.  Of columns with the same name the first one is read. -/
def rowValue (columns : List String) (cells : List Cell) : Value :=
  let row := columns.zip cells
  .dict (Value.ofPairs (row.map fun (column, cell) =>
    let first := row.find? fun other => sameName other.1 column
    (.text column, ((first.map (·.2)).getD cell).toValue)))

/-- The rows of the answer to a statement. -/
def selectRows (statement : String) : Change Value := do
  let answer ← answer statement
  return .list (answer.rows.map (rowValue answer.columns))

/-- The first value of the first row of the answer to a statement. -/
def selectValue (statement : String) : Change Value := do
  let answer ← answer statement
  return ((answer.rows.head?.bind List.head?).map Cell.toValue).getD .none

/-! ## Changes of tables -/

/-- Refuses names that no statement can hold. -/
def checkNames (names : List String) : Except Problem Unit :=
  if names.any fun name => name.toList.contains '\x00' then .error .nulInStatement else .ok ()

/-- What is added to the name of a file for the name of its journal. -/
def journalEnding : String := "-journal"

/-- Refuses to change a file whose journal cannot be opened, where the journal has a file. -/
def checkJournal (access : Access) : Except Problem Unit :=
  match access.connection.location with
  | .memory _ => .ok ()
  | .file place =>
    let name := place.getLast?.getD "" ++ journalEnding
    if ["delete", "truncate", "persist"].contains access.journal &&
        Files.nameLimit < name.utf8ByteSize then
      .error .cannotOpen
    else .ok ()

/-- The columns of a new table, with declared types: no two have the same name, and at most one is
the key. -/
def columnsOf (table : String) (declared : List (String × String)) :
    Except Problem (List Column) :=
  declared.foldlM
    (fun columns (name, type) =>
      let column := Column.declare name type
      if columns.any fun other => sameName other.name name then .error (.duplicateColumn name)
      else if column.isKey && columns.any (·.isKey) then .error (.severalKeys table)
      else .ok (columns ++ [column]))
    []

/-- A new table of columns with declared types, beside other tables. -/
def newTable (tables : List Table) (name : String) (declared : List (String × String)) :
    Except Problem Table := do
  checkNames (name :: declared.flatMap fun (column, type) => [column, type])
  if Catalog.isReserved name then throw (.reservedName name)
  if tables.any fun table => sameName table.name name then throw (.tableExists name)
  if declared.isEmpty then throw (.unexpected ")")
  return { name, columns := ← columnsOf name declared }

/-- Creates a table of columns with declared types. -/
def createTable (name : String) (declared : List (String × String)) : Change Unit := do
  ensureOpen
  let access ← get
  let table ← (orProblem (newTable access.tables name declared) : Except Fault Table)
  (orProblem access.checkJournal : Except Fault Unit)
  set (access.setTables (access.tables ++ [table]))

/-- The cells of a row of values, for a statement with a count of places. -/
def bind (places : Nat) (values : List Value) : Except Fault (List Cell) := do
  if values.length ≠ places then throw (.database (.bindingCount places values.length))
  else values.zipIdx.mapM fun (value, index) => Cell.ofValue (index + 1) value

/-- Replaces the table of a name. -/
def replaceTable (changed : Table) (access : Access) : Access :=
  access.setTables (access.tables.map fun table =>
    if sameName table.name changed.name then changed else table)

/-- Inserts rows into a table one after the other; the rows before one that fails stay. -/
def insertRows (name : String) (places : Nat) : List (List Value) → Change Unit
  | [] => pure ()
  | values :: rest => do
    let cells ← (bind places values : Except Fault (List Cell))
    let access ← get
    let table ← (orProblem (findTable access.tables name) : Except Fault Table)
    let changed ← (orProblem (table.insert cells) : Except Fault Table)
    (orProblem access.checkJournal : Except Fault Unit)
    set (access.replaceTable changed)
    insertRows name places rest

/-- Refuses rows with a count of places that do not fit into the table of a name. -/
def checkPlaces (tables : List Table) (name : String) (places : Nat) : Except Problem Unit := do
  checkNames [name]
  if places = 0 then throw (.unexpected ")")
  let table ← findTable tables name
  if Catalog.isReserved table.name then throw (.unmodifiable table.name)
  if places ≠ table.columns.length then
    throw (.columnCount name table.columns.length places)

/-- Inserts rows with a count of places each, and gives their count.  Each row is a value that has
items. -/
def insert (name : String) (places : Nat) (rows : List Value) : Change Nat := do
  ensureOpen
  let rows ← (rows.mapM Value.items : Except Fault (List (List Value)))
  (orProblem (checkPlaces (← get).tables name places) : Except Fault Unit)
  insertRows name places rows
  return rows.length

end Access

end Database
end TableQuery
