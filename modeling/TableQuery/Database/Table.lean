import TableQuery.Database.Cell

/-!
# Tables

A table has named columns with affinities and rows in the order of their numbers.  One column may
be the key: it holds the number of its row.  Names are the same if they differ only in the case of
ASCII letters.
-/

namespace TableQuery
namespace Database

/-- Whether two names are the same to the engine. -/
def sameName (left right : String) : Bool :=
  left.toList.map Text.lowerAscii == right.toList.map Text.lowerAscii

/-- A column of a table. -/
structure Column where
  name : String
  /-- The type as it was declared. -/
  declared : String
  affinity : Affinity
  /-- Whether the column holds the number of its row. -/
  isKey : Bool
deriving DecidableEq, Repr, Inhabited

/-- Whether a list begins with another one at some position. -/
def containsChars (part : List Char) (chars : List Char) : Bool :=
  match chars with
  | [] => part.isEmpty
  | _ :: rest => part.isPrefixOf chars || containsChars part rest

/-- The affinity of a declared type: it is found by the words that the type contains. -/
def affinityOf (declared : String) : Affinity :=
  let chars := declared.toList.map Text.upperAscii
  let contains : String → Bool := fun word => containsChars word.toList chars
  if contains "INT" then .integer
  else if contains "CHAR" || contains "CLOB" || contains "TEXT" then .text
  else if contains "BLOB" || chars.isEmpty then .untyped
  else if contains "REAL" || contains "FLOA" || contains "DOUB" then .real
  else .integer

/-- The column of a name and a declared type. -/
def Column.declare (name declared : String) : Column where
  name
  declared
  affinity := affinityOf declared
  isKey := sameName declared "INTEGER PRIMARY KEY"

/-- A row with its number. -/
structure Row where
  number : Int
  cells : List Cell
deriving DecidableEq, Repr, Inhabited

/-- A table. -/
structure Table where
  name : String
  columns : List Column
  rows : List Row := []
deriving Repr

/-- Where a row has the value of a name. -/
inductive Spot where
  | column (index : Nat) (affinity : Affinity) (isKey : Bool)
  /-- The number of the row. -/
  | number
deriving DecidableEq, Repr

namespace Spot

/-- The affinity of what is found. -/
def affinity : Spot → Affinity
  | .column _ affinity _ => affinity
  | .number => .integer

/-- Whether what is found is the number of the row. -/
def isKey : Spot → Bool
  | .column _ _ isKey => isKey
  | .number => true

/-- Whether two spots mean the same: the key holds the number of the row. -/
def means (left right : Spot) : Bool :=
  left == right || (left.isKey && right.isKey)

end Spot

namespace Table

/-- The names that mean the number of a row where no column has them. -/
def numberNames : List String :=
  ["rowid", "oid", "_rowid_"]

/-- Whether a name means the number of a row where no column has it. -/
def isNumberName (name : String) : Bool :=
  numberNames.any (sameName · name)

/-- The column of a name. -/
def column? (table : Table) (name : String) : Option Spot := do
  let index ← table.columns.findIdx? fun column => sameName column.name name
  let column ← table.columns[index]?
  return .column index column.affinity column.isKey

/-- The next number of a row: one more than the greatest, which stands last. -/
def nextNumber (table : Table) : Int :=
  match table.rows.getLast? with
  | some row => row.number + 1
  | none => 1

/-- The number of a new row and the content of its key, given the cell for the key. -/
def numberFor (table : Table) (cell : Cell) : Except Problem Int :=
  match cell.store .integer with
  | .null => .ok table.nextNumber
  | .integer number => .ok number
  | _ => .error .mismatch

/-- Inserts a row before the first one with a greater number. -/
def insertSorted (row : Row) : List Row → List Row
  | [] => [row]
  | other :: rest =>
    if row.number < other.number then row :: other :: rest else other :: insertSorted row rest

/-- The cells of a new row as the columns store them; the key holds the number of the row. -/
def storedCells (columns : List Column) (number : Int) (cells : List Cell) : List Cell :=
  (columns.zip cells).map fun (column, cell) =>
    if column.isKey then .integer number else cell.store column.affinity

/-- The cell that is meant for the key, if the table has one. -/
def keyCell? (table : Table) (cells : List Cell) : Option (Column × Cell) :=
  (table.columns.zip cells).find? fun (column, _) => column.isKey

/-- Inserts a row of as many cells as there are columns. -/
def insert (table : Table) (cells : List Cell) : Except Problem Table := do
  let add : Int → Table := fun number =>
    { table with
      rows := insertSorted ⟨number, storedCells table.columns number cells⟩ table.rows }
  match table.keyCell? cells with
  | none => return add table.nextNumber
  | some (key, cell) =>
    let number ← table.numberFor cell
    if table.rows.any (·.number == number) then throw (.duplicateKey table.name key.name)
    else return add number

end Table

/-- The cell of a row at a spot. -/
def Row.cell (row : Row) : Spot → Cell
  | .column index _ _ => row.cells[index]?.getD .null
  | .number => .integer row.number

end Database
end TableQuery
