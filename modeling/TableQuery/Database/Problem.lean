/-!
# Problems of a database engine

What the engine refuses, and the words in which it says so.
-/

namespace TableQuery
namespace Database

/-- A reason for which the engine refuses a statement. -/
inductive Problem where
  | noSuchTable (table : String)
  | noSuchColumn (column : String)
  /-- A name that several columns have. -/
  | ambiguousColumn (column : String)
  | noSuchCollation (name : String)
  | tableExists (table : String)
  | duplicateColumn (column : String)
  | severalKeys (table : String)
  /-- A name that only the engine's own tables can have. -/
  | reservedName (name : String)
  /-- A table that only the engine changes. -/
  | unmodifiable (table : String)
  /-- A row with a count of values that is not the table's count of columns. -/
  | columnCount (table : String) (columns values : Nat)
  /-- A key that another row of the table has already. -/
  | duplicateKey (table column : String)
  /-- A value that a key or a count of rows cannot take. -/
  | mismatch
  /-- A statement on a connection that is closed. -/
  | closed
  /-- A statement with a NUL character. -/
  | nulInStatement
  /-- A row of values that does not fill the places of the statement. -/
  | bindingCount (expected given : Nat)
  /-- A value of a type that the engine cannot store; positions count from one. -/
  | unsupportedBinding (position : Nat) (typeName : String)
  /-- A piece of text that does not fit where it stands. -/
  | unexpected (piece : String)
  /-- A piece of text that no token begins with. -/
  | unrecognized (piece : String)
  /-- A statement that ends too early. -/
  | incomplete
  /-- An expression whose tree is higher than a limit. -/
  | tooHigh (limit : Nat)
  /-- A sort column by position; positions count from one. -/
  | termOutOfRange (term columns : Nat)
  /-- An expression by which a joint answer cannot be sorted, since none of its columns is that. -/
  | termNotInAnswer (term : Nat)
  /-- A clause before a word that joins answers, where it has to come last. -/
  | clauseTooEarly (clause word : String)
  /-- A condition after the first table, which is joined to no other one. -/
  | joinRequired (word : String)
  /-- Answers that are joined by a word but do not have the same count of columns. -/
  | columnCountsDiffer (word : String)
  | patternTooLong
  /-- More than one statement in a text. -/
  | severalStatements
  /-- A file that holds no database. -/
  | notADatabase
  /-- A file that cannot be opened. -/
  | cannotOpen
  /-- A file whose journal another connection holds. -/
  | locked
deriving DecidableEq, Repr

namespace Problem

/-- A number with the ending of its place in an order. -/
def ordinal (number : Nat) : String :=
  let ending :=
    if number / 10 % 10 = 1 then "th"
    else
      match number % 10 with
      | 1 => "st"
      | 2 => "nd"
      | 3 => "rd"
      | _ => "th"
  Nat.repr number ++ ending

/-- The words of a problem. -/
def message : Problem → String
  | .noSuchTable table => "no such table: " ++ table
  | .noSuchColumn column => "no such column: " ++ column
  | .ambiguousColumn column => "ambiguous column name: " ++ column
  | .noSuchCollation name => "no such collation sequence: " ++ name
  | .tableExists table => "table \"" ++ table ++ "\" already exists"
  | .duplicateColumn column => "duplicate column name: " ++ column
  | .severalKeys table => "table \"" ++ table ++ "\" has more than one primary key"
  | .reservedName name => "object name reserved for internal use: " ++ name
  | .unmodifiable table => "table " ++ table ++ " may not be modified"
  | .columnCount table columns values =>
    "table " ++ table ++ " has " ++ Nat.repr columns ++ " columns but " ++ Nat.repr values ++
      " values were supplied"
  | .duplicateKey table column => "UNIQUE constraint failed: " ++ table ++ "." ++ column
  | .mismatch => "datatype mismatch"
  | .closed => "Cannot operate on a closed database."
  | .nulInStatement => "the query contains a null character"
  | .bindingCount expected given =>
    "Incorrect number of bindings supplied. The current statement uses " ++ Nat.repr expected ++
      ", and there are " ++ Nat.repr given ++ " supplied."
  | .unsupportedBinding position typeName =>
    "Error binding parameter " ++ Nat.repr position ++ ": type '" ++ typeName ++
      "' is not supported"
  | .unexpected piece => "near \"" ++ piece ++ "\": syntax error"
  | .unrecognized piece => "unrecognized token: \"" ++ piece ++ "\""
  | .incomplete => "incomplete input"
  | .tooHigh limit => "Expression tree is too large (maximum depth " ++ Nat.repr limit ++ ")"
  | .termOutOfRange term columns =>
    ordinal term ++ " ORDER BY term out of range - should be between 1 and " ++ Nat.repr columns
  | .termNotInAnswer term =>
    ordinal term ++ " ORDER BY term does not match any column in the result set"
  | .clauseTooEarly clause word => clause ++ " clause should come after " ++ word ++ " not before"
  | .joinRequired word => "a JOIN clause is required before " ++ word
  | .columnCountsDiffer word =>
    "SELECTs to the left and right of " ++ word ++
      " do not have the same number of result columns"
  | .patternTooLong => "LIKE or GLOB pattern too complex"
  | .severalStatements => "You can only execute one statement at a time."
  | .notADatabase => "file is not a database"
  | .cannotOpen => "unable to open database file"
  | .locked => "database is locked"

end Problem

end Database
end TableQuery
