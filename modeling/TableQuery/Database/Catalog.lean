import TableQuery.Database.Table

/-!
# The catalog

The engine describes the tables of a database in a table of its own, which can be read under its
name but not changed.  Names that begin as its name does are reserved.
-/

namespace TableQuery
namespace Database
namespace Catalog

/-- How the names begin that only the engine's own tables can have. -/
def reservedStart : String := "sqlite_"

/-- Whether a name is reserved. -/
def isReserved (name : String) : Bool :=
  sameName (String.ofList (name.toList.take reservedStart.length)) reservedStart

/-- The names of the catalog of a database, its own one first. -/
def names : List String :=
  ["sqlite_master", "sqlite_schema"]

/-- The names of the catalog of temporary tables, which are never made; its own one first. -/
def temporaryNames : List String :=
  ["sqlite_temp_master", "sqlite_temp_schema"]

/-- The columns of a catalog. -/
def columns : List Column :=
  [.declare "type" "text", .declare "name" "text", .declare "tbl_name" "text",
    .declare "rootpage" "int", .declare "sql" "text"]

/-- The statement that makes a table. -/
def creation (table : Table) : String :=
  let declared := table.columns.map fun column =>
    "\"" ++ column.name ++ "\" " ++ column.declared
  "CREATE TABLE \"" ++ table.name ++ "\" (" ++ ", ".intercalate declared ++ ")"

/-- The description of the table that has been made after a count of others.  The pages of tables
follow the first one, which is the catalog's. -/
def describe (table : Table) (earlier : Nat) : Row where
  number := earlier + 1
  cells := [.text "table", .text table.name, .text table.name, .integer (earlier + 2),
    .text (creation table)]

/-- The catalog of some tables. -/
def ofTables (tables : List Table) : Table where
  name := "sqlite_master"
  columns
  rows := tables.zipIdx.map fun (table, earlier) => describe table earlier

/-- The catalog that a name means, if it means one. -/
def find? (tables : List Table) (name : String) : Option Table :=
  if names.any (sameName · name) then some (ofTables tables)
  else if temporaryNames.any (sameName · name) then
    some { ofTables [] with name := "sqlite_temp_master" }
  else none

end Catalog

/-- The name of the only database. -/
def databaseName : String := "main"

/-- The name of the database of temporary tables, which has a catalog only. -/
def temporaryName : String := "temp"

/-- The table of a name, or the catalog. -/
def findTable (tables : List Table) (name : String) : Except Problem Table :=
  match tables.find? fun table => sameName table.name name with
  | some table => .ok table
  | none =>
    match Catalog.find? tables name with
    | some catalog => .ok catalog
    | none => .error (.noSuchTable name)

/-- The table of a name in the database of another name. -/
def findTableIn (database : String) (tables : List Table) (name : String) :
    Except Problem Table :=
  let fits : Bool :=
    if sameName database databaseName then !Catalog.temporaryNames.any (sameName · name)
    else sameName database temporaryName && Catalog.temporaryNames.any (sameName · name)
  match findTable tables name with
  | .ok table => if fits then .ok table else .error (.noSuchTable (database ++ "." ++ name))
  | .error _ => .error (.noSuchTable (database ++ "." ++ name))

end Database
end TableQuery
