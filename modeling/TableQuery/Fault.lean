import TableQuery.Database.Problem
import TableQuery.Failure

/-!
# Faults

The causes for which an operation of this library gives no result, each with its kind and, where
the message is part of the interface, its message.
-/

namespace TableQuery

/-- How the pairs of a group are joined. -/
inductive Connective where
  | any
  | all
deriving DecidableEq, Repr, Inhabited

namespace Connective

/-- The word between the members of a group. -/
def keyword : Connective → String
  | .any => "OR"
  | .all => "AND"

/-- The name of the call that adds such a group to a query. -/
def callName : Connective → String
  | .any => "where_any"
  | .all => "where_all"

end Connective

/-- The cause for which an operation gives no result. -/
inductive Fault where
  /-- A value that names no sort direction. -/
  | unknownDirection (given : Value)
  /-- A single text where a collection of members is expected. -/
  | textAsMembers (column given : Value)
  /-- A group without pairs. -/
  | emptyGroup (connective : Connective)
  /-- A condition of a type that cannot be rendered. -/
  | unknownPredicate (typeName : String)
  /-- A model without a table. -/
  | unboundModel (model : String)
  /-- A model that names its table by an empty value. -/
  | namelessTable (model : String)
  /-- A configured driver that does not exist. -/
  | unknownConfiguredDriver (key : String)
  /-- A requested driver that does not exist. -/
  | unknownDriver (given : Value)
  /-- A database path at which a directory stands. -/
  | databaseIsDirectory (path : String)
  /-- A refusal by the database engine. -/
  | database (problem : Database.Problem)
  /-- A failure that a driver has raised. -/
  | raised (failure : Failure)
  /-- An elementary operation without a result; only its kind is part of the interface. -/
  | refused (kind : ErrorKind)
deriving Inhabited

namespace Fault

/-- The kind of failure that a problem of the engine is. -/
def problemKind : Database.Problem → ErrorKind
  | .duplicateKey .. | .mismatch => .integrity
  | .closed | .nulInStatement | .bindingCount .. | .unsupportedBinding .. | .severalStatements =>
    .programming
  | .notADatabase => .database
  | _ => .operational

/-- The failure that a fault is raised as. -/
def toFailure : Fault → Failure
  | .unknownDirection given =>
    .ofMessage .building
      ("Nepoznat smer sortiranja: " ++ given.repr ++ " (očekivano asc/desc)")
  | .textAsMembers column given =>
    .ofMessage .building
      ("where_in/where_not_in za " ++ column.repr ++
        " očekuje kolekciju vrednosti, dobijen string " ++ given.repr)
  | .emptyGroup connective =>
    .ofMessage .compilation (connective.callName ++ " zahteva bar jedan par kolona -> vrednost")
  | .unknownPredicate typeName =>
    .ofMessage .compilation ("Nepoznat tip predikata: " ++ typeName)
  | .unboundModel model =>
    .ofMessage .modelBinding ("Model " ++ model ++ " nema definisan 'table'.")
  | .namelessTable model =>
    .ofMessage .modelBinding ("Model " ++ Text.quoted model ++ " nema tabelu.")
  | .unknownConfiguredDriver key =>
    .ofMessage .value ("Nepoznat DB_DRIVER u .env: " ++ key)
  | .unknownDriver given => .ofMessage .value ("Nepoznat driver_key: " ++ given.display)
  | .databaseIsDirectory path =>
    .ofMessage .runtime
      ("SQLite path '" ++ path ++ "' je direktorijum, očekivan je put do .db fajla.")
  | .database problem => .ofMessage (problemKind problem) problem.message
  | .raised failure => failure
  | .refused kind => { kind, arguments := [], traced := true, cause := none }

/-- The kind of a fault. -/
def kind (fault : Fault) : ErrorKind :=
  fault.toFailure.kind

/-- The message of a fault, where it is part of the interface. -/
def message? : Fault → Option String
  | .refused _ => none
  | .database .notADatabase => none
  | fault => some fault.toFailure.message

end Fault

end TableQuery
