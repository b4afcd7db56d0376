import TableQuery.Sql.Fragment
import TableQuery.World

/-!
# Drivers

A driver is what queries need of a database: how it escapes a text, what stands for no bound on the
count of rows, and how it runs a statement.  It works on a state of its own.
-/

namespace TableQuery

/-- What queries need of a database. -/
structure Driver (state : Type) where
  escape : Sql.Escape
  /-- The clause for no bound on the count of rows, where the engine needs one. -/
  unboundedLimit : Option String
  /-- Notes texts that have been escaped. -/
  noteEscaped : List String → state → state
  /-- Runs a statement and gives its rows. -/
  selectRows : String → Action state Value
  /-- Runs a statement and gives the first value of its first row. -/
  selectValue : String → Action state Value

end TableQuery
