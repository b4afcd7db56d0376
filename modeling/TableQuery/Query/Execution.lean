import TableQuery.Driver.Basic
import TableQuery.Log.Failures
import TableQuery.Model.Basic
import TableQuery.Sql.Select

/-!
# Execution of specifications

A specification is compiled with the escape of a driver and run by it.  An error of the driver is
recorded with the statement and passed on unchanged; nothing is tried twice.  The state of an
execution is the world together with the state of the driver.
-/

namespace TableQuery
namespace Execution

open Setting

/-- The result of a compilation, after the driver has noted what was escaped for it. -/
def compiled (driver : Driver state) (compilation : Sql.Compilation α) :
    Action (Setting state) α := do
  modify fun setting => (setting.1, driver.noteEscaped compilation.escaped setting.2)
  (compilation.outcome : Except Fault α)

/-- The statement that fetches the rows of a specification. -/
def selectSql (driver : Driver state) (spec : Spec) : Action (Setting state) String := do
  let clauses ← compiled driver (Sql.compile spec driver.escape)
  return Sql.selectStatement spec.table clauses driver.unboundedLimit

/-- The statement that counts the rows of a specification. -/
def countSql (driver : Driver state) (spec : Spec) : Action (Setting state) String := do
  let filter ← compiled driver (Sql.compileWhere spec driver.escape)
  return Sql.countStatement spec.table filter

/-- The mark of log entries about queries. -/
def mark (statement : String) : Value :=
  .text ("[Query] " ++ statement)

/-- Records the failure of a driver on a statement.  Only errors are recorded, not what else may end
an operation, such as an interrupt. -/
def recordFault (statement : String) (fault : Fault) : Action World Unit :=
  if fault.kind.isA .general then Log.recordFailure fault.toFailure (mark statement) else pure ()

/-- Runs a statement: it is logged first where the settings ask for that, and an error is
recorded. -/
def run (method : String → Action state Value) (statement : String) :
    Action (Setting state) Value := do
  if ← onWorld (Settings.flag "QUERY_LOG_SQL" false) then
    onWorld (Log.record .debug (mark statement))
  tryCatch (onOther (method statement)) fun fault => do
    onWorld (recordFault statement fault)
    throw fault

/-- The instances of rows; a value that counts as false has none. -/
def hydrateAll (model : Model) (rows : Value) : Except Fault (List Instance) := do
  if rows.truthy then (← rows.items).mapM model.hydrate else return []

/-- Fetches the instances of a specification. -/
def find (driver : Driver state) (model : Model) (spec : Spec) :
    Action (Setting state) (List Instance) := do
  let statement ← selectSql driver spec
  let rows ← run driver.selectRows statement
  (hydrateAll model rows : Except Fault (List Instance))

/-- The integer that a count is; a value that counts as false is zero. -/
def countOf (value : Value) : Except Fault Int :=
  if value.truthy then value.toInt else .ok 0

/-- Counts the rows of a specification, whatever section of them it asks for. -/
def totalCount (driver : Driver state) (spec : Spec) : Action (Setting state) Int := do
  let statement ← countSql driver spec
  let value ← run driver.selectValue statement
  (countOf value : Except Fault Int)

end Execution
end TableQuery
