import TableQuery.Driver.Basic

/-!
# Scripted drivers

A scripted driver gives prepared replies, whatever the statements are, and remembers what it has
been asked.
-/

namespace TableQuery

/-- A prepared reply: a value, or a failure that is raised. -/
inductive Reply where
  | value (value : Value)
  | failure (failure : Failure)

/-- The state of a scripted driver. -/
structure Script where
  rows : List Reply := []
  values : List Reply := []
  /-- The statements that have been run, the first one first. -/
  statements : List String := []
  /-- The texts that have been escaped, the first one first. -/
  escaped : List String := []

namespace Script

/-- The outcome of a reply; where none is left, there is nothing. -/
def outcome : Option Reply → Except Fault Value
  | some (.value value) => .ok value
  | some (.failure failure) => .error (.raised { failure with traced := true })
  | none => .ok .none

/-- Takes the next reply for rows. -/
def nextRows (statement : String) : Action Script Value := do
  let script ← get
  set { script with
    rows := script.rows.drop 1
    statements := script.statements ++ [statement] }
  (outcome script.rows.head? : Except Fault Value)

/-- Takes the next reply for a value. -/
def nextValue (statement : String) : Action Script Value := do
  let script ← get
  set { script with
    values := script.values.drop 1
    statements := script.statements ++ [statement] }
  (outcome script.values.head? : Except Fault Value)

/-- Notes texts that have been escaped. -/
def noteEscaped (texts : List String) (script : Script) : Script :=
  { script with escaped := script.escaped ++ texts }

/-- The driver with an escape that gives prepared replies. -/
def driver (escape : Sql.Escape) (unboundedLimit : Option String) : Driver Script where
  escape
  unboundedLimit
  noteEscaped
  selectRows := nextRows
  selectValue := nextValue

end Script

end TableQuery
