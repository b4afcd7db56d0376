import TableQuery.Log.Memory
import TableQuery.Value.Text

/-!
# The record of failures

A failure is remembered, printed as a diagnosis in developer mode, and logged with its report, the
last two only if its message can be written.  Recording it does not end the failure: the caller
still passes it on.
-/

namespace TableQuery
namespace Log

/-- The diagnosis of a failure. -/
def diagnosisOf (failure : Failure) : String :=
  "[ERROR]: " ++ failure.summary ++ "\n" ++ failure.report ++ "\n"

/-- Prints a failure as a diagnosis, in developer mode. -/
def display (developer : Bool) (failure : Failure) (world : World) : World :=
  if developer then world.print (diagnosisOf failure) else world

/-- Empties the record of failures and sets the developer mode, by default from the settings. -/
def initializeFailures (developer : Value) : Action World Unit := do
  modify fun world => { world with errors := { world.errors with failures := [] } }
  let developer ← if developer.isNone then Settings.flag "APP_DEBUG" false
    else pure developer.truthy
  modify fun world =>
    { world with errors := { world.errors with developer, initialized := true } }

/-- The log message of a failure, with a context in front where there is one. -/
def failureMessage (failure : Failure) (context : Value) : String :=
  (if context.truthy then context.display ++ ": " else "") ++ failure.summary ++ "\n" ++
    failure.report

/-- Records a failure. -/
def recordFailure (failure : Failure) (context : Value) : Action World Unit := do
  if (← get).errors.initialized then pure () else initializeFailures .none
  modify fun world =>
    { world with errors := { world.errors with failures := world.errors.failures ++ [failure] } }
  (Value.checkTexts failure.shown : Except Fault Unit)
  modify fun world => display world.errors.developer failure world
  record .error (.text (failureMessage failure context))

/-- Forgets all failures. -/
def clearFailures (world : World) : World :=
  { world with errors := { world.errors with failures := [] } }

end Log
end TableQuery
