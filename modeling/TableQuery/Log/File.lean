import TableQuery.Settings.Read

/-!
# The log file

A log line is added to a file if its severity reaches the threshold that the settings name.  The
path and the threshold are read anew for every line.  A line that the system refuses to write is
reported as a diagnosis and nothing else happens.
-/

namespace TableQuery
namespace Log

/-- The path of the log file where no setting names one. -/
def defaultPath : String := "data/logs/app.log"

/-- The path of the log file. -/
def path : Action World String :=
  Settings.textOr "LOG_FILE_PATH" defaultPath

/-- The least severity whose lines are written. -/
def threshold : Action World Severity := do
  let name ← Settings.textOr "LOG_LEVEL" "info"
  return Severity.ofName (Text.upper (Text.strip name))

/-- Whether lines of a severity are written. -/
def isEnabled (severity : Severity) : Action World Bool := do
  return (← threshold).rank ≤ severity.rank

/-- The upper case of a value that names a severity.  Bytes have one, but are no name. -/
def upperName (name : Value) : Except Fault String :=
  match name.asText?, name with
  | some text, _ => .ok (Text.upper text)
  | none, .bytes _ => .ok ""
  | none, _ => .error (.refused .attribute)

/-- Whether lines of the severity that a value names are written. -/
def isEnabledName (name : Value) : Action World Bool := do
  let severity := Severity.ofName (← (upperName name : Except Fault String))
  isEnabled severity

/-- A line of the log. -/
def line (severity : Severity) (moment : Moment) (message : Value) : String :=
  "[" ++ severity.name ++ "] " ++ moment.text ++ " - " ++ message.display ++ "\n"

/-- Adds a line to a file in a directory that is made if it is missing. -/
def appendLine (nesting : Nat) (place : List String) (path line : String) :
    Files.Operation Unit := do
  let folder := Files.directoryOf path
  if folder ≠ "" then Files.makeDirectories place folder nesting
  Files.appendFile place path line

/-- The diagnosis for a line that cannot be written. -/
def failureLine (path : String) (error : Files.FileError) : String :=
  "❌ Neuspelo logovanje u " ++ path ++ ": " ++ error.message ++ "\n"

/-- Writes a message into the log file. -/
def write (severity : Severity) (message : Value) : Action World Unit := do
  if ← isEnabled severity then
    let path ← Log.path
    let world ← get
    let line := line severity world.clock message
    match ← (World.onFiles (appendLine world.nesting world.place path line) : StateM World _) with
    | .ok () => pure ()
    | .error error =>
      if error.trouble.isSystem then modify (World.print (failureLine path error))
      else throw error.toFault

end Log
end TableQuery
