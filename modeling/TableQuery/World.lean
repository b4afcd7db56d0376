import TableQuery.Files.Tree
import TableQuery.Log.Severity
import TableQuery.Settings.Reader

/-!
# The world of a program

The state around queries: the clock, the environment, the files, which settings have been loaded,
the memories of log entries and of failures, and what has been printed as a diagnosis.  It also
holds what the system provides and no action changes: the accounts, the reader of settings files and
the room for directories inside one another.  An action changes this state and may end with a fault,
in which case its changes stay.
-/

namespace TableQuery

/-- A moment on the clock. -/
structure Moment where
  year : Nat
  month : Nat
  day : Nat
  hour : Nat
  minute : Nat
  second : Nat
deriving DecidableEq, Repr

namespace Moment

/-- A number with at least two digits. -/
def twoDigits (number : Nat) : String :=
  (if number < 10 then "0" else "") ++ Nat.repr number

/-- The date and the time of day. -/
def text (moment : Moment) : String :=
  Nat.repr moment.year ++ "-" ++ twoDigits moment.month ++ "-" ++ twoDigits moment.day ++ " " ++
    twoDigits moment.hour ++ ":" ++ twoDigits moment.minute ++ ":" ++ twoDigits moment.second

end Moment

/-- The latest log entries, the oldest first. -/
structure LogMemory where
  entries : List (Severity × Value) := []
  capacity : Nat := 500
  initialized : Bool := false

/-- The failures that have been recorded, the oldest first. -/
structure ErrorMemory where
  failures : List Failure := []
  /-- Whether failures are also printed as they are recorded. -/
  developer : Bool := false
  initialized : Bool := false

/-- Whether settings have been loaded, and from which file. -/
structure SettingsState where
  loaded : Bool := false
  path : Option String := none
deriving DecidableEq, Repr

/-- The state around queries. -/
structure World where
  clock : Moment
  /-- The working directory as a path. -/
  directory : String
  /-- The directory that this library is installed in, as a path. -/
  library : String := "/usr/lib/table-query"
  /-- The variables of the environment. -/
  environment : Environment
  tree : Files.Tree
  /-- The home directories of accounts. -/
  accounts : List (String × String) := [("root", "/root")]
  /-- The home directory of the account that runs the program, where no variable names one. -/
  ownHome : String := "/root"
  /-- How settings files are read. -/
  reader : Settings.Reader := Settings.standardReader
  /-- The greatest count of directories that are made above one another: the bound is what is left
  of the room for calls. -/
  nesting : Nat := Files.nestingLimit
  settings : SettingsState := {}
  log : LogMemory := {}
  errors : ErrorMemory := {}
  /-- What has been printed as a diagnosis. -/
  diagnosis : String := ""

/-- A change of a state with a result or a fault. -/
abbrev Action (state : Type) := ExceptT Fault (StateM state)

namespace World

/-- The working directory as a place in the tree. -/
def place (world : World) : List String :=
  (Files.names world.directory).filter (· ≠ "")

/-- The value of a variable. -/
def valueOf? (world : World) (name : String) : Option String :=
  world.environment.lookup name

/-- Prints a text as a diagnosis. -/
def print (text : String) (world : World) : World :=
  { world with diagnosis := world.diagnosis ++ text }

/-- Sets a variable to a value. -/
def assignVariable (name value : String) (world : World) : World :=
  { world with environment := world.environment.assign name value }

/-- Removes a variable. -/
def removeVariable (name : String) (world : World) : World :=
  { world with environment := world.environment.filter fun entry => entry.1 ≠ name }

theorem valueOf?_assignVariable
    (name value : String)
    (world : World)
    (wanted : String) :
    (world.assignVariable name value).valueOf? wanted =
      if wanted = name then some value else world.valueOf? wanted :=
  Environment.lookup_assign name value world.environment wanted

theorem valueOf?_removeVariable
    (name : String)
    (world : World)
    (wanted : String) :
    (world.removeVariable name).valueOf? wanted =
      if wanted = name then none else world.valueOf? wanted :=
  Environment.lookup_filter_ne world.environment name wanted

/-- Runs an operation on the files of the world. -/
def onFiles (operation : Files.Operation α) : StateM World (Except Files.FileError α) :=
  fun world =>
    let (result, tree) := operation.run.run world.tree
    (result, { world with tree })

end World

/-- The world together with another state. -/
abbrev Setting (state : Type) := World × state

namespace Setting

/-- A change of the world, as a change of both. -/
def onWorld (action : Action World α) : Action (Setting state) α :=
  fun setting =>
    let (result, world) := action.run.run setting.1
    (result, (world, setting.2))

/-- A change of the other state, as a change of both. -/
def onOther (action : Action state α) : Action (Setting state) α :=
  fun setting =>
    let (result, other) := action.run.run setting.2
    (result, (setting.1, other))

end Setting

end TableQuery
