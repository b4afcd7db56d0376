import TableQuery.World

/-!
# Loading settings

Settings come from the environment and from one file, which is the one that a variable names or
else the one of the working directory or, where there is none, of the library.  Loading hands the
text of the file to the reader of the world.  It happens once unless it is forced.
-/

namespace TableQuery
namespace Settings

/-- The variable that names the settings file. -/
def fileVariable : String := "FLUENTQ_ENV_FILE"

/-- The name of the settings file of a directory. -/
def fileName : String := ".env"

/-- The home directory that a first name of a path refers to, where it begins with a tilde. -/
def homeOf (world : World) (name : String) : Except Fault String :=
  let home? := if name = "~" then some ((world.valueOf? "HOME").getD world.ownHome)
    else world.accounts.lookup (String.ofList (name.toList.drop 1))
  match home? with
  | none => .error (.refused .runtime)
  | some home =>
    let trimmed := Files.dropSlashes home
    if trimmed.toList.head? = some '~' then .error (.refused .runtime) else .ok trimmed

/-- A path in its tidy form, with a tilde in front replaced by a home directory. -/
def expandHome (world : World) (path : String) : Except Fault String :=
  let tidied := Files.tidy path
  match Files.names tidied with
  | name :: rest =>
    if name.toList.head? = some '~' then do
      let home ← homeOf world name
      return Files.tidy (home ++ "/" ++ "/".intercalate rest)
    else .ok tidied
  | [] => .ok tidied

/-- Whether a path leads to a file; a path with a name that is too long cannot be asked about. -/
def checkFile (world : World) (path : String) : Except Fault Bool :=
  match Files.locate world.tree world.place path with
  | .error .nameTooLong => .error (.refused .system)
  | _ => .ok (Files.isFile world.tree world.place path)

/-- The path of the settings file of a directory. -/
def fileIn (directory : String) : String :=
  directory ++ "/" ++ fileName

/-- The paths at which settings are looked for, in their order.  A path that a variable names is the
only one. -/
def candidates (world : World) : Except Fault (List String) := do
  let named := Text.strip ((world.valueOf? fileVariable).getD "")
  if named ≠ "" then return [← expandHome world named]
  else return [fileIn world.directory, fileIn world.library]

/-- The first of some paths that leads to a file. -/
def firstFile (world : World) : List String → Except Fault (Option String)
  | [] => .ok none
  | path :: rest => do if ← checkFile world path then return some path else firstFile world rest

/-- The settings file, if there is one. -/
def findFile (world : World) : Except Fault (Option String) := do
  firstFile world (← candidates world)

/-- Sets a variable, unless the environment cannot hold it. -/
def setVariable (name value : String) : Action World Unit :=
  match Environment.refusal? name value with
  | some fault => throw fault
  | none => modify (World.assignVariable name value)

/-- The text of a file. -/
def contentOf (world : World) (path : String) : String :=
  match Files.find? world.tree world.place path with
  | some (.file content) => content
  | _ => ""

/-- Adds the settings of a file, as far as the reader goes. -/
def addFile (path : String) : Action World Unit := do
  let world ← get
  let loading := world.reader.load (contentOf world path) world.environment
  set ({ world with environment := loading.environment }.print loading.diagnosis)
  (loading.outcome : Except Fault Unit)

/-- Loads the settings; if they have been loaded, only where that is forced. -/
def load (force : Bool) : Action World Unit := do
  let world ← get
  if world.settings.loaded && !force then pure ()
  else
    let path ← (findFile world : Except Fault (Option String))
    modify fun world => { world with settings := { world.settings with path } }
    path.forM addFile
    modify fun world => { world with settings := { world.settings with loaded := true } }

end Settings
end TableQuery
