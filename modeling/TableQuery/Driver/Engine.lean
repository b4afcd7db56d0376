import TableQuery.Database.Opening
import TableQuery.Driver.Basic
import TableQuery.Log.Memory

/-!
# The driver of the database engine

The engine's driver runs statements on a connection.  A driver is chosen by a key, either by a
caller or by the settings, and opened with parameters.
-/

namespace TableQuery
namespace Engine

/-- The driver of a connection. -/
def driver : Driver Database.Access where
  escape := Sql.doubleQuotes
  unboundedLimit := some "LIMIT -1"
  noteEscaped := fun _ access => access
  selectRows := Database.Access.selectRows
  selectValue := Database.Access.selectValue

/-- The text of any value, escaped. -/
def escapeValue (value : Value) : String :=
  Sql.doubleQuotes value.display

/-- The key of the engine. -/
def key : String := "sqlite"

/-- Opens a connection with parameters, of which only the path counts. -/
def connect (parameters : List (Value × Value)) :
    Action (Setting Database.Storage) Database.Connection :=
  Database.connect ((Value.lookup (.text "path") parameters).getD .none)

/-- The names of parameters are texts, and one name is taken. -/
def checkNames (entries : List (Value × Value)) : Except Fault Unit :=
  entries.forM fun entry =>
    match entry.1.asText? with
    | some name => if name = "self" then .error Value.wrongType else .ok ()
    | none => .error Value.wrongType

/-- The parameters of a value; one that counts as false has none. -/
def parametersOf (given : Value) : Except Fault (List (Value × Value)) := do
  if !given.truthy then return []
  else
    match given with
    | .dict entries => checkNames entries; return entries
    | _ => throw Value.wrongType

/-- The key that a value means: its text without blanks around it, in lower case. -/
def keyOf (given : Value) : Except Fault (Option String) :=
  if !given.truthy then .ok (some "")
  else
    match given.asText?, given with
    | some text, _ => .ok (some (Text.lower (Text.strip text)))
    | none, .bytes _ => .ok none
    | none, _ => .error (.refused .attribute)

/-- Opens a connection with the driver of a key and logs it. -/
def create (given parameters : Value) :
    Action (Setting Database.Storage) Database.Connection := do
  let chosen ← (keyOf given : Except Fault (Option String))
  if chosen = some key then
    let entries ← (parametersOf parameters : Except Fault (List (Value × Value)))
    let connection ← connect entries
    Setting.onWorld (Log.record .info
      (.text ("[Query] activate -> driver=" ++ key ++ " params=" ++ parameters.display)))
    return connection
  else throw (.unknownDriver given)

/-- What the settings say about the driver. -/
structure Configuration where
  driver : String
  path : String
deriving DecidableEq, Repr

/-- The parameters of a configuration. -/
def Configuration.parameters (configuration : Configuration) : Value :=
  .dict [(.text "path", .text configuration.path)]

/-- A configuration as a dictionary. -/
def Configuration.toValue (configuration : Configuration) : Value :=
  .dict [(.text "driver", .text configuration.driver), (.text "params", configuration.parameters),
    (.text "source", .text "env")]

/-- The configuration that the settings choose. -/
def configured : Action World Configuration := do
  let name ← Settings.textOr "DB_DRIVER" key
  let chosen := Text.lower (Text.strip name)
  if chosen = key then
    let path ← Settings.textOr "SQLITE_PATH" Database.defaultPath
    return { driver := chosen, path }
  else throw (.unknownConfiguredDriver chosen)

/-- Opens a connection with the driver that the settings choose. -/
def createConfigured : Action (Setting Database.Storage) Database.Connection := do
  let configuration ← Setting.onWorld configured
  create (.text configuration.driver) configuration.parameters

end Engine
end TableQuery
