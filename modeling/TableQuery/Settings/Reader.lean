import TableQuery.Environment
import TableQuery.Settings.Expansion
import TableQuery.Text.Case

/-!
# Readers of settings files

The text of a settings file is loaded into an environment by a reader.  This library asks of a
reader no more than a few laws.  The reader that it has of its own adds the settings that the
environment does not hold one by one, up to the first that cannot be added, complains about what it
cannot read, and leaves the file alone where a variable asks for that.
-/

namespace TableQuery
namespace Settings

/-- What loading a text comes to: the environment after it, what is printed, and the fault if it
breaks off. -/
structure Loading where
  environment : Environment
  diagnosis : String := ""
  outcome : Except Fault Unit := .ok ()

/-- How the texts of settings files are read. -/
structure Reader where
  /-- The settings that a text defines in an environment. -/
  settings : String → Environment → List (String × String)
  /-- Loads a text into an environment. -/
  load : String → Environment → Loading

/-- What is asked of a reader: it changes no variable that is set, it adds settings of the text, and
no value that it adds holds a NUL character, which no system takes. -/
structure Reader.IsLawful (reader : Reader) : Prop where
  keeps : ∀ text environment name value, environment.lookup name = some value →
    (reader.load text environment).environment.lookup name = some value
  adds : ∀ text environment name value,
    (reader.load text environment).environment.lookup name = some value →
      environment.lookup name = some value ∨ (name, value) ∈ reader.settings text environment
  nulFree : ∀ text environment name value,
    (reader.load text environment).environment.lookup name = some value →
      environment.lookup name = some value ∨ '\x00' ∉ value.toList

/-! ## The reader of this library -/

/-- The variable that asks for settings files to be left alone. -/
def disablingVariable : String := "PYTHON_DOTENV_DISABLED"

/-- Whether an environment asks for settings files to be left alone.  Letters count as the same
where their upper case is. -/
def isDisabled (environment : Environment) : Bool :=
  match environment.lookup disablingVariable with
  | some text => ["1", "true", "t", "yes", "y"].contains (Text.lower (Text.upper text))
  | none => false

/-- The complaint about a part of a settings file that cannot be read. -/
def complaint : Binding → String
  | .malformed line =>
    "python-dotenv could not parse statement starting at line " ++ Nat.repr line ++ "\n"
  | _ => ""

/-- Adds a setting, unless the environment has a variable of that name or there is no value. -/
def addSetting (setting : String × Option String) (environment : Environment) :
    Except Fault Environment :=
  match environment.lookup setting.1, setting.2 with
  | none, some value =>
    match Environment.refusal? setting.1 value with
    | some fault => .error fault
    | none => .ok (environment.assign setting.1 value)
  | _, _ => .ok environment

/-- Adds settings one by one, up to the first that cannot be added. -/
def addSettings : List (String × Option String) → Environment → Loading
  | [], environment => { environment }
  | setting :: rest, environment =>
    match addSetting setting environment with
    | .ok after => addSettings rest after
    | .error fault => { environment, outcome := .error fault }

/-- The reader of this library. -/
def standardReader : Reader where
  settings text environment :=
    (resolve environment (bindings text)).filterMap fun setting => setting.2.map (setting.1, ·)
  load text environment :=
    if isDisabled environment then { environment }
    else
      let found := bindings text
      { addSettings (resolve environment found) environment with
        diagnosis := String.join (found.map complaint) }

end Settings
end TableQuery
