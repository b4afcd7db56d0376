import TableQuery.Settings.Load
import TableQuery.Text.Case
import TableQuery.Value.Conversion

/-!
# Reading settings

A setting is read as a text, a truth value, an integer or one of some choices.  Reading loads the
settings first if that has not been done.
-/

namespace TableQuery
namespace Settings

/-- The text of a setting, if it is set. -/
def find? (name : String) : Action World (Option String) := do
  load false
  return (← get).valueOf? name

/-- The text of a setting, or another text where it is absent or empty. -/
def textOr (name default : String) : Action World String := do
  match ← find? name with
  | some text => return if text = "" then default else text
  | none => return default

/-- Whether a text means yes. -/
def isAffirmative (text : String) : Bool :=
  ["1", "true", "yes", "y", "on"].contains (Text.lower (Text.strip text))

/-- The integer that the text of a setting denotes. -/
def integerOf? (text : String) : Option Int :=
  Value.integerOfText? (Text.strip text)

/-- A setting as a truth value. -/
def flag (name : String) (default : Bool) : Action World Bool := do
  return ((← find? name).map isAffirmative).getD default

/-- A setting as an integer. -/
def integer (name : String) (default : Int) : Action World Int := do
  return ((← find? name).bind integerOf?).getD default

/-- The choice that a text means, in any case and with blanks around it. -/
def choose? (text : String) (choices : List String) : Option String :=
  choices.find? fun choice => Text.lower (Text.strip text) = Text.lower choice

/-- A setting as one of some choices. -/
def choice? (name : String) (choices : List String) : Action World (Option String) := do
  return choose? ((← find? name).getD "") choices

/-! ## Names, choices and defaults as values -/

/-- The text of a setting that a value names. -/
def findValue? (name : Value) : Action World (Option String) := do
  load false
  match name.asText? with
  | some name => return (← get).valueOf? name
  | none => throw Value.wrongType

/-- A setting as a text value. -/
def getText (name default : Value) : Action World Value := do
  return ((← findValue? name).map .text).getD default

/-- A setting as a truth value. -/
def getFlag (name default : Value) : Action World Value := do
  return ((← findValue? name).map fun text => .bool (isAffirmative text)).getD default

/-- A setting as an integer value. -/
def getInteger (name default : Value) : Action World Value := do
  return (((← findValue? name).bind integerOf?).map .int).getD default

/-- The first choice that a text in lower case means.  A choice has to have a lower case. -/
def firstChoice (text : String) (default : Value) : List Value → Except Fault Value
  | [] => .ok default
  | choice :: rest =>
    match choice.asText?, choice with
    | some word, _ =>
      if text = Text.lower word then .ok choice else firstChoice text default rest
    | none, .bytes _ => firstChoice text default rest
    | none, _ => .error (.refused .attribute)

/-- A setting as one of the members of a value. -/
def getChoice (name choices default : Value) : Action World Value := do
  let text := ((← findValue? name).getD "")
  let members ← (choices.items : Except Fault (List Value))
  firstChoice (Text.lower (Text.strip text)) default members

end Settings
end TableQuery
