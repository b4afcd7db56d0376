import TableQuery.Settings.Format

/-!
# Expansion of references

A value of a settings file can refer to settings, with a text in reserve for those that are not
set.  References are replaced in the order of the file, so a value sees the ones before it; a
variable of the environment hides a setting of the same name.
-/

namespace TableQuery
namespace Settings

/-- A piece of a value. -/
inductive Atom where
  | literal (c : Char)
  | reference (name : List Char) (reserve : List Char)
deriving DecidableEq, Repr

/-- Reads the rest of a reference after its opening. -/
def readReference (chars : List Char) : Option (Atom × List Char) :=
  let inName : Char → Bool := fun c => c != '\x7d' && c != ':'
  let name := chars.takeWhile inName
  match chars.dropWhile inName with
  | '\x7d' :: rest => some (.reference name [], rest)
  | ':' :: '-' :: rest =>
    match rest.dropWhile (· != '\x7d') with
    | _ :: after => some (.reference name (rest.takeWhile (· != '\x7d')), after)
    | [] => none
  | _ => none

/-- The pieces of a value; the first argument bounds their count. -/
def atomsWithin : Nat → List Char → List Atom
  | 0, _ => []
  | _ + 1, [] => []
  | bound + 1, c :: rest =>
    match c, rest with
    | '$', '\x7b' :: after =>
      match readReference after with
      | some (atom, remainder) => atom :: atomsWithin bound remainder
      | none => .literal c :: atomsWithin bound rest
    | _, _ => .literal c :: atomsWithin bound rest

/-- The pieces of a value. -/
def atoms (value : String) : List Atom :=
  atomsWithin value.toList.length value.toList

/-- The text of a piece, given the values of settings.  A setting that is there without a value is
empty, one that is not there takes the text in reserve. -/
def Atom.expand (setting : String → Option (Option String)) : Atom → List Char
  | .literal c => [c]
  | .reference name reserve =>
    match setting (String.ofList name) with
    | some (some value) => value.toList
    | some none => []
    | none => reserve

/-- A value with its references replaced. -/
def expand (setting : String → Option (Option String)) (value : String) : String :=
  String.ofList ((atoms value).flatMap (Atom.expand setting))

/-- Sets a name in a list of settings: a name that is there keeps its place. -/
def assign (name : String) (value : Option String) :
    List (String × Option String) → List (String × Option String)
  | [] => [(name, value)]
  | (other, old) :: rest =>
    if other = name then (other, value) :: rest else (other, old) :: assign name value rest

/-- The settings that bindings define, with their references replaced, in the order of their first
binding. -/
def resolve (environment : List (String × String)) (bindings : List Binding) :
    List (String × Option String) :=
  bindings.foldl
    (fun settled binding =>
      match binding with
      | .named name value =>
        let setting : String → Option (Option String) := fun wanted =>
          match environment.lookup wanted with
          | some found => some (some found)
          | none => settled.lookup wanted
        assign name (value.map (expand setting)) settled
      | _ => settled)
    []

end Settings
end TableQuery
