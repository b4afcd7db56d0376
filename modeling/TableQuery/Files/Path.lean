/-!
# Paths

Paths are texts with slashes between names.  This module takes them apart, makes them absolute and
simplifies them, without looking at any file.
-/

namespace TableQuery
namespace Files

/-- The parts of a list of characters between separators; there is always at least one. -/
def splitOn (separator : Char) : List Char → List (List Char)
  | [] => [[]]
  | c :: rest =>
    if c = separator then [] :: splitOn separator rest
    else
      match splitOn separator rest with
      | [] => [[c]]
      | part :: parts => (c :: part) :: parts

/-- The names in a path, an empty one wherever two slashes meet or a slash stands at an end. -/
def names (path : String) : List String :=
  (splitOn '/' path.toList).map String.ofList

/-- Whether a path starts at the root. -/
def isAbsolute (path : String) : Bool :=
  path.toList.head? == some '/'

/-- The slashes at the start that a simplified path keeps: exactly two mean something of their
own, any other number means one. -/
def leadingSlashes (path : String) : String :=
  match path.toList with
  | '/' :: '/' :: '/' :: _ => "/"
  | '/' :: '/' :: _ => "//"
  | '/' :: _ => "/"
  | _ => ""

/-- Removes the names that stay in place, and each step up with the name before it; a step up at
the root stays there. -/
def climb (absolute : Bool) (names : List String) : List String :=
  let result := names.foldl
    (fun (taken : List String) name =>
      if name = "" ∨ name = "." then taken
      else if name = ".." then
        match taken with
        | [] => if absolute then [] else [name]
        | last :: before => if last = ".." then name :: taken else before
      else name :: taken)
    []
  result.reverse

/-- The absolute form of a path, without steps up; a relative path starts at a directory other
than the root. -/
def absolute (directory path : String) : String :=
  let whole := if isAbsolute path then path else directory ++ "/" ++ path
  leadingSlashes whole ++ "/".intercalate (climb true (names whole))

/-- A path without empty names and names that stay in place; steps up are kept. -/
def tidy (path : String) : String :=
  let kept := (names path).filter fun name => name ≠ "" ∧ name ≠ "."
  let tidied := leadingSlashes path ++ "/".intercalate kept
  if tidied = "" then "." else tidied

/-- Removes the slashes at the end of a path. -/
def dropSlashes (path : String) : String :=
  String.ofList (path.toList.reverse.dropWhile (· == '/')).reverse

/-- The part of a path before its last name, without the slashes between the two, and the name. -/
def splitLast (path : String) : String × String :=
  let last := (path.toList.reverse.takeWhile (· != '/')).reverse
  let before := String.ofList (path.toList.reverse.dropWhile (· != '/')).reverse
  let trimmed := dropSlashes before
  (if trimmed = "" then before else trimmed, String.ofList last)

/-- The directory of a path. -/
def directoryOf (path : String) : String :=
  (splitLast path).1

end Files
end TableQuery
