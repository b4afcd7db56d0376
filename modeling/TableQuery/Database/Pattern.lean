import TableQuery.Text.Case

/-!
# Patterns

In a pattern a percent sign stands for any characters, an underscore for one, and every other
character for itself; ASCII letters match in both cases.

A pattern is matched from its end.  For each part of the pattern a list of truth values says which
ends of the text it matches, the whole text first and the empty end last, so the work grows with
the product of both lengths.
-/

namespace TableQuery
namespace Database

/-- A character as patterns see it: the two code points that never stand for a character of their
own are seen as the one that replaces them. -/
def patternChar (c : Char) : Char :=
  if c = '\ufffe' ∨ c = '\uffff' then '\ufffd' else c

/-- Whether a character of a pattern matches a character of a text. -/
def matchesChar (expected found : Char) : Bool :=
  expected == '_' || Text.lowerAscii (patternChar expected) == Text.lowerAscii (patternChar found)

/-- The ends that the empty pattern matches: only the empty one. -/
def emptyEnd (text : List Char) : List Bool :=
  text.map (fun _ => false) ++ [true]

/-- The ends that have one of the given ends. -/
def earlierEnds (ends : List Bool) : List Bool :=
  ends.foldr (fun matched later => (matched || later.headD false) :: later) []

/-- The ends that begin with a character, before one of the given ends. -/
def endsAfter (expected : Char) (text : List Char) (ends : List Bool) : List Bool :=
  List.zipWith (fun found matched => matchesChar expected found && matched) text ends.tail ++
    [false]

/-- The ends of a text that a pattern matches. -/
def matchedEnds (pattern text : List Char) : List Bool :=
  pattern.foldr
    (fun c ends => if c = '%' then earlierEnds ends else endsAfter c text ends)
    (emptyEnd text)

/-- Whether a text matches a pattern. -/
def matchesPattern (pattern text : List Char) : Bool :=
  (matchedEnds pattern text).headD false

/-- The greatest length of a pattern in bytes. -/
def patternLimit : Nat := 50000

end Database
end TableQuery
