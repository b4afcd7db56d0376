import TableQuery.Text.Case
import TableQuery.Value.Conversion

/-!
# Reading sort directions

A direction is named by its keyword or its full word, in any case and with blanks around it.
-/

namespace TableQuery
namespace Direction

/-- The direction that a word in lower case names. -/
def ofWord? (word : String) : Option Direction :=
  if word = "asc" ∨ word = "ascending" then some .ascending
  else if word = "desc" ∨ word = "descending" then some .descending
  else none

/-- The direction that a value names: itself, or the one of its text.  A value that counts as
false has an empty text. -/
def parse (value : Value) : Except Fault Direction :=
  match value with
  | .direction direction => .ok direction
  | _ =>
    let text := if value.truthy then value.display else ""
    match ofWord? (Text.lower (Text.strip text)) with
    | some direction => .ok direction
    | none => .error (.unknownDirection value)

end Direction
end TableQuery
