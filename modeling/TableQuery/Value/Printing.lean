import TableQuery.Number.Decimal
import TableQuery.Number.Numeral
import TableQuery.Text.Quoted
import TableQuery.Value.Basic

/-!
# The texts of values

A value has a display text, in which a text stands for itself, and an inner text, in which texts
are quoted; a collection shows the inner texts of its members.
-/

namespace TableQuery
namespace Value

/-- The inner text of a sort direction. -/
def directionText (direction : Direction) : String :=
  "<SortDirection." ++ direction.name ++ ": '" ++ direction.keyword ++ "'>"

/-- Joins the inner texts of members with commas. -/
def joined (texts : List String) : String :=
  ", ".intercalate texts

/-- The text of a fixed sequence; one of a single member ends in a comma. -/
def tupleText : List String → String
  | [single] => "(" ++ single ++ ",)"
  | texts => "(" ++ joined texts ++ ")"

mutual

/-- The inner text of a value. -/
def repr : Value → String
  | .none => "None"
  | .bool truth => if truth then "True" else "False"
  | .int number => Numeral.integerText number
  | .float number => number.toText
  | .text content => Text.quoted content
  | .bytes content => Text.quotedBytes content
  | .list items => "[" ++ joined (reprAll items) ++ "]"
  | .tuple items => tupleText (reprAll items)
  | .dict entries => "\x7b" ++ joined (reprEntries entries) ++ "\x7d"
  | .direction given => directionText given
  | .stream _ => "<list_iterator object>"

/-- The inner texts of several values. -/
def reprAll : List Value → List String
  | [] => []
  | item :: rest => repr item :: reprAll rest

/-- The texts of keys with their values. -/
def reprEntries : List (Value × Value) → List String
  | [] => []
  | (key, value) :: rest => (repr key ++ ": " ++ repr value) :: reprEntries rest

end

/-- The display text of a value. -/
def display : Value → String
  | .text content => content
  | .direction given => "SortDirection." ++ given.name
  | value => value.repr

end Value
end TableQuery
