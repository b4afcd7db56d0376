import TableQuery.Direction
import TableQuery.Number.Binary64

/-!
# Values

The dynamic values that callers hand to queries, that rows hold and that fields of a model take.
Only the truth of a value and the name of its type are defined here; the modules beside this one
hold its text, its equality and its conversions.
-/

namespace TableQuery

/-- A dynamic value. -/
inductive Value where
  | none
  | bool (truth : Bool)
  | int (number : Int)
  | float (number : Binary64)
  | text (content : String)
  | bytes (content : List UInt8)
  | list (items : List Value)
  | tuple (items : List Value)
  /-- Pairs of a key and a value with distinct keys, in the order of insertion. -/
  | dict (entries : List (Value × Value))
  | direction (given : Direction)
  /-- A sequence that can be walked through once. -/
  | stream (items : List Value)
deriving Inhabited, Repr

namespace Value

/-- Whether a value counts as true: everything but nothing, zero and what is empty. -/
def truthy : Value → Bool
  | .none => false
  | .bool truth => truth
  | .int number => number != 0
  | .float number => !number.isZero
  | .text content => content != ""
  | .bytes content => !content.isEmpty
  | .list items => !items.isEmpty
  | .tuple items => !items.isEmpty
  | .dict entries => !entries.isEmpty
  | .direction _ => true
  | .stream _ => true

/-- The name of the type of a value. -/
def typeName : Value → String
  | .none => "NoneType"
  | .bool _ => "bool"
  | .int _ => "int"
  | .float _ => "float"
  | .text _ => "str"
  | .bytes _ => "bytes"
  | .list _ => "list"
  | .tuple _ => "tuple"
  | .dict _ => "dict"
  | .direction _ => "SortDirection"
  | .stream _ => "list_iterator"

/-- The characters of a value that is a text; a sort direction is the text of its keyword. -/
def asText? : Value → Option String
  | .text content => some content
  | .direction given => some given.keyword
  | _ => Option.none

/-- Whether a value is nothing. -/
def isNone : Value → Bool
  | .none => true
  | _ => false

end Value

end TableQuery
