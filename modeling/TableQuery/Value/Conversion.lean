import TableQuery.Number.Numeral
import TableQuery.Value.Equality
import TableQuery.Value.Text

/-!
# Conversions of values

How a value is walked through, taken apart into pairs, and turned into a number.  A conversion
that is not possible says whether the type or the value is at fault.
-/

namespace TableQuery
namespace Value

/-- A fault of a value of the wrong type. -/
abbrev wrongType : Fault := .refused .type

/-- A fault of a value of the right type with the wrong content. -/
abbrev wrongValue : Fault := .refused .value

/-- The characters of a text as texts of one character. -/
def characters (content : String) : List Value :=
  content.toList.map fun c => .text (String.singleton c)

/-- The members of a value in order: characters of a text, bytes as numbers, keys of a
dictionary. -/
def items : Value → Except Fault (List Value)
  | .text content => .ok (characters content)
  | .direction given => .ok (characters given.keyword)
  | .bytes content => .ok (content.map fun byte => .int byte.toNat)
  | .list items => .ok items
  | .tuple items => .ok items
  | .stream items => .ok items
  | .dict entries => .ok (entries.map (·.1))
  | _ => .error wrongType

/-- The two members of a value that has exactly two. -/
def pair (value : Value) : Except Fault (Value × Value) := do
  match ← value.items with
  | [first, second] => return (first, second)
  | _ => throw wrongValue

/-- The pairs of a dictionary as they are, or of any sequence of pairs with their keys as texts. -/
def pairs (value : Value) : Except Fault (List (Value × Value)) := do
  match value with
  | .dict entries => return entries
  | _ =>
    (← value.items).mapM fun item => do
      let (key, member) ← item.pair
      return (.text key.display, member)

/-- Inserts pairs into a dictionary; a key needs a hash. -/
def insertPairs : List (Value × Value) → List Value → Except Fault (List (Value × Value))
  | entries, [] => .ok entries
  | entries, item :: rest => do
    let (key, member) ← item.pair
    let _ ← key.hashAtoms
    insertPairs (Value.insert key member entries) rest

/-- The dictionary of a dictionary or of a sequence of pairs. -/
def toDict (value : Value) : Except Fault (List (Value × Value)) := do
  match value with
  | .dict entries => return entries
  | _ => insertPairs [] (← value.items)

/-! ## Numbers -/

/-- The characters of bytes that stand for a number, without the blanks around it; a byte outside
ASCII stands for none. -/
def numberChars? (content : List UInt8) : Option (List Char) :=
  if content.all (· < 128) then
    some (Text.stripWith Text.isAsciiBlank (content.map fun byte => Char.ofNat byte.toNat))
  else Option.none

/-- The integer that a text denotes. -/
def integerOfText? (content : String) : Option Int :=
  Numeral.integer? (Text.stripWith Text.isNumberBlank content.toList)

/-- The floating-point number that a text denotes. -/
def floatOfText? (content : String) : Option Binary64 :=
  Numeral.float? (Text.stripWith Text.isNumberBlank content.toList)

/-- The result of a reading that may fail on account of the content. -/
def orWrongValue (result : Option α) : Except Fault α :=
  match result with
  | some value => .ok value
  | .none => .error wrongValue

/-- The integer of a value: a floating-point number loses its fraction, a text is read. -/
def toInt : Value → Except Fault Int
  | .bool truth => .ok (if truth then 1 else 0)
  | .int number => .ok number
  | .float .nan => .error wrongValue
  | .float (.infinite _) => .error (.refused .overflow)
  | .float (.finite negative significand exponent) =>
    .ok (Binary64.truncated negative significand exponent)
  | .text content => orWrongValue (integerOfText? content)
  | .direction given => orWrongValue (integerOfText? given.keyword)
  | .bytes content => orWrongValue ((numberChars? content).bind Numeral.integer?)
  | _ => .error wrongType

/-- The floating-point number of an integer. -/
def floatOfInt (number : Int) : Except Fault Binary64 :=
  match Binary64.ofInt? number with
  | some result => .ok result
  | .none => .error (.refused .overflow)

/-- The floating-point number of a value. -/
def toFloat : Value → Except Fault Binary64
  | .bool truth => floatOfInt (if truth then 1 else 0)
  | .int number => floatOfInt number
  | .float number => .ok number
  | .text content => orWrongValue (floatOfText? content)
  | .direction given => orWrongValue (floatOfText? given.keyword)
  | .bytes content => orWrongValue ((numberChars? content).bind Numeral.float?)
  | _ => .error wrongType

/-- The count that a value stands for: the integer it converts to, and zero where there is none or
it is negative. -/
def toCount (value : Value) : Nat :=
  match value.toInt with
  | .ok number => number.toNat
  | .error _ => 0

/-! ## Casts -/

/-- A type to which a field of a row is converted. -/
inductive Cast where
  | integer
  | float
  | text
  | truth
deriving DecidableEq, Repr, Inhabited

/-- Converts a value to the type of a cast. -/
def Cast.apply (value : Value) : Cast → Except Fault Value
  | .integer => .int <$> value.toInt
  | .float => .float <$> value.toFloat
  | .text => .text <$> value.toText
  | .truth => .ok (.bool value.truthy)

end Value
end TableQuery
