import TableQuery.Database.Numeral
import TableQuery.Text.Case
import TableQuery.Value.Conversion

/-!
# Cells

A cell is nothing, a number, a text or bytes.  The affinity of a column decides which texts and
numbers become one another when a cell is stored and when it is compared with a literal.
-/

namespace TableQuery
namespace Database

-- Powers are those of the core library, whatever else is known.
attribute [local instance (1100)] instPowNat

/-- The content of one column of one row. -/
inductive Cell where
  | null
  | integer (number : Int)
  | real (number : Binary64)
  | text (content : String)
  | blob (content : List UInt8)
deriving DecidableEq, Repr, Inhabited

/-- What a column prefers to hold. -/
inductive Affinity where
  | untyped
  | text
  | integer
  | real
deriving DecidableEq, Repr, Inhabited

/-- An order of texts. -/
inductive Collation where
  | binary
  /-- ASCII letters count without their case. -/
  | noCase
  /-- Spaces at the end do not count. -/
  | rightTrim
deriving DecidableEq, Repr, Inhabited

/-- Whether an integer fits into 64 bits. -/
def fitsWord (number : Int) : Bool :=
  decide (-(2 ^ (63 : Nat)) ≤ number) && decide (number < 2 ^ (63 : Nat))

namespace Cell

/-- The number that is written: an integer where it is one of 64 bits, or else a real number. -/
def ofWritten (written : Numeral.Written) : Cell :=
  let number := Binary64.signed written.negative written.digits
  if written.isInteger && fitsWord number then .integer number else .real (realOfWritten written)

/-- The number that a text is, blanks around it aside. -/
def numberOf? (content : String) : Option Cell :=
  let chars := Text.stripWith Text.isAsciiBlank content.toList
  (Numeral.decimal? Text.asciiDigit? chars).map ofWritten

/-- The integer that a number is, if it lies strictly within the bounds of 64 bits. -/
def integral (number : Binary64) : Cell :=
  match number.toInt? with
  | some whole =>
    if -(2 ^ (63 : Nat)) < whole ∧ whole < 2 ^ (63 : Nat) - 1 then .integer whole
    else .real number
  | none => .real number

/-- A number as a column of real numbers holds it: zero has no sign. -/
def unsigned (number : Binary64) : Cell :=
  .real (if number.isZero then Binary64.zero false else number)

/-- The nearest real number to an integer of 64 bits. -/
def realOf (number : Int) : Binary64 :=
  Binary64.ofRatio (number < 0) number.natAbs 1

/-- The text of a number. -/
def numberText? : Cell → Option String
  | .integer number => some (Numeral.integerText number)
  | .real number => some (realText number)
  | _ => none

/-- A text as a number, where it is one. -/
def asNumber (cell : Cell) : Cell :=
  match cell with
  | .text content => (numberOf? content).getD cell
  | _ => cell

/-- A cell as a column of an affinity stores it. -/
def store (affinity : Affinity) (cell : Cell) : Cell :=
  match affinity with
  | .untyped => cell
  | .text => (cell.numberText?.map .text).getD cell
  | .integer =>
    match cell.asNumber with
    | .real number => integral number
    | other => other
  | .real =>
    match cell.asNumber with
    | .integer number => .real (realOf number)
    | .real number => unsigned number
    | other => other

/-- A cell as it is compared under an affinity. -/
def adapt (affinity : Affinity) (cell : Cell) : Cell :=
  match affinity with
  | .integer | .real => cell.asNumber
  | .text => (cell.numberText?.map .text).getD cell
  | .untyped => cell

/-! ## Order -/

/-- The place of a type of cell in the order of all cells. -/
def rank : Cell → Nat
  | .null => 0
  | .integer _ => 1
  | .real _ => 1
  | .text _ => 2
  | .blob _ => 3

/-- What of a text decides its place in an order of texts. -/
def textKey : Collation → String → String
  | .binary, content => content
  | .noCase, content => String.ofList (content.toList.map Text.lowerAscii)
  | .rightTrim, content => String.ofList (Text.stripRight (· == ' ') content.toList)

/-- The order of cells: nothing, numbers, texts by their characters, bytes. -/
def order (collation : Collation) : Cell → Cell → Ordering
  | .integer left, .integer right => compare left right
  | .integer left, .real right => ((right.orderInt left).getD .eq).swap
  | .real left, .integer right => (left.orderInt right).getD .eq
  | .real left, .real right => (left.order right).getD .eq
  | .text left, .text right =>
    compareOfLessAndEq (textKey collation left) (textKey collation right)
  | .blob left, .blob right => compareOfLessAndEq left right
  | left, right => compare left.rank right.rank

/-- The order of two cells; nothing is known about a missing one. -/
def order? (collation : Collation) : Cell → Cell → Option Ordering
  | .null, _ => none
  | _, .null => none
  | left, right => some (left.order collation right)

/-! ## Values -/

/-- The value that a cell is read as. -/
def toValue : Cell → Value
  | .null => .none
  | .integer number => .int number
  | .real number => .float number
  | .text content => .text content
  | .blob content => .bytes content

/-- The cell of a value in a given position of a row of values. -/
def ofValue (position : Nat) (value : Value) : Except Fault Cell :=
  match value with
  | .none => .ok .null
  | .bool truth => .ok (.integer (if truth then 1 else 0))
  | .int number => if fitsWord number then .ok (.integer number) else .error (.refused .overflow)
  | .float .nan => .ok .null
  | .float number => .ok (.real number)
  | .text content => .ok (.text content)
  | .direction given => .ok (.text given.keyword)
  | .bytes content => .ok (.blob content)
  | other => .error (.database (.unsupportedBinding position other.typeName))

end Cell

end Database
end TableQuery
