import TableQuery.Database.Cell
import TableQuery.Database.Pattern
import TableQuery.Number.Arithmetic
import TableQuery.Sql.Expression

/-!
# Operations on cells

What the operations of expressions compute.  A truth value is an integer, one or zero, and unknown
where it is missing; a text counts as the number that it begins with.
-/

namespace TableQuery
namespace Database

-- Powers are those of the core library, whatever else is known.
attribute [local instance (1100)] instPowNat

/-! ## Truth -/

/-- The negation of a truth that may be unknown. -/
def negate (truth : Option Bool) : Option Bool :=
  truth.map (!·)

/-- Whether one of several truths holds: one that does decides, else an unknown one does. -/
def disjunction (truths : List (Option Bool)) : Option Bool :=
  if truths.contains (some true) then some true
  else if truths.contains none then none
  else some false

/-- Whether all of several truths hold. -/
def conjunction (truths : List (Option Bool)) : Option Bool :=
  if truths.contains (some false) then some false
  else if truths.contains none then none
  else some true

namespace Cell

/-- The cell of a truth value. -/
def ofTruth : Option Bool → Cell
  | some truth => .integer (if truth then 1 else 0)
  | none => .null

/-- The number that characters begin with, blanks before it aside. -/
def leadingNumber (chars : List Char) : Cell :=
  ofWritten (Numeral.splitDecimal Text.asciiDigit? (chars.dropWhile Text.isAsciiBlank)).1

/-- A cell as a number, unless it is missing. -/
def toNumber : Cell → Cell
  | .text content => leadingNumber content.toList
  | .blob content => leadingNumber (content.map fun byte => Char.ofNat byte.toNat)
  | cell => cell

/-- Whether a cell counts as true. -/
def truth? (cell : Cell) : Option Bool :=
  match cell.toNumber with
  | .integer number => some (number != 0)
  | .real number => some !number.isZero
  | _ => none

/-- The cell of a value in a statement. -/
def ofLiteral : Sql.Literal → Cell
  | .null => .null
  | .text content => .text content
  | .number written => (numberOf? written).getD .null

/-! ## Texts -/

/-- The characters of bytes as far as they are proper text. -/
def textOfBytes (content : List UInt8) : String :=
  (String.fromUTF8? ⟨content.toArray⟩).getD ""

/-- The text of a cell, unless it is missing. -/
def toText? : Cell → Option String
  | .null => none
  | .text content => some content
  | .blob content => some (textOfBytes content)
  | cell => cell.numberText?

/-- Two texts one after the other. -/
def concat (left right : Cell) : Cell :=
  match left.toText?, right.toText? with
  | some first, some second => .text (first ++ second)
  | _, _ => .null

/-- Whether a cell matches a pattern.  Bytes match none; a text ends before a NUL character. -/
def like (pattern subject : Cell) : Except Problem Cell :=
  match pattern, subject with
  | .blob _, _ => .ok (ofTruth (some false))
  | _, .blob _ => .ok (ofTruth (some false))
  | pattern, subject =>
    let chars : Cell → Option (List Char) := fun cell =>
      cell.toText?.map fun content => content.toList.takeWhile (· != '\x00')
    if patternLimit < (pattern.toText?.getD "").utf8ByteSize then .error .patternTooLong
    else
      match chars pattern, chars subject with
      | some expected, some found => .ok (ofTruth (some (matchesPattern expected found)))
      | _, _ => .ok .null

/-! ## Comparison -/

/-- The affinity under which two operands are compared, given the affinities of those of them that
are columns. -/
def comparisonAffinity : Option Affinity → Option Affinity → Affinity
  | some left, some right =>
    if left = .integer ∨ left = .real ∨ right = .integer ∨ right = .real then .integer
    else .untyped
  | some affinity, none => affinity
  | none, some affinity => affinity
  | none, none => .untyped

/-- The order of two cells under an affinity, if both are there. -/
def compareAs (affinity : Affinity) (collation : Collation) (left right : Cell) :
    Option Ordering :=
  (left.adapt affinity).order? collation (right.adapt affinity)

/-- Whether two cells are equal under an affinity. -/
def equal? (affinity : Affinity) (collation : Collation) (left right : Cell) : Option Bool :=
  (compareAs affinity collation left right).map (· == .eq)

/-- Whether two cells are the same under an affinity, where missing ones are the same. -/
def same (affinity : Affinity) (collation : Collation) (left right : Cell) : Bool :=
  if left = .null ∨ right = .null then left == right
  else equal? affinity collation left right == some true

/-- Whether a cell is one of some members. -/
def isMember (affinity : Affinity) (collation : Collation) (subject : Cell) (members : List Cell) :
    Option Bool :=
  disjunction (members.map (equal? affinity collation subject))

/-! ## Arithmetic -/

/-- The nearest real number to a cell that is a number. -/
def realValue : Cell → Binary64
  | .integer number => realOf number
  | .real number => number
  | _ => .zero false

/-- The integer of 64 bits that is nearest to an integer. -/
def nearestWord (number : Int) : Int :=
  max (-(2 ^ (63 : Nat))) (min (2 ^ (63 : Nat) - 1) number)

/-- The number whose digits characters begin with. -/
def leadingDigits (chars : List Char) : Nat :=
  (chars.takeWhile Char.isDigit).foldl (fun number c => 10 * number + (c.toNat - '0'.toNat)) 0

/-- The integer of 64 bits that characters begin with, blanks before it aside. -/
def leadingWord (chars : List Char) : Int :=
  match chars.dropWhile Text.isAsciiBlank with
  | '-' :: rest => nearestWord (-(leadingDigits rest))
  | '+' :: rest => nearestWord (leadingDigits rest)
  | rest => nearestWord (leadingDigits rest)

/-- The integer of 64 bits that a cell is cut off to. -/
def wordValue : Cell → Int
  | .integer number => number
  | .real number => nearestWord number.cutOff
  | .text content => leadingWord content.toList
  | .blob content => leadingWord (content.map fun byte => Char.ofNat byte.toNat)
  | .null => 0

/-- The cell of a real result; one that is no number is missing. -/
def ofReal : Binary64 → Cell
  | .nan => .null
  | number => .real number

/-- Applies one operation to integers, as long as the result has 64 bits, and another one to real
numbers. -/
def arithmetic (onIntegers : Int → Int → Int) (onReals : Binary64 → Binary64 → Binary64)
    (left right : Cell) : Cell :=
  match left, right with
  | .null, _ => .null
  | _, .null => .null
  | .integer first, .integer second =>
    if fitsWord (onIntegers first second) then .integer (onIntegers first second)
    else ofReal (onReals (realOf first) (realOf second))
  | left, right => ofReal (onReals left.realValue right.realValue)

/-- The quotient of two numbers; of integers it is cut off. -/
def divide (left right : Cell) : Cell :=
  if right ≠ .null ∧ right.realValue.isZero then .null
  else arithmetic Int.tdiv Binary64.div left right

/-- The remainder of two numbers after they are cut off to integers. -/
def remainder (left right : Cell) : Cell :=
  match left.toNumber, right.toNumber with
  | .null, _ => .null
  | _, .null => .null
  | .integer first, .integer second =>
    if second = 0 then .null else .integer (Int.tmod first second)
  | _, _ =>
    if right.wordValue = 0 then .null
    else .real (realOf (Int.tmod left.wordValue right.wordValue))

/-! ## Bits -/

/-- An integer with its bits moved by a count of places: to the left, or to the right where the
count is negative.  Its sign fills in from the left. -/
def shifted (number places : Int) : Int :=
  if places < 0 then number >>> min 64 places.natAbs
  else if 64 ≤ places then 0
  else Int.bmod (number * 2 ^ places.toNat) (2 ^ (64 : Nat))

/-- Applies an operation on integers of 64 bits to two cells, unless one is missing. -/
def onWords (operation : Int → Int → Int) (left right : Cell) : Cell :=
  if left = .null ∨ right = .null then .null
  else .integer (operation left.wordValue right.wordValue)

/-- Applies an operation on bits to two integers of 64 bits. -/
def onBits (operation : BitVec 64 → BitVec 64 → BitVec 64) (left right : Int) : Int :=
  (operation (.ofInt 64 left) (.ofInt 64 right)).toInt

/-- An operation on one cell. -/
def applySign : Sql.Sign → Cell → Cell
  | .not, operand => ofTruth (negate operand.truth?)
  | .negate, operand => arithmetic (· - ·) Binary64.sub (.integer 0) operand.toNumber
  | .keep, operand => operand
  | .complement, .null => .null
  | .complement, operand => .integer (-operand.wordValue - 1)

/-- An operation on two cells, under the affinity and the order of texts of their comparison. -/
def applyOperator (affinity : Affinity) (collation : Collation) (operator : Sql.Operator)
    (left right : Cell) : Except Problem Cell :=
  let compared (holds : Ordering → Bool) : Cell :=
    ofTruth ((compareAs affinity collation left right).map holds)
  match operator with
  | .or => .ok (ofTruth (disjunction [left.truth?, right.truth?]))
  | .and => .ok (ofTruth (conjunction [left.truth?, right.truth?]))
  | .equal => .ok (compared (· == .eq))
  | .notEqual => .ok (compared (· != .eq))
  | .is => .ok (ofTruth (some (same affinity collation left right)))
  | .isNot => .ok (ofTruth (some !(same affinity collation left right)))
  | .like => like right left
  | .less => .ok (compared (· == .lt))
  | .atMost => .ok (compared (· != .gt))
  | .greater => .ok (compared (· == .gt))
  | .atLeast => .ok (compared (· != .lt))
  | .bitAnd => .ok (onWords (onBits (· &&& ·)) left right)
  | .bitOr => .ok (onWords (onBits (· ||| ·)) left right)
  | .shiftLeft => .ok (onWords shifted left right)
  | .shiftRight => .ok (onWords (fun number places => shifted number (-places)) left right)
  | .add => .ok (arithmetic (· + ·) Binary64.add left.toNumber right.toNumber)
  | .subtract => .ok (arithmetic (· - ·) Binary64.sub left.toNumber right.toNumber)
  | .multiply => .ok (arithmetic (· * ·) Binary64.mul left.toNumber right.toNumber)
  | .divide => .ok (divide left.toNumber right.toNumber)
  | .remainder => .ok (remainder left right)
  | .concat => .ok (concat left right)

end Cell

end Database
end TableQuery
