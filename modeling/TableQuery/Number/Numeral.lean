import TableQuery.Number.Binary64
import TableQuery.Text.Blank
import TableQuery.Text.Digit

/-!
# Numerals

The grammars of integers and of decimal numbers, over lists of characters.  An integer is an
optional sign and digits of any script, with single underscores between digits; a decimal number
may have a point and a power of ten as well.  The value is read off the digits by position.
-/

namespace TableQuery
namespace Numeral

-- Powers are those of the core library, whatever else is known.
attribute [local instance (1100)] instPowNat

/-- The greatest count of digits that is converted between texts and integers. -/
def digitLimit : Nat := 4300

/-- The value of digits by position. -/
def positionalValue (digits : List Nat) : Nat :=
  digits.foldl (fun value digit => 10 * value + digit) 0

/-- Takes the sign from the front of a numeral. -/
def splitSign : List Char → Bool × List Char
  | '-' :: rest => (true, rest)
  | '+' :: rest => (false, rest)
  | chars => (false, chars)

/-- Whether a character is a digit of any script. -/
def isDigit (c : Char) : Bool :=
  (Text.digit? c).isSome

/-- Removes the underscores that stand alone between two digits; any other underscore refuses the
text. -/
def ungroup : List Char → Option (List Char)
  | [] => some []
  | '_' :: _ => none
  | c :: '_' :: d :: rest =>
    if isDigit c && isDigit d then (ungroup (d :: rest)).map (c :: ·) else none
  | c :: rest => (ungroup rest).map (c :: ·)

/-- The digits of a text that holds nothing else, and at least one. -/
def digits? (chars : List Char) : Option (List Nat) :=
  if chars.isEmpty then none else chars.mapM Text.digit?

/-- Reads an integer without blanks around it. -/
def integer? (chars : List Char) : Option Int := do
  let (negative, body) := splitSign chars
  let digits ← digits? (← ungroup body)
  if digitLimit < digits.length then none
  else some (Binary64.signed negative (positionalValue digits))

/-- Writes an integer in decimal. -/
def integerText (number : Int) : String :=
  let digits := Nat.toDigits 10 number.natAbs
  String.ofList (if number < 0 then '-' :: digits else digits)

/-- Whether an integer has too many digits to be written as a text. -/
def isTooLong (number : Int) : Bool :=
  10 ^ digitLimit ≤ number.natAbs

/-- A decimal number as it is written. -/
structure Written where
  negative : Bool
  /-- The digits before the point. -/
  whole : List Nat
  /-- The digits after the point. -/
  fraction : List Nat
  /-- The power of ten that is written at the end. -/
  power : Int
  /-- Whether neither a point nor a power of ten is written. -/
  isInteger : Bool

namespace Written

/-- The digits before and after the point, read as one natural. -/
def digits (written : Written) : Nat :=
  positionalValue (written.whole ++ written.fraction)

/-- The power of ten of the last digit. -/
def exponent (written : Written) : Int :=
  written.power - written.fraction.length

/-- Whether any digit is written before the power of ten. -/
def hasDigits (written : Written) : Bool :=
  !(written.whole.isEmpty && written.fraction.isEmpty)

/-- The floating-point number nearest to a written decimal number. -/
def toBinary64 (written : Written) : Binary64 :=
  Binary64.ofDecimal written.negative written.digits written.exponent

end Written

/-- Takes the digits from the front of a list of characters. -/
def splitDigits (digit? : Char → Option Nat) (chars : List Char) : List Nat × List Char :=
  ((chars.takeWhile fun c => (digit? c).isSome).filterMap digit?,
    chars.dropWhile fun c => (digit? c).isSome)

/-- Takes a power of ten from the front of a list of characters; a mark without digits is none. -/
def splitPower (digit? : Char → Option Nat) (chars : List Char) : Int × List Char :=
  match chars with
  | mark :: rest =>
    let (negative, body) := splitSign rest
    let (digits, after) := splitDigits digit? body
    if (mark = 'e' || mark = 'E') && !digits.isEmpty then
      (Binary64.signed negative (positionalValue digits), after)
    else (0, chars)
  | [] => (0, [])

/-- Takes the longest decimal number from the front of a list of characters. -/
def splitDecimal (digit? : Char → Option Nat) (chars : List Char) : Written × List Char :=
  let (negative, body) := splitSign chars
  let (whole, afterWhole) := splitDigits digit? body
  let (fraction, afterFraction) := match afterWhole with
    | '.' :: rest => splitDigits digit? rest
    | rest => ([], rest)
  let (power, rest) := splitPower digit? afterFraction
  ({ negative, whole, fraction, power, isInteger := afterWhole == rest }, rest)

/-- Reads a decimal number without blanks around it and without underscores. -/
def decimal? (digit? : Char → Option Nat) (chars : List Char) : Option Written :=
  let (written, rest) := splitDecimal digit? chars
  if written.hasDigits && rest.isEmpty then some written else none

/-- Reads the words for the infinities and for no number, in any case. -/
def special? (chars : List Char) : Option Binary64 :=
  let (negative, body) := splitSign chars
  let word := String.ofList (body.map Char.toLower)
  if word = "inf" ∨ word = "infinity" then some (.infinite negative)
  else if word = "nan" then some .nan
  else none

/-- Reads a floating-point number without blanks around it. -/
def float? (chars : List Char) : Option Binary64 :=
  match special? chars with
  | some number => some number
  | none => do
    let plain ← ungroup chars
    let written ← decimal? Text.digit? plain
    some written.toBinary64

end Numeral
end TableQuery
