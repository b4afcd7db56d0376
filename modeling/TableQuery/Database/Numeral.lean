import TableQuery.Number.Decimal
import TableQuery.Number.Extended
import TableQuery.Number.Numeral
import TableQuery.Text.Blank

/-!
# Numbers of a database as texts

The engine turns texts into numbers and numbers into texts by arithmetic on extended numbers: a
text is scaled by a power of ten, and a number is brought between one and ten before its fifteen
digits are taken off one by one.  Every step rounds, so either result may be a neighbour of the
nearest one.
-/

namespace TableQuery
namespace Database

-- Powers are those of the core library, whatever else is known.
attribute [local instance (1100)] instPowNat

/-- The greatest integer of 64 bits. -/
def greatestWord : Nat := 2 ^ (63 : Nat) - 1

/-! ## Texts as numbers -/

/-- A significand from which on no further digit is taken. -/
def significandLimit : Nat := (greatestWord - 9) / 10

/-- Takes the digits before the point into a significand, and counts those left out after it has
reached the limit. -/
def takeWhole : Nat → List Nat → Nat × Nat
  | significand, [] => (significand, 0)
  | significand, digit :: rest =>
    let extended := 10 * significand + digit
    if significandLimit ≤ extended then (extended, rest.length) else takeWhole extended rest

/-- Takes the digits after the point into a significand that is below the limit, and counts
them. -/
def takeFraction : Nat → List Nat → Nat × Nat
  | significand, [] => (significand, 0)
  | significand, digit :: rest =>
    if significand < significandLimit then
      let (extended, count) := takeFraction (10 * significand + digit) rest
      (extended, count + 1)
    else (significand, 0)

/-- Multiplies a significand by as much of a power of ten as it has room for, and gives the rest
of the power. -/
def absorbPower : Nat → Nat → Nat × Nat
  | significand, 0 => (significand, 0)
  | significand, power + 1 =>
    if greatestWord / 10 ≤ significand then (significand, power + 1)
    else absorbPower (10 * significand) power

/-- Divides a significand by as much of a power of ten as it is a multiple of, and gives the rest
of the power. -/
def cancelPower : Nat → Nat → Nat × Nat
  | significand, 0 => (significand, 0)
  | significand, power + 1 =>
    if significand % 10 ≠ 0 then (significand, power + 1) else cancelPower (significand / 10) power

/-- The magnitude of the real number nearest to the greatest power of ten that has one. -/
def farPower : Extended := .constant 1 308

/-- A significand times a power of ten.  A power that is too great is applied in two steps. -/
def scaleUp (negative : Bool) (significand power : Nat) : Binary64 :=
  let (significand, power) := absorbPower significand power
  if power = 0 then .ofRatio negative significand 1
  else
    let scaled : Nat → Extended := fun power => (Extended.ofNat significand).mul (.powerOfTen power)
    if power ≤ 307 then (scaled power).toBinary64 negative
    else if power < 342 then
      match (scaled (power - 308)).toBinary64 negative with
      | .finite _ near exponent =>
        let near : Extended := ⟨near, exponent⟩
        .ofRatio negative (near.numerator * farPower.numerator)
          (near.denominator * farPower.denominator)
      | other => other
    else .infinite negative

/-- A significand divided by a power of ten.  A power that is too great is applied in two steps. -/
def scaleDown (negative : Bool) (significand power : Nat) : Binary64 :=
  let (significand, power) := cancelPower significand power
  if power = 0 then .ofRatio negative significand 1
  else
    let scaled : Nat → Extended := fun power => (Extended.ofNat significand).div (.powerOfTen power)
    if power ≤ 307 then (scaled power).toBinary64 negative
    else if power < 342 then
      match (scaled (power - 308)).toBinary64 negative with
      | .finite _ near exponent =>
        let near : Extended := ⟨near, exponent⟩
        .ofRatio negative (near.numerator * farPower.denominator)
          (near.denominator * farPower.numerator)
      | other => other
    else .zero negative

/-- The real number that the engine reads from a written decimal number. -/
def realOfWritten (written : Numeral.Written) : Binary64 :=
  let (whole, dropped) := takeWhole 0 written.whole
  let (significand, taken) := takeFraction whole written.fraction
  let power := max (-10000) (min 10000 written.power) + dropped - taken
  if significand = 0 then .zero written.negative
  else if power < 0 then scaleDown written.negative significand power.natAbs
  else scaleUp written.negative significand power.natAbs

/-! ## Numbers as texts -/

/-- The greatest power of ten that is looked for. -/
def powerLimit : Nat := 350

/-- Raises a scale by a factor of a power of ten as long as it stays at most a number.  The first
argument bounds the count of steps. -/
def raiseScale (number factor : Extended) (power : Nat) : Nat → Extended × Nat → Extended × Nat
  | 0, state => state
  | steps + 1, (scale, total) =>
    if (factor.mul scale).atMost number && total ≤ powerLimit then
      raiseScale number factor power steps (scale.mul factor, total + power)
    else (scale, total)

/-- Raises a number by a factor of a power of ten as long as it is below a bound.  The first
argument bounds the count of steps. -/
def raiseNumber (bound factor : Extended) (power : Nat) : Nat → Extended × Int → Extended × Int
  | 0, state => state
  | steps + 1, (number, total) =>
    if bound.atMost number then (number, total)
    else raiseNumber bound factor power steps (number.mul factor, total - power)

/-- A positive number brought between one and ten, and the power of ten that this takes. -/
def normalized (number : Extended) : Extended × Int :=
  let hundreds := raiseScale number (.constant 1 100) 100 4 (.ofNat 1, 0)
  let tens := raiseScale number (.constant 1 10) 10 40 hundreds
  let (scale, total) := raiseScale number (.ofNat 10) 1 360 tens
  let near := raiseNumber (.constant 1 (-8)) (.constant 1 8) 8 60 (number.div scale, (total : Int))
  raiseNumber (.ofNat 1) (.ofNat 10) 1 10 near

/-- Half a unit of the fifteenth digit. -/
def halfUnit : Extended :=
  let near := Extended.constant 5 (-5)
  let step := Extended.constant 1 (-10)
  .ofBinary64 (.ofRatio false (near.numerator * step.numerator)
    (near.denominator * step.denominator))

/-- A number between one and ten moved up by half a unit, so that its digits can be cut off. -/
def nudged (number : Extended) (power : Int) : Extended × Int :=
  let moved := number.add halfUnit
  if (Extended.ofNat 10).atMost moved then (moved.mul (.constant 1 (-1)), power + 1)
  else (moved, power)

/-- The first digits of a number below ten. -/
def leadingDigits : Nat → Extended → List Nat
  | 0, _ => []
  | count + 1, number => number.floor :: leadingDigits count (number.fraction.mul (.ofNat 10))

/-- The fifteen digits of `significand * 2 ^ exponent`. -/
def fifteenDigits (significand : Nat) (exponent : Int) : Decimal :=
  let (number, power) := normalized ⟨significand, exponent⟩
  let (moved, power) := nudged number power
  ⟨Numeral.positionalValue (leadingDigits 15 moved), power - 14⟩

/-- The engine writes an exponent below `0.0001` and from `10 ^ 15` on, always a point, and no sign
of zero. -/
def realLayout : Decimal.Layout where
  leastPositional := -4
  scientificFrom := 15
  pointBeforeExponent := true
  signedZero := false
  infinity := "Inf"
  nan := "NaN"

/-- The text of a real number. -/
def realText (number : Binary64) : String :=
  Decimal.writeNumber realLayout fifteenDigits number

end Database
end TableQuery
