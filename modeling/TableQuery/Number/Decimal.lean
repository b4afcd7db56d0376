import TableQuery.Number.Binary64

/-!
# Decimal digits of floating-point numbers

The digits of a number are chosen on grids of decimal numbers in exact integer arithmetic: either
the fewest digits that read back as the number, or a fixed count of significant digits.  A
`Decimal.Layout` then says how chosen digits are written; the layout of values in texts stands at
the end of this module.
-/

namespace TableQuery

-- Powers are those of the core library, whatever else is known.
attribute [local instance (1100)] instPowNat

/-- The positive number `digits * 10 ^ exponent`. -/
structure Decimal where
  digits : Nat
  exponent : Int
deriving DecidableEq, Repr

namespace Decimal

/-- The pair of naturals whose quotient is `numerator / denominator / 10 ^ exponent`. -/
def scaled (numerator denominator : Nat) (exponent : Int) : Nat × Nat :=
  if exponent < 0 then (numerator * 10 ^ (-exponent).toNat, denominator)
  else (numerator, denominator * 10 ^ exponent.toNat)

/-- The power of ten of the first digit of a positive quotient. -/
def leadingExponent (numerator denominator : Nat) : Int :=
  let guess : Int := (Nat.toDigits 10 numerator).length - (Nat.toDigits 10 denominator).length
  let (above, below) := scaled numerator denominator guess
  if above < below then guess - 1 else guess

/-- The reals that round to one floating-point number, as multiples of `unit = above / below`;
the ends belong to it exactly if `closed`. -/
structure RoundingInterval where
  low : Nat
  middle : Nat
  high : Nat
  above : Nat
  below : Nat
  closed : Bool

/-- The reals that round to `significand * 2 ^ exponent`.  In units of a quarter of the last place
the neighbours are four units away, but only two below a power of two. -/
def RoundingInterval.of (significand : Nat) (exponent : Int) : RoundingInterval :=
  let narrow := significand = 2 ^ (Binary64.precision - 1) ∧ Binary64.leastExponent < exponent
  { low := 4 * significand - (if narrow then 1 else 2)
    middle := 4 * significand
    high := 4 * significand + 2
    above := 2 ^ (exponent - 2).toNat
    below := 2 ^ (2 - exponent).toNat
    closed := significand % 2 = 0 }

/-- Whether `count * 10 ^ exponent` lies in the interval. -/
def RoundingInterval.contains (interval : RoundingInterval) (count : Nat) (exponent : Int) : Bool :=
  let point := count * 10 ^ exponent.toNat * interval.below
  let unit := interval.above * 10 ^ (-exponent).toNat
  if interval.closed then
    decide (interval.low * unit ≤ point) && decide (point ≤ interval.high * unit)
  else decide (interval.low * unit < point) && decide (point < interval.high * unit)

/-- The decimal number of the interval on the grid of multiples of `10 ^ exponent` that is
nearest to its middle, if the grid meets the interval. -/
def RoundingInterval.nearest? (interval : RoundingInterval) (exponent : Int) : Option Decimal :=
  let (above, below) := scaled (interval.middle * interval.above) interval.below exponent
  let floor := above / below
  let nearest := Binary64.roundHalfEven above below
  let other := if nearest = floor then floor + 1 else floor
  if interval.contains nearest exponent then some ⟨nearest, exponent⟩
  else if interval.contains other exponent then some ⟨other, exponent⟩
  else none

/-- The decimal number with the given count of significant digits that is nearest to a positive
quotient. -/
def significant (places numerator denominator : Nat) : Decimal :=
  let exponent := leadingExponent numerator denominator - (places - 1 : Int)
  let (above, below) := scaled numerator denominator exponent
  ⟨Binary64.roundHalfEven above below, exponent⟩

/-- The shortest decimal number that rounds to `significand * 2 ^ exponent`, and of several the
nearest one.  Seventeen digits always suffice. -/
def shortest (significand : Nat) (exponent : Int) : Decimal :=
  let interval := RoundingInterval.of significand exponent
  let numerator := interval.middle * interval.above
  let leading := leadingExponent numerator interval.below
  let grids := (List.range 17).map fun (count : Nat) => leading - (count : Int)
  (grids.findSome? interval.nearest?).getD (significant 17 numerator interval.below)

/-- How digits are written. -/
structure Layout where
  /-- The least power of ten of a first digit that is written without an exponent. -/
  leastPositional : Int
  /-- The least power of ten of a first digit that needs an exponent again. -/
  scientificFrom : Int
  /-- Whether a single digit before an exponent is followed by a point and a zero. -/
  pointBeforeExponent : Bool
  /-- Whether a negative zero keeps its sign. -/
  signedZero : Bool
  /-- The word for an infinity. -/
  infinity : String
  /-- The word for no number. -/
  nan : String

/-- Drops the zeros at the end of a list of digits. -/
def trimZeros (digits : List Char) : List Char :=
  (digits.reverse.dropWhile (· == '0')).reverse

/-- Writes the first digits of a number after which a point always follows. -/
def positional (digits : List Char) (leading : Int) : List Char :=
  if leading < 0 then
    '0' :: '.' :: (List.replicate (-leading - 1).toNat '0' ++ digits)
  else
    let whole := leading.toNat + 1
    let fraction := digits.drop whole
    digits.take whole ++ List.replicate (whole - digits.length) '0' ++
      '.' :: (if fraction.isEmpty then ['0'] else fraction)

/-- Writes a power of ten with its sign and at least two digits. -/
def exponentPart (exponent : Int) : List Char :=
  let digits := Nat.toDigits 10 exponent.natAbs
  'e' :: (if exponent < 0 then '-' else '+') :: (List.replicate (2 - digits.length) '0' ++ digits)

/-- Writes digits with one of them before the point. -/
def scientific (layout : Layout) (digits : List Char) (leading : Int) : List Char :=
  let fraction := digits.drop 1
  let point := if fraction.isEmpty then (if layout.pointBeforeExponent then ['.', '0'] else [])
    else '.' :: fraction
  digits.take 1 ++ point ++ exponentPart leading

/-- Writes a positive decimal number. -/
def write (layout : Layout) (decimal : Decimal) : List Char :=
  let all := Nat.toDigits 10 decimal.digits
  let leading := decimal.exponent + all.length - 1
  let digits := trimZeros all
  if layout.leastPositional ≤ leading ∧ leading < layout.scientificFrom then
    positional digits leading
  else scientific layout digits leading

/-- Writes a number whose digits `choose` selects from its significand and exponent. -/
def writeNumber (layout : Layout) (choose : Nat → Int → Decimal) (number : Binary64) : String :=
  match number with
  | .nan => layout.nan
  | .infinite negative => (if negative then "-" else "") ++ layout.infinity
  | .finite negative significand exponent =>
    if significand = 0 then (if negative && layout.signedZero then "-0.0" else "0.0")
    else
      let digits := write layout (choose significand exponent)
      String.ofList (if negative then '-' :: digits else digits)

/-- Values are written with an exponent below `0.0001` and from `10 ^ 16` on. -/
def valueLayout : Layout where
  leastPositional := -4
  scientificFrom := 16
  pointBeforeExponent := false
  signedZero := true
  infinity := "inf"
  nan := "nan"

end Decimal

/-- The text of a number as a value: its shortest digits. -/
def Binary64.toText (number : Binary64) : String :=
  Decimal.writeNumber Decimal.valueLayout Decimal.shortest number

end TableQuery
