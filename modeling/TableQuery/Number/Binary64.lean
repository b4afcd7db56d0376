/-!
# Binary floating-point numbers of 64 bits

A finite number is a sign, a significand below `2 ^ 53` and a power of two not below
`2 ^ (-1074)`.  Everything is exact integer arithmetic: a quotient of naturals rounds to the
nearest number, a half to the even neighbour, and comparisons bring both sides to one power of two.
-/

namespace TableQuery

-- Powers are those of the core library, whatever else is known.
attribute [local instance (1100)] instPowNat

/-- A binary floating-point number of 64 bits. -/
inductive Binary64 where
  /-- The result of no meaningful operation; it equals nothing, itself included. -/
  | nan
  /-- The two infinities. -/
  | infinite (negative : Bool)
  /-- The number `significand * 2 ^ exponent` with its sign; zero keeps its sign too. -/
  | finite (negative : Bool) (significand : Nat) (exponent : Int)
deriving DecidableEq, Repr, Inhabited

namespace Binary64

/-- The number of bits of a significand. -/
def precision : Nat := 53

/-- The least power of two of a finite number. -/
def leastExponent : Int := -1074

/-- The greatest power of two of a finite number. -/
def greatestExponent : Int := 971

/-- Zero with the given sign. -/
def zero (negative : Bool) : Binary64 :=
  .finite negative 0 leastExponent

/-- The quotient of two naturals rounded to the nearest natural, a half to the even neighbour. -/
def roundHalfEven (numerator denominator : Nat) : Nat :=
  let quotient := numerator / denominator
  let twice := 2 * (numerator % denominator)
  if twice < denominator then quotient
  else if denominator < twice then quotient + 1
  else quotient + quotient % 2

/-- The pair of naturals whose quotient is `numerator / denominator / 2 ^ exponent`. -/
def scaled (numerator denominator : Nat) (exponent : Int) : Nat × Nat :=
  if exponent < 0 then (numerator * 2 ^ (-exponent).toNat, denominator)
  else (numerator, denominator * 2 ^ exponent.toNat)

/-- The power of two at which a positive quotient has a significand of a count of bits. -/
def exponentAt (bits numerator denominator : Nat) : Int :=
  let guess := (numerator.log2 : Int) - denominator.log2 - (bits - 1 : Int)
  let (above, below) := scaled numerator denominator guess
  if above / below < 2 ^ (bits - 1) then guess - 1 else guess

/-- A positive quotient rounded to a significand of a count of bits at a power of two; a
significand that gains a bit moves to the next power. -/
def roundAt (bits numerator denominator : Nat) (exponent : Int) : Nat × Int :=
  let (above, below) := scaled numerator denominator exponent
  let rounded := roundHalfEven above below
  if rounded = 2 ^ bits then (2 ^ (bits - 1), exponent + 1) else (rounded, exponent)

/-- The nearest floating-point number to the quotient of two naturals, with the given sign. -/
def ofRatio (negative : Bool) (numerator denominator : Nat) : Binary64 :=
  if numerator = 0 then zero negative
  else
    let (significand, exponent) := roundAt precision numerator denominator
      (max (exponentAt precision numerator denominator) leastExponent)
    if significand = 0 then zero negative
    else if greatestExponent < exponent then .infinite negative
    else .finite negative significand exponent

/-- The nearest floating-point number to an integer; an integer that is too large has none. -/
def ofInt? (value : Int) : Option Binary64 :=
  match ofRatio (value < 0) value.natAbs 1 with
  | .infinite _ => none
  | number => some number

/-- The nearest floating-point number to `digits * 10 ^ exponent`.  An exponent far outside the
range is settled without computing the power. -/
def ofDecimal (negative : Bool) (digits : Nat) (exponent : Int) : Binary64 :=
  if digits = 0 then zero negative
  else
    let places := (Nat.toDigits 10 digits).length
    if 310 < exponent + places then .infinite negative
    else if exponent + places < -330 then zero negative
    else if exponent < 0 then ofRatio negative digits (10 ^ (-exponent).toNat)
    else ofRatio negative (digits * 10 ^ exponent.toNat) 1

/-- Applies a sign to a natural. -/
def signed (negative : Bool) (magnitude : Nat) : Int :=
  if negative then -magnitude else magnitude

/-- The integer next to a finite number on the side of zero. -/
def truncated (negative : Bool) (significand : Nat) (exponent : Int) : Int :=
  if exponent < 0 then signed negative (significand / 2 ^ (-exponent).toNat)
  else signed negative (significand * 2 ^ exponent.toNat)

/-- The integer that a number is, if it is one. -/
def toInt? : Binary64 → Option Int
  | .finite negative significand exponent =>
    if exponent < 0 ∧ significand % 2 ^ (-exponent).toNat ≠ 0 then none
    else some (truncated negative significand exponent)
  | _ => none

/-- Whether a number is one of the two zeros. -/
def isZero : Binary64 → Bool
  | .finite _ significand _ => significand == 0
  | _ => false

/-- A finite number as a multiple of the least power of two. -/
def inLeastUnits (negative : Bool) (significand : Nat) (exponent : Int) : Int :=
  signed negative (significand * 2 ^ (exponent - leastExponent).toNat)

/-- The order of two numbers, and none as soon as one of them is no number. -/
def order : Binary64 → Binary64 → Option Ordering
  | .nan, _ => none
  | _, .nan => none
  | .infinite left, .infinite right =>
    some (if left = right then .eq else if left then .lt else .gt)
  | .infinite left, .finite .. => some (if left then .lt else .gt)
  | .finite .., .infinite right => some (if right then .gt else .lt)
  | .finite left significand exponent, .finite right significand' exponent' =>
    some (compare (inLeastUnits left significand exponent)
      (inLeastUnits right significand' exponent'))

/-- The order of a number and an integer, without rounding the integer. -/
def orderInt : Binary64 → Int → Option Ordering
  | .nan, _ => none
  | .infinite negative, _ => some (if negative then .lt else .gt)
  | .finite negative significand exponent, value =>
    some (compare (inLeastUnits negative significand exponent)
      (value * 2 ^ (-leastExponent).toNat))

end Binary64

end TableQuery
