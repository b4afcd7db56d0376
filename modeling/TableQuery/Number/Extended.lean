import TableQuery.Number.Binary64

/-!
# Extended floating-point numbers

An extended number is not negative, has a significand of 64 bits and a power of two without bounds.
An engine that turns decimal texts into floating-point numbers and back may compute with them in
between: each operation rounds to the nearest extended number, a half to the even neighbour, so a
result that is rounded once more can differ from the nearest one.
-/

namespace TableQuery

-- Powers are those of the core library, whatever else is known.
attribute [local instance (1100)] instPowNat

/-- The number `significand * 2 ^ exponent`. -/
structure Extended where
  significand : Nat
  exponent : Int
deriving DecidableEq, Repr

namespace Extended

/-- The number of bits of a significand. -/
def precision : Nat := 64

/-- The nearest extended number to the quotient of two naturals. -/
def ofRatio (numerator denominator : Nat) : Extended :=
  if numerator = 0 then ⟨0, 0⟩
  else
    let (significand, exponent) := Binary64.roundAt precision numerator denominator
      (Binary64.exponentAt precision numerator denominator)
    ⟨significand, exponent⟩

/-- The nearest extended number to a natural. -/
def ofNat (value : Nat) : Extended :=
  ofRatio value 1

/-- The magnitude of a finite floating-point number, which needs no rounding. -/
def ofBinary64 : Binary64 → Extended
  | .finite _ significand exponent => ⟨significand, exponent⟩
  | _ => ⟨0, 0⟩

/-- The magnitude of the floating-point number nearest to `digits * 10 ^ exponent`. -/
def constant (digits : Nat) (exponent : Int) : Extended :=
  ofBinary64 (Binary64.ofDecimal false digits exponent)

/-- The first of two naturals whose quotient is a number. -/
def numerator (number : Extended) : Nat :=
  number.significand * 2 ^ number.exponent.toNat

/-- The second of two naturals whose quotient is a number. -/
def denominator (number : Extended) : Nat :=
  2 ^ (-number.exponent).toNat

/-- The nearest floating-point number, with a sign. -/
def toBinary64 (negative : Bool) (number : Extended) : Binary64 :=
  Binary64.ofRatio negative number.numerator number.denominator

/-- The rounded sum of two numbers. -/
def add (left right : Extended) : Extended :=
  ofRatio (left.numerator * right.denominator + right.numerator * left.denominator)
    (left.denominator * right.denominator)

/-- The rounded product of two numbers. -/
def mul (left right : Extended) : Extended :=
  ofRatio (left.numerator * right.numerator) (left.denominator * right.denominator)

/-- The rounded quotient of two numbers. -/
def div (left right : Extended) : Extended :=
  ofRatio (left.numerator * right.denominator) (left.denominator * right.numerator)

/-- Whether a number is at most another one. -/
def atMost (left right : Extended) : Bool :=
  left.numerator * right.denominator ≤ right.numerator * left.denominator

/-- The greatest natural that is at most a number. -/
def floor (number : Extended) : Nat :=
  number.numerator / number.denominator

/-- What a number exceeds its floor by, which needs no rounding. -/
def fraction (number : Extended) : Extended :=
  ofRatio (number.numerator % number.denominator) number.denominator

/-- The powers of ten by repeated squaring, from the square that stands for the lowest bit of the
exponent on.  The first argument bounds the count of bits. -/
def powerFrom : Nat → Extended → Extended → Nat → Extended
  | 0, _, result, _ => result
  | bits + 1, square, result, exponent =>
    let result := if exponent % 2 = 1 then result.mul square else result
    if exponent / 2 = 0 then result
    else powerFrom bits (square.mul square) result (exponent / 2)

/-- A power of ten as repeated squaring computes it. -/
def powerOfTen (exponent : Nat) : Extended :=
  powerFrom (exponent.log2 + 1) (ofNat 10) (ofNat 1) exponent

end Extended

end TableQuery
