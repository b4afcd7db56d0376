import TableQuery.Number.Binary64

/-!
# Arithmetic of floating-point numbers

Sums, products and quotients are computed exactly on finite numbers and then rounded.
-/

namespace TableQuery
namespace Binary64

-- Powers are those of the core library, whatever else is known.
attribute [local instance (1100)] instPowNat

/-- The nearest floating-point number to the quotient of an integer and a natural; a quotient that
is zero has the given sign. -/
def ofSignedRatio (zeroSign : Bool) (numerator : Int) (denominator : Nat) : Binary64 :=
  ofRatio (if numerator = 0 then zeroSign else decide (numerator < 0)) numerator.natAbs denominator

/-- The number with the other sign. -/
def neg : Binary64 → Binary64
  | .nan => .nan
  | .infinite negative => .infinite !negative
  | .finite negative significand exponent => .finite (!negative) significand exponent

/-- The sum of two numbers. -/
def add : Binary64 → Binary64 → Binary64
  | .nan, _ => .nan
  | _, .nan => .nan
  | .infinite left, .infinite right => if left = right then .infinite left else .nan
  | .infinite left, .finite .. => .infinite left
  | .finite .., .infinite right => .infinite right
  | .finite left significand exponent, .finite right significand' exponent' =>
    ofSignedRatio (left && right)
      (inLeastUnits left significand exponent + inLeastUnits right significand' exponent')
      (2 ^ (-leastExponent).toNat)

/-- The difference of two numbers. -/
def sub (left right : Binary64) : Binary64 :=
  left.add right.neg

/-- The product of two numbers. -/
def mul : Binary64 → Binary64 → Binary64
  | .nan, _ => .nan
  | _, .nan => .nan
  | .infinite left, .infinite right => .infinite (left != right)
  | .infinite left, .finite right significand _ =>
    if significand = 0 then .nan else .infinite (left != right)
  | .finite left significand _, .infinite right =>
    if significand = 0 then .nan else .infinite (left != right)
  | .finite left significand exponent, .finite right significand' exponent' =>
    let sum := exponent + exponent'
    ofRatio (left != right) (significand * significand' * 2 ^ sum.toNat) (2 ^ (-sum).toNat)

/-- The quotient of two numbers. -/
def div : Binary64 → Binary64 → Binary64
  | .nan, _ => .nan
  | _, .nan => .nan
  | .infinite _, .infinite _ => .nan
  | .infinite left, .finite right .. => .infinite (left != right)
  | .finite left .., .infinite right => zero (left != right)
  | .finite left significand exponent, .finite right significand' exponent' =>
    if significand' = 0 then (if significand = 0 then .nan else .infinite (left != right))
    else
      let difference := exponent - exponent'
      ofRatio (left != right) (significand * 2 ^ difference.toNat)
        (significand' * 2 ^ (-difference).toNat)

/-- The integer next to a number on the side of zero; an infinity is beyond every word. -/
def cutOff : Binary64 → Int
  | .nan => 0
  | .infinite negative => signed negative (2 ^ (64 : Nat))
  | .finite negative significand exponent => truncated negative significand exponent

end Binary64
end TableQuery
