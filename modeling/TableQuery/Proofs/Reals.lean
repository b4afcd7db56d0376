import Mathlib.Algebra.Order.Ring.Int
import Mathlib.Data.Nat.Log
import Mathlib.Tactic.Ring
import TableQuery.Database.Numeral

/-!
# Proper floating-point numbers

Every result of rounding is a proper number: its significand has at most the bits of the precision,
and its power of two is not too small.  A proper number equals an integer in the order of numbers
exactly where it is that integer.
-/

namespace TableQuery
namespace Binary64

/-! ## Rounding -/

theorem roundHalfEven_le
    (numerator denominator : Nat) :
    roundHalfEven numerator denominator ≤ numerator / denominator + 1 := by
  simp only [roundHalfEven]
  split
  · omega
  · split
    · exact le_refl _
    · omega

theorem denominator_scaled_pos
    {denominator : Nat}
    (positive : 0 < denominator)
    (numerator : Nat)
    (exponent : Int) :
    0 < (scaled numerator denominator exponent).2 := by
  unfold scaled
  split
  · exact positive
  · exact Nat.mul_pos positive (Nat.two_pow_pos _)

/-- A scaled quotient lies below a power of two exactly where the quotient does, with both brought
to one power of two that is small enough. -/
theorem scaled_div_lt_iff
    {denominator : Nat}
    (positive : 0 < denominator)
    (numerator bits : Nat)
    {exponent : Int}
    {shift : Nat}
    (enough : 0 ≤ exponent + shift) :
    (scaled numerator denominator exponent).1 / (scaled numerator denominator exponent).2 <
        2 ^ bits ↔
      numerator * 2 ^ shift < denominator * 2 ^ (bits + (exponent + shift).toNat) := by
  rw [Nat.div_lt_iff_lt_mul (denominator_scaled_pos positive numerator exponent)]
  unfold scaled
  split
  · rename_i negative
    have left : 2 ^ shift = 2 ^ (-exponent).toNat * 2 ^ (exponent + shift).toNat := by
      rw [← Nat.pow_add]
      congr 1
      omega
    rw [left, Nat.pow_add, ← Nat.mul_assoc, ← Nat.mul_assoc, Nat.mul_comm (2 ^ bits)]
    exact (Nat.mul_lt_mul_right (Nat.two_pow_pos _)).symm
  · rename_i notNegative
    have right : bits + (exponent + shift).toNat = bits + exponent.toNat + shift := by omega
    have grouped : denominator * 2 ^ (bits + exponent.toNat + shift) =
        2 ^ bits * (denominator * 2 ^ exponent.toNat) * 2 ^ shift := by
      rw [Nat.pow_add, Nat.pow_add, Nat.mul_left_comm (2 ^ bits), ← Nat.mul_assoc]
    rw [right, grouped]
    exact (Nat.mul_lt_mul_right (Nat.two_pow_pos shift)).symm

/-- At its power of two, and at every greater one, a quotient has a significand of the count of
bits. -/
theorem scaled_exponentAt_lt
    {denominator : Nat}
    (positive : 0 < denominator)
    (numerator bits : Nat)
    {exponent : Int}
    (atLeast : exponentAt (bits + 1) numerator denominator ≤ exponent) :
    (scaled numerator denominator exponent).1 / (scaled numerator denominator exponent).2 <
      2 ^ (bits + 1) := by
  obtain ⟨guess, guessed⟩ : ∃ guess : Int,
    guess = (numerator.log2 : Int) - denominator.log2 - bits := ⟨_, rfl⟩
  obtain ⟨shift, far⟩ : ∃ shift : Nat,
      (denominator.log2 : Int) + bits + 1 - exponent ≤ shift ∧
        (denominator.log2 : Int) + bits + 1 ≤ shift :=
    ⟨(denominator.log2 + bits + 1 + (-exponent).toNat : Nat), by omega, by omega⟩
  have fits : numerator * 2 ^ shift <
      denominator * 2 ^ (bits + 1 + (guess + shift).toNat) := by
    calc
      numerator * 2 ^ shift < 2 ^ (numerator.log2 + 1) * 2 ^ shift :=
        (Nat.mul_lt_mul_right (Nat.two_pow_pos shift)).mpr Nat.lt_log2_self
      _ = 2 ^ denominator.log2 * 2 ^ (bits + 1 + (guess + shift).toNat) := by
        rw [← Nat.pow_add, ← Nat.pow_add]
        congr 1
        omega
      _ ≤ denominator * 2 ^ (bits + 1 + (guess + shift).toNat) :=
        Nat.mul_le_mul_right _ (Nat.log2_self_le (Nat.pos_iff_ne_zero.mp positive))
  have known : exponentAt (bits + 1) numerator denominator =
      if (scaled numerator denominator guess).1 / (scaled numerator denominator guess).2 < 2 ^ bits
      then guess - 1 else guess := by
    have places : ((bits + 1 : Nat) : Int) - 1 = bits := by omega
    simp only [exponentAt, places, guessed, Nat.add_sub_cancel]
  rw [scaled_div_lt_iff positive numerator (bits + 1) (by omega : 0 ≤ exponent + shift)]
  refine lt_of_lt_of_le ?_ (Nat.mul_le_mul_left denominator (Nat.pow_le_pow_right (by decide)
    (by omega : bits + 1 +
      (exponentAt (bits + 1) numerator denominator + shift).toNat ≤
        bits + 1 + (exponent + shift).toNat)))
  rw [known]
  split
  · rename_i short
    rw [scaled_div_lt_iff positive numerator bits (by omega : 0 ≤ guess + shift)] at short
    have same : bits + 1 + (guess - 1 + shift).toNat = bits + (guess + shift).toNat := by omega
    rw [same]
    exact short
  · exact fits

/-! ## Proper numbers -/

/-- A number whose significand and power of two are within their bounds, or an infinity. -/
def IsProper : Binary64 → Prop
  | .nan => False
  | .infinite _ => True
  | .finite _ significand exponent => significand < 2 ^ precision ∧ leastExponent ≤ exponent

theorem isProper_zero (negative : Bool) : (zero negative).IsProper :=
  ⟨by decide, le_refl _⟩

/-- Rounding gives a proper number. -/
theorem isProper_ofRatio
    (negative : Bool)
    (numerator : Nat)
    {denominator : Nat}
    (positive : 0 < denominator) :
    (ofRatio negative numerator denominator).IsProper := by
  unfold ofRatio
  split
  · exact isProper_zero negative
  · obtain ⟨exponent, known⟩ : ∃ exponent,
      max (exponentAt precision numerator denominator) leastExponent = exponent := ⟨_, rfl⟩
    have fits := scaled_exponentAt_lt positive numerator 52
      (known ▸ le_max_left _ _ : exponentAt precision numerator denominator ≤ exponent)
    have least : leastExponent ≤ exponent := known ▸ le_max_right _ _
    have rounded := roundHalfEven_le (scaled numerator denominator exponent).1
      (scaled numerator denominator exponent).2
    simp only [known, roundAt]
    by_cases carried : roundHalfEven (scaled numerator denominator exponent).1
        (scaled numerator denominator exponent).2 = 2 ^ precision
    · simp only [carried, if_true]
      split
      · exact isProper_zero negative
      · split
        · trivial
        · exact ⟨by decide, by omega⟩
    · simp only [carried, if_false]
      split
      · exact isProper_zero negative
      · split
        · trivial
        · refine ⟨?_, least⟩
          simp only [precision] at carried ⊢
          omega

/-! ## Integers -/

theorem signed_mul
    (negative : Bool)
    (magnitude factor : Nat) :
    signed negative (magnitude * factor) = signed negative magnitude * factor := by
  cases negative <;> simp [signed]

theorem natAbs_signed
    (negative : Bool)
    (magnitude : Nat) :
    (signed negative magnitude).natAbs = magnitude := by
  cases negative <;> simp [signed]

theorem two_pow_ne_zero (power : Nat) : ((2 ^ power : Nat) : Int) ≠ 0 := by
  exact_mod_cast (Nat.two_pow_pos power).ne'

/-- A finite number is an integer if the powers of two of both can be cancelled. -/
theorem toInt?_finite_eq_some_iff
    (negative : Bool)
    (significand : Nat)
    (exponent value : Int) :
    (finite negative significand exponent).toInt? = some value ↔
      signed negative significand * (2 ^ exponent.toNat : Nat) =
        value * (2 ^ (-exponent).toNat : Nat) := by
  simp only [toInt?, truncated]
  by_cases fractional : exponent < 0
  · have whole : exponent.toNat = 0 := by omega
    rw [whole, Nat.pow_zero, Nat.cast_one, Int.mul_one]
    by_cases exact : significand % 2 ^ (-exponent).toNat = 0
    · have quotient := Nat.div_mul_cancel (Nat.dvd_of_mod_eq_zero exact)
      rw [if_neg (fun both => both.2 exact), if_pos fractional, Option.some_inj]
      conv_rhs => rw [← quotient, signed_mul]
      exact (mul_left_inj' (two_pow_ne_zero _)).symm
    · rw [if_pos ⟨fractional, exact⟩]
      refine iff_of_false (by simp) ?_
      intro equal
      apply exact
      have magnitude := congrArg Int.natAbs equal
      rw [natAbs_signed, Int.natAbs_mul, Int.natAbs_natCast] at magnitude
      rw [magnitude]
      exact Nat.mul_mod_left _ _
  · have whole : (-exponent).toNat = 0 := by omega
    rw [if_neg (fun both => fractional both.1), if_neg fractional, Option.some_inj, whole,
      signed_mul, Nat.pow_zero, Nat.cast_one, Int.mul_one]

/-- Equal products of factors other than zero may stand on either side of an equation. -/
theorem mul_eq_mul_iff_of_eq
    {first second third fourth : Int}
    (equal : first * second = third * fourth)
    (secondNeZero : second ≠ 0)
    (fourthNeZero : fourth ≠ 0)
    (left right : Int) :
    left * first = right * fourth ↔ left * third = right * second := by
  constructor
  · intro known
    apply mul_right_cancel₀ fourthNeZero
    rw [mul_assoc, ← equal, ← mul_assoc, known, mul_right_comm]
  · intro known
    apply mul_right_cancel₀ secondNeZero
    rw [mul_assoc, equal, ← mul_assoc, known, mul_right_comm]

/-- A proper number that equals an integer in the order of numbers is that integer. -/
theorem orderInt_eq_iff
    {number : Binary64}
    (proper : number.IsProper)
    {value : Int} :
    number.orderInt value = some .eq ↔ number.toInt? = some value := by
  cases number with
  | nan => exact absurd proper id
  | infinite negative => cases negative <;> simp [orderInt, toInt?]
  | finite negative significand exponent =>
      obtain ⟨places, all⟩ : ∃ places : Nat, (-leastExponent).toNat = places := ⟨_, rfl⟩
      have least : leastExponent = -(places : Int) := by
        simp only [leastExponent] at all ⊢
        omega
      have bound : -(places : Int) ≤ exponent := least ▸ proper.2
      have units : (exponent - leastExponent).toNat + (-exponent).toNat =
          exponent.toNat + places := by omega
      have powers : ((2 ^ (exponent - leastExponent).toNat : Nat) : Int) *
          (2 ^ (-exponent).toNat : Nat) = (2 ^ exponent.toNat : Nat) * (2 ^ places : Nat) := by
        exact_mod_cast by rw [← Nat.pow_add, ← Nat.pow_add, units]
      have cast : (2 : Int) ^ places = (2 ^ places : Nat) := by
        push_cast
        rfl
      rw [toInt?_finite_eq_some_iff, orderInt, Option.some_inj, compare_eq_iff_eq, inLeastUnits,
        all, signed_mul, cast]
      exact mul_eq_mul_iff_of_eq powers (two_pow_ne_zero _) (two_pow_ne_zero _) _ _

/-- A proper number is not the greatest integer of 64 bits, which has more bits than a
significand. -/
theorem toInt?_ne
    {number : Binary64}
    (proper : number.IsProper) :
    number.toInt? ≠ some (2 ^ 63 - 1) := by
  cases number with
  | nan => exact absurd proper id
  | infinite negative => simp [toInt?]
  | finite negative significand exponent =>
      rw [ne_eq, toInt?_finite_eq_some_iff]
      intro equal
      have magnitude := congrArg Int.natAbs equal
      rw [Int.natAbs_mul, natAbs_signed, Int.natAbs_natCast, Int.natAbs_mul,
        Int.natAbs_natCast] at magnitude
      have small : significand < 2 ^ 53 := proper.1
      by_cases whole : exponent ≤ 0
      · have one : exponent.toNat = 0 := by omega
        have positive := Nat.two_pow_pos (-exponent).toNat
        rw [one, Nat.pow_zero, Nat.mul_one] at magnitude
        have atLeast : (2 ^ 63 - 1 : Int).natAbs ≤ significand :=
          magnitude ▸ Nat.le_mul_of_pos_right _ positive
        omega
      · obtain ⟨lower, next⟩ : ∃ lower, exponent.toNat = lower + 1 := ⟨exponent.toNat - 1, by omega⟩
        have one : (-exponent).toNat = 0 := by omega
        rw [next, one, Nat.pow_succ, ← Nat.mul_assoc] at magnitude
        omega

/-- A proper number and an integer have an order. -/
theorem orderInt_isSome
    {number : Binary64}
    (proper : number.IsProper)
    (value : Int) :
    (number.orderInt value).isSome := by
  cases number with
  | nan => exact absurd proper id
  | infinite negative => rfl
  | finite negative significand exponent => rfl

end Binary64

namespace Database

open Binary64

/-! ## Numbers that are read -/

theorem denominator_pos (number : Extended) : 0 < number.denominator :=
  Nat.two_pow_pos _

theorem numerator_farPower_pos : 0 < farPower.numerator := by
  decide +kernel

theorem isProper_toBinary64
    (negative : Bool)
    (number : Extended) :
    (number.toBinary64 negative).IsProper :=
  isProper_ofRatio negative _ (denominator_pos number)

theorem isProper_product
    (negative : Bool)
    (left right : Extended) :
    (ofRatio negative (left.numerator * right.numerator)
      (left.denominator * right.denominator)).IsProper :=
  isProper_ofRatio negative _ (Nat.mul_pos (denominator_pos left) (denominator_pos right))

theorem isProper_quotient
    (negative : Bool)
    (left : Extended)
    {right : Extended}
    (positive : 0 < right.numerator) :
    (ofRatio negative (left.numerator * right.denominator)
      (left.denominator * right.numerator)).IsProper :=
  isProper_ofRatio negative _ (Nat.mul_pos (denominator_pos left) positive)

theorem isProper_scaleUp
    (negative : Bool)
    (significand power : Nat) :
    (scaleUp negative significand power).IsProper := by
  simp only [scaleUp]
  -- The power itself is too great to be computed here.
  generalize farPower = far
  split
  · exact isProper_ofRatio negative _ Nat.one_pos
  · split
    · exact isProper_toBinary64 negative _
    · split
      · split
        · exact isProper_product negative _ far
        · exact isProper_toBinary64 negative _
      · trivial

theorem isProper_scaleDown
    (negative : Bool)
    (significand power : Nat) :
    (scaleDown negative significand power).IsProper := by
  have positive := numerator_farPower_pos
  simp only [scaleDown]
  generalize farPower = far at positive
  split
  · exact isProper_ofRatio negative _ Nat.one_pos
  · split
    · exact isProper_toBinary64 negative _
    · split
      · split
        · exact isProper_quotient negative _ positive
        · exact isProper_toBinary64 negative _
      · exact isProper_zero negative

/-- A number that is read from its digits is proper. -/
theorem isProper_realOfWritten (written : Numeral.Written) :
    (realOfWritten written).IsProper := by
  simp only [realOfWritten]
  split
  · exact isProper_zero _
  · split
    · exact isProper_scaleDown _ _ _
    · exact isProper_scaleUp _ _ _

end Database
end TableQuery
