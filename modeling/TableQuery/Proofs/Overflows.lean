import TableQuery.Proofs.Magnitudes
import TableQuery.Proofs.Sections

/-!
# Bounds beyond 64 bits

The engine refuses a bound of the rows that is no integer of 64 bits: it reads the digits as a real
number, which is as great as the integer and so is no integer of 64 bits either.
-/

namespace TableQuery
namespace Database

open Binary64

/-! ## Digits of great integers -/

/-- The value of digits that follow a significand. -/
def valueAfter (significand : Nat) (digits : List Nat) : Nat :=
  digits.foldl (fun value digit => 10 * value + digit) significand

theorem valueAfter_lt
    {digits : List Nat}
    (decimal : ∀ digit ∈ digits, digit < 10)
    (significand : Nat) :
    valueAfter significand digits < (significand + 1) * 10 ^ digits.length := by
  induction digits generalizing significand with
  | nil => simp [valueAfter]
  | cons digit rest inductionHypothesis =>
      have small := decimal digit (by simp)
      have below := inductionHypothesis (fun other member =>
        decimal other (List.mem_cons_of_mem digit member)) (10 * significand + digit)
      calc
        valueAfter significand (digit :: rest) = valueAfter (10 * significand + digit) rest := rfl
        _ < (10 * significand + digit + 1) * 10 ^ rest.length := below
        _ ≤ (significand + 1) * 10 * 10 ^ rest.length := Nat.mul_le_mul_right _ (by omega)
        _ = (significand + 1) * 10 ^ (rest.length + 1) := by
          rw [Nat.pow_succ, Nat.mul_assoc, Nat.mul_comm 10]

/-- A significand stands for a natural where the digits that are left out count as zeros. -/
structure StandsFor (significand dropped value : Nat) : Prop where
  great : significandLimit ≤ significand
  above : value < (significand + 1) * 10 ^ dropped
  exact : dropped = 0 → significand = value

/-- The digits of a great natural are taken until the significand has reached its limit. -/
theorem standsFor_takeWhole
    {digits : List Nat}
    (decimal : ∀ digit ∈ digits, digit < 10)
    {significand : Nat}
    (below : significand < significandLimit)
    (great : significandLimit ≤ valueAfter significand digits) :
    StandsFor (takeWhole significand digits).1 (takeWhole significand digits).2
      (valueAfter significand digits) := by
  induction digits generalizing significand with
  | nil => exact absurd great (by simpa [valueAfter] using below)
  | cons digit rest inductionHypothesis =>
      have others : ∀ other ∈ rest, other < 10 := fun other member =>
        decimal other (List.mem_cons_of_mem digit member)
      simp only [takeWhole]
      split
      · rename_i reached
        refine ⟨reached, valueAfter_lt others (10 * significand + digit), fun none => ?_⟩
        rw [List.length_eq_zero_iff.mp none]
        rfl
      · rename_i early
        exact inductionHypothesis others (by omega) great

/-! ## Great numbers that are read -/

theorem greatestWord_div_ten : greatestWord / 10 = 922337203685477580 := by
  decide

theorem significandLimit_eq : significandLimit = 922337203685477579 := by
  decide

theorem atLeast_farPower : farPower.AtLeast (2 ^ 4) := by
  decide +kernel

/-- The least significand that is scaled, at the least power, is rounded up to the limit. -/
theorem atLeast_leastScaled (negative : Bool) :
    (((Extended.ofNat (greatestWord / 10)).mul (.powerOfTen 1)).toBinary64 negative).AtLeast
      (2 ^ 63) := by
  cases negative <;> decide +kernel

/-- A significand with no room for a factor of ten is scaled to a number beyond 64 bits. -/
theorem atLeast_scaled
    (negative : Bool)
    {significand : Nat}
    (great : greatestWord / 10 ≤ significand)
    (power : Nat) :
    (((Extended.ofNat significand).mul (.powerOfTen (power + 1))).toBinary64 negative).AtLeast
      (2 ^ 63) := by
  have word := greatestWord_div_ten
  have scale := Extended.atLeast_powerOfTen (power + 1)
  by_cases least : power = 0 ∧ significand = greatestWord / 10
  · obtain ⟨rfl, rfl⟩ := least
    exact atLeast_leastScaled negative
  refine Extended.atLeast_toBinary64 negative ?_
  by_cases huge : 2 ^ 60 ≤ significand
  · have atLeast : (Extended.ofNat significand).AtLeast (2 ^ 60) :=
      Extended.atLeast_ofRatio Nat.one_pos (by omega)
    have eight : 2 ^ 3 ≤ 2 ^ (3 * (power + 1)) := Nat.pow_le_pow_right two_pos (by omega)
    exact atLeast.mul scale (Nat.mul_le_mul_left (2 ^ 60) eight)
  have atLeast : (Extended.ofNat significand).AtLeast significand :=
    Extended.atLeast_ofNat (by omega)
  by_cases zero : power = 0
  · subst zero
    have ten : (Extended.powerOfTen 1).AtLeast 10 := by decide +kernel
    exact atLeast.mul ten (by omega)
  · have hundred : 2 ^ 6 ≤ 2 ^ (3 * (power + 1)) := Nat.pow_le_pow_right two_pos (by omega)
    exact atLeast.mul scale (le_trans (by omega) (Nat.mul_le_mul_left significand hundred))

/-- A factor of ten is taken into a significand unless there is no room, and one is left over. -/
theorem absorbPower_of_standsFor
    {significand dropped value : Nat}
    (stands : StandsFor significand (dropped + 1) value)
    (beyond : 2 ^ 63 ≤ value) :
    ∃ scaled power, absorbPower significand (dropped + 1) = (scaled, power + 1) ∧
      greatestWord / 10 ≤ scaled := by
  have word := greatestWord_div_ten
  have limit := significandLimit_eq
  have great := stands.great
  by_cases full : greatestWord / 10 ≤ significand
  · exact ⟨significand, dropped, by rw [absorbPower, if_pos full], full⟩
  · cases dropped with
    | zero =>
        have above := stands.above
        omega
    | succ dropped =>
        have fullAfter : greatestWord / 10 ≤ 10 * significand := by omega
        refine ⟨10 * significand, dropped, ?_, fullAfter⟩
        rw [absorbPower, if_neg full, absorbPower, if_pos fullAfter]

/-- A significand that has taken in the whole power is only rounded. -/
theorem scaleUp_of_absorbed
    (negative : Bool)
    {significand power scaled : Nat}
    (absorbed : absorbPower significand power = (scaled, 0)) :
    scaleUp negative significand power = .ofRatio negative scaled 1 := by
  unfold scaleUp
  rw [absorbed]
  exact if_pos rfl

/-- The real number that a significand beyond 64 bits is scaled to is beyond them as well. -/
theorem atLeast_scaleUp
    (negative : Bool)
    {significand dropped value : Nat}
    (stands : StandsFor significand dropped value)
    (beyond : 2 ^ 63 ≤ value) :
    (scaleUp negative significand dropped).AtLeast (2 ^ 63) := by
  cases dropped with
  | zero =>
      have same := stands.exact rfl
      have absorbed : absorbPower significand 0 = (significand, 0) := by rw [absorbPower]
      have enough : 2 ^ 63 * 1 ≤ significand := by omega
      rw [scaleUp_of_absorbed negative absorbed]
      exact Binary64.atLeast_ofRatio negative Nat.one_pos enough
  | succ dropped =>
      obtain ⟨scaled, power, absorbed, great⟩ := absorbPower_of_standsFor stands beyond
      have far := atLeast_farPower
      unfold scaleUp
      -- The power itself is too great to be computed here.
      generalize farPower = farthest at far
      rw [absorbed]
      simp only [Nat.succ_ne_zero, if_false]
      split
      · exact atLeast_scaled negative great power
      · split
        · have word := greatestWord_div_ten
          have atLeast : (Extended.ofNat scaled).AtLeast (2 ^ 59) :=
            Extended.atLeast_ofRatio Nat.one_pos (by omega)
          have enough : 2 ^ 59 ≤ 2 ^ 59 * 2 ^ (3 * (power + 1 - 308)) :=
            Nat.le_mul_of_pos_right _ (Nat.two_pow_pos _)
          have near := Extended.atLeast_toBinary64 negative
            (atLeast.mul (Extended.atLeast_powerOfTen (power + 1 - 308)) enough)
          split
          · rename_i significand exponent known
            rw [known] at near
            have nearby : Extended.AtLeast ⟨significand, exponent⟩ (2 ^ 59) := near
            exact nearby.product negative far
          · rename_i infinite
            generalize ((Extended.ofNat scaled).mul (.powerOfTen (power + 1 - 308))).toBinary64
              negative = number at near infinite ⊢
            cases number with
            | nan => exact absurd near id
            | infinite negative => trivial
            | finite negative significand exponent => exact absurd rfl (infinite _ _ _)
        · trivial

theorem digitsOf_lt_ten
    {number digit : Nat}
    (member : digit ∈ Numeral.digitsOf number) :
    digit < 10 := by
  obtain ⟨c, known, rfl⟩ := List.mem_map.mp member
  have bounds := Char.isDigit_iff_toNat.mp (Numeral.isDigit_of_mem_toDigits known)
  simp only [Char.reduceToNat] at bounds ⊢
  omega

/-- The real number that is read from the digits of an integer beyond 64 bits is beyond them as
well. -/
theorem atLeast_realOfWritten
    {number : Nat}
    (beyond : 2 ^ 63 ≤ number) :
    (realOfWritten (Numeral.writtenInteger false number)).AtLeast (2 ^ 63) := by
  have limit := significandLimit_eq
  have value : valueAfter 0 (Numeral.digitsOf number) = number :=
    Numeral.positionalValue_digitsOf number
  have stands := standsFor_takeWhole (fun _ member => digitsOf_lt_ten member)
    (by omega : 0 < significandLimit) (by rw [value]; omega)
  rw [value] at stands
  obtain ⟨significand, dropped, taken⟩ : ∃ significand dropped,
    takeWhole 0 (Numeral.digitsOf number) = (significand, dropped) := ⟨_, _, rfl⟩
  rw [taken] at stands
  have nonzero : significand ≠ 0 := by
    have := stands.great
    omega
  have notNegative : ¬ (0 : Int) + dropped - (0 : Nat) < 0 := by omega
  have power : ((0 : Int) + dropped - (0 : Nat)).natAbs = dropped := by omega
  have unscaled : max (-10000) (min 10000 (0 : Int)) = 0 := by decide
  have scaled := atLeast_scaleUp false stands beyond
  simpa only [realOfWritten, Numeral.writtenInteger, taken, takeFraction, nonzero, if_false,
    unscaled, notNegative, power] using scaled

/-- A natural beyond 64 bits counts for nothing. -/
theorem countOf_integerLiteral_of_large
    {number : Nat}
    (beyond : 2 ^ 63 ≤ number) :
    countOf (integerLiteral number) = .error .mismatch := by
  have stripped : Text.stripWith Text.isAsciiBlank (Nat.toDigits 10 number) =
      Nat.toDigits 10 number :=
    stripWith_of_forall_not fun c member =>
      isAsciiBlank_of_isDigit (Numeral.isDigit_of_mem_toDigits member)
  have notWord : fitsWord (number : Int) = false := by
    simp only [fitsWord, Bool.and_eq_false_iff, decide_eq_false_iff_not]
    omega
  have read : Cell.numberOf? (Numeral.integerText number) =
      some (.real (realOfWritten (Numeral.writtenInteger false number))) := by
    have written := digits_writtenInteger false number
    have signed : Binary64.signed false number = number := rfl
    rw [Numeral.integerText_natCast, Nat.repr_eq_ofList_toDigits]
    have whole : (Numeral.writtenInteger false number).isInteger = true := rfl
    have unsigned : (Numeral.writtenInteger false number).negative = false := rfl
    simp only [Cell.numberOf?, String.toList_ofList, stripped, Numeral.decimal?_toDigits,
      Option.map_some, Cell.ofWritten, written, whole, unsigned, signed, notWord, Bool.and_false,
      Bool.false_eq_true, if_false]
  have kept : Cell.integral (realOfWritten (Numeral.writtenInteger false number)) =
      .real (realOfWritten (Numeral.writtenInteger false number)) := by
    unfold Cell.integral
    split
    · rename_i whole known
      have great := natAbs_of_toInt? (atLeast_realOfWritten beyond) known
      rw [if_neg (by omega)]
    · rfl
  simp [countOf, integerLiteral, eval, Cell.ofLiteral, read, Cell.asNumber, Cell.store, kept, bind,
    Except.bind, throw, throwThe, MonadExceptOf.throw]

end Database
end TableQuery
