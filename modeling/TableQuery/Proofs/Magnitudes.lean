import TableQuery.Proofs.Reals

/-!
# Great numbers

A quotient that is at least a power of two is rounded to a number that is at least this power.  So
an integer that is too great for 64 bits is read as a real number that is too great as well.
-/

namespace TableQuery

/-- Whether an extended number is at least a natural. -/
def Extended.AtLeast (number : Extended) (bound : Nat) : Prop :=
  bound * number.denominator ≤ number.numerator

/-- Whether the magnitude of a number is at least a natural. -/
def Binary64.AtLeast (bound : Nat) : Binary64 → Prop
  | .nan => False
  | .infinite _ => True
  | .finite _ significand exponent => Extended.AtLeast ⟨significand, exponent⟩ bound

instance (number : Extended) (bound : Nat) : Decidable (number.AtLeast bound) :=
  inferInstanceAs (Decidable (bound * number.denominator ≤ number.numerator))

instance (bound : Nat) : (number : Binary64) → Decidable (number.AtLeast bound)
  | .nan => inferInstanceAs (Decidable False)
  | .infinite _ => inferInstanceAs (Decidable True)
  | .finite _ significand exponent =>
    inferInstanceAs (Decidable (Extended.AtLeast ⟨significand, exponent⟩ bound))

theorem Extended.AtLeast.mono
    {number : Extended}
    {least bound : Nat}
    (atLeast : number.AtLeast bound)
    (smaller : least ≤ bound) :
    number.AtLeast least :=
  (Nat.mul_le_mul_right _ smaller).trans atLeast

/-! ## Rounding -/

namespace Binary64

theorem div_le_roundHalfEven
    (numerator denominator : Nat) :
    numerator / denominator ≤ roundHalfEven numerator denominator := by
  simp only [roundHalfEven]
  split
  · exact le_refl _
  · split
    · exact Nat.le_succ _
    · exact Nat.le_add_right _ _

/-- A quotient that is cut off at a power of two is still at least every multiple of this power that
it was at least. -/
theorem atLeast_scaled_div
    {numerator denominator bound : Nat}
    (positive : 0 < denominator)
    (enough : bound * denominator ≤ numerator)
    {exponent : Int}
    (divides : 2 ^ exponent.toNat ∣ bound) :
    Extended.AtLeast
      ⟨(scaled numerator denominator exponent).1 / (scaled numerator denominator exponent).2,
        exponent⟩ bound := by
  unfold Extended.AtLeast Extended.numerator Extended.denominator scaled
  by_cases fractional : exponent < 0
  · have whole : exponent.toNat = 0 := by omega
    simp only [fractional, if_true, whole, Nat.pow_zero, Nat.mul_one]
    rw [Nat.le_div_iff_mul_le positive, Nat.mul_right_comm]
    exact Nat.mul_le_mul_right _ enough
  · have whole : (-exponent).toNat = 0 := by omega
    obtain ⟨times, rfl⟩ := divides
    simp only [fractional, if_false, whole, Nat.pow_zero, Nat.mul_one]
    rw [Nat.mul_comm]
    refine Nat.mul_le_mul_right _ ?_
    rw [Nat.le_div_iff_mul_le (Nat.mul_pos positive (Nat.two_pow_pos _))]
    calc
      times * (denominator * 2 ^ exponent.toNat) = 2 ^ exponent.toNat * times * denominator := by ring
      _ ≤ numerator := enough

/-- A significand that gains a bit stands for the same number at the next power of two. -/
theorem atLeast_carried
    {bits bound : Nat}
    {exponent : Int}
    (atLeast : Extended.AtLeast ⟨2 ^ (bits + 1), exponent⟩ bound) :
    Extended.AtLeast ⟨2 ^ bits, exponent + 1⟩ bound := by
  unfold Extended.AtLeast Extended.numerator Extended.denominator at *
  simp only at *
  by_cases fractional : exponent < 0
  · have shifted : (-exponent).toNat = (-(exponent + 1)).toNat + 1 := by omega
    have same : exponent.toNat = (exponent + 1).toNat := by omega
    rw [shifted, same, Nat.pow_succ, Nat.pow_succ, ← Nat.mul_assoc,
      Nat.mul_right_comm (2 ^ bits)] at atLeast
    exact Nat.le_of_mul_le_mul_right atLeast two_pos
  · have shifted : (exponent + 1).toNat = exponent.toNat + 1 := by omega
    have whole : (-exponent).toNat = 0 := by omega
    have stillWhole : (-(exponent + 1)).toNat = 0 := by omega
    rw [whole, Nat.pow_succ, Nat.mul_assoc] at atLeast
    rw [stillWhole, shifted, Nat.pow_succ, Nat.mul_comm (2 ^ exponent.toNat)]
    exact atLeast

/-- A rounded quotient is at least every multiple of its power of two that the quotient is at
least. -/
theorem atLeast_roundAt_of_dvd
    {numerator denominator bound : Nat}
    (positive : 0 < denominator)
    (enough : bound * denominator ≤ numerator)
    (bits : Nat)
    {exponent : Int}
    (divides : 2 ^ exponent.toNat ∣ bound) :
    Extended.AtLeast
      ⟨(roundAt (bits + 1) numerator denominator exponent).1,
        (roundAt (bits + 1) numerator denominator exponent).2⟩ bound := by
  have cut := atLeast_scaled_div positive enough divides
  have rounded : Extended.AtLeast
      ⟨roundHalfEven (scaled numerator denominator exponent).1
        (scaled numerator denominator exponent).2, exponent⟩ bound :=
    le_trans cut (Nat.mul_le_mul_right _ (div_le_roundHalfEven _ _))
  simp only [roundAt]
  split
  · rename_i carried
    rw [carried] at rounded
    exact atLeast_carried rounded
  · exact rounded

/-- The power of two of a significand is at most the greatest one in the quotient. -/
theorem exponentAt_le
    (bits numerator denominator : Nat) :
    exponentAt (bits + 2) numerator denominator ≤
      (numerator.log2 : Int) - denominator.log2 - bits - 1 := by
  simp only [exponentAt]
  split <;> omega

/-- A quotient is rounded to at least the powers of two that it is at least, unless too few bits are
left of it. -/
theorem atLeast_roundAt_two_pow
    {numerator denominator power : Nat}
    (positive : 0 < denominator)
    (enough : 2 ^ power * denominator ≤ numerator)
    (bits : Nat)
    {exponent : Int}
    (notHigh : exponent ≤ exponentAt (bits + 2) numerator denominator ∨ exponent ≤ 0) :
    Extended.AtLeast
      ⟨(roundAt (bits + 2) numerator denominator exponent).1,
        (roundAt (bits + 2) numerator denominator exponent).2⟩ (2 ^ power) := by
  by_cases low : exponent ≤ power
  · exact atLeast_roundAt_of_dvd positive enough (bits + 1) (Nat.pow_dvd_pow 2 (by omega))
  · -- The significand has a bit, and its power of two alone is great enough.
    have limited := exponentAt_le bits numerator denominator
    have reached : 2 ^ exponent.toNat * denominator ≤ numerator := by
      have numeratorPositive : numerator ≠ 0 := by
        have := Nat.mul_pos (Nat.two_pow_pos power) positive
        omega
      calc
        2 ^ exponent.toNat * denominator ≤ 2 ^ exponent.toNat * 2 ^ (denominator.log2 + 1) :=
          Nat.mul_le_mul_left _ Nat.lt_log2_self.le
        _ = 2 ^ (exponent.toNat + (denominator.log2 + 1)) := (Nat.pow_add ..).symm
        _ ≤ 2 ^ numerator.log2 := Nat.pow_le_pow_right two_pos (by omega)
        _ ≤ numerator := Nat.log2_self_le numeratorPositive
    refine (atLeast_roundAt_of_dvd positive reached (bits + 1) dvd_rfl).mono ?_
    exact Nat.pow_le_pow_right two_pos (by omega)

theorem atLeast_ofRatio
    (negative : Bool)
    {numerator denominator power : Nat}
    (positive : 0 < denominator)
    (enough : 2 ^ power * denominator ≤ numerator) :
    (ofRatio negative numerator denominator).AtLeast (2 ^ power) := by
  have nonzero : numerator ≠ 0 := by
    have := Nat.mul_pos (Nat.two_pow_pos power) positive
    omega
  obtain ⟨exponent, known⟩ : ∃ exponent,
    max (exponentAt (51 + 2) numerator denominator) leastExponent = exponent := ⟨_, rfl⟩
  have notHigh : exponent ≤ exponentAt (51 + 2) numerator denominator ∨ exponent ≤ 0 := by
    rcases max_choice (exponentAt (51 + 2) numerator denominator) leastExponent with own | least
    · exact .inl (known ▸ own.le)
    · exact .inr (known ▸ least.trans_le (by decide))
  have rounded := atLeast_roundAt_two_pow positive enough 51 notHigh
  have precise : precision = 51 + 2 := rfl
  simp only [ofRatio, nonzero, if_false, precise, known]
  split
  · rename_i lost
    rw [lost] at rounded
    have impossible := (Nat.mul_pos (Nat.two_pow_pos power) (Nat.two_pow_pos _)).trans_le rounded
    simp [Extended.numerator] at impossible
  · split
    · trivial
    · exact rounded

/-- The integer that a great number is, is as great. -/
theorem natAbs_of_toInt?
    {number : Binary64}
    {bound : Nat}
    (atLeast : number.AtLeast bound)
    {whole : Int}
    (known : number.toInt? = some whole) :
    bound ≤ whole.natAbs := by
  cases number with
  | nan => exact absurd atLeast id
  | infinite negative => simp [toInt?] at known
  | finite negative significand exponent =>
      have magnitude := congrArg Int.natAbs ((toInt?_finite_eq_some_iff ..).mp known)
      rw [Int.natAbs_mul, Int.natAbs_mul, natAbs_signed, Int.natAbs_natCast,
        Int.natAbs_natCast] at magnitude
      have enough : bound * 2 ^ (-exponent).toNat ≤ significand * 2 ^ exponent.toNat := atLeast
      rw [magnitude] at enough
      exact Nat.le_of_mul_le_mul_right enough (Nat.two_pow_pos _)

end Binary64

/-! ## Extended numbers -/

namespace Extended

theorem atLeast_ofRatio
    {numerator denominator power : Nat}
    (positive : 0 < denominator)
    (enough : 2 ^ power * denominator ≤ numerator) :
    (ofRatio numerator denominator).AtLeast (2 ^ power) := by
  have nonzero : numerator ≠ 0 := by
    have := Nat.mul_pos (Nat.two_pow_pos power) positive
    omega
  have rounded := Binary64.atLeast_roundAt_two_pow positive enough 62 (.inl le_rfl)
  simpa only [ofRatio, nonzero, if_false, precision] using rounded

/-- A natural of 64 bits needs no rounding. -/
theorem atLeast_ofNat
    {value : Nat}
    (small : value < 2 ^ 64) :
    (ofNat value).AtLeast value := by
  by_cases zero : value = 0
  · simp [AtLeast, zero]
  · have bits : value.log2 < 64 := (Nat.log2_lt zero).mpr small
    have limited := Binary64.exponentAt_le 62 value 1
    have one : Nat.log2 1 = 0 := rfl
    have whole : (Binary64.exponentAt (62 + 2) value 1).toNat = 0 := by omega
    have product : value * 1 ≤ value := (Nat.mul_one value).le
    have rounded := Binary64.atLeast_roundAt_of_dvd Nat.one_pos product 63
      (by rw [whole]; exact one_dvd value)
    simpa only [ofNat, ofRatio, zero, if_false, precision] using rounded

/-- A product of great numbers is great. -/
theorem AtLeast.mul
    {left right : Extended}
    {first second power : Nat}
    (atLeastLeft : left.AtLeast first)
    (atLeastRight : right.AtLeast second)
    (enough : 2 ^ power ≤ first * second) :
    (left.mul right).AtLeast (2 ^ power) := by
  refine atLeast_ofRatio (Nat.mul_pos (Nat.two_pow_pos _) (Nat.two_pow_pos _)) ?_
  calc
    2 ^ power * (left.denominator * right.denominator) ≤
        first * second * (left.denominator * right.denominator) := Nat.mul_le_mul_right _ enough
    _ = first * left.denominator * (second * right.denominator) := by ring
    _ ≤ left.numerator * right.numerator := Nat.mul_le_mul atLeastLeft atLeastRight

/-- Powers by repeated squaring are at least the powers of a lower bound of the base. -/
theorem atLeast_powerFrom
    {square result : Extended}
    {base start bits exponent : Nat}
    (atLeastSquare : square.AtLeast (2 ^ base))
    (atLeastResult : result.AtLeast (2 ^ start))
    (fits : exponent < 2 ^ bits) :
    (powerFrom bits square result exponent).AtLeast (2 ^ (start + base * exponent)) := by
  induction bits generalizing square result base start exponent with
  | zero =>
      obtain rfl : exponent = 0 := by simpa using fits
      exact atLeastResult
  | succ bits inductionHypothesis =>
      have halves : exponent = exponent % 2 + 2 * (exponent / 2) := (Nat.mod_add_div ..).symm
      obtain ⟨next, known, atLeastNext⟩ : ∃ next,
          (if exponent % 2 = 1 then result.mul square else result) = next ∧
            next.AtLeast (2 ^ (start + base * (exponent % 2))) := by
        refine ⟨_, rfl, ?_⟩
        split
        · rename_i odd
          exact atLeastResult.mul atLeastSquare (by rw [odd, Nat.mul_one, Nat.pow_add])
        · rename_i even
          have zero : exponent % 2 = 0 := by omega
          simpa [zero] using atLeastResult
      simp only [powerFrom, known]
      split
      · rename_i last
        have same : exponent % 2 = exponent := by omega
        rwa [same] at atLeastNext
      · have squared : (square.mul square).AtLeast (2 ^ (base + base)) :=
          atLeastSquare.mul atLeastSquare (Nat.pow_add ..).le
        have half : exponent / 2 < 2 ^ bits := by
          rw [Nat.pow_succ] at fits
          omega
        have rest := inductionHypothesis squared atLeastNext half
        have total : start + base * exponent =
            start + base * (exponent % 2) + (base + base) * (exponent / 2) := by
          conv_lhs => rw [halves]
          ring
        rwa [total]

theorem atLeast_powerOfTen (exponent : Nat) :
    (powerOfTen exponent).AtLeast (2 ^ (3 * exponent)) := by
  have ten : (ofNat 10).AtLeast (2 ^ 3) := (atLeast_ofNat (by decide)).mono (by decide)
  have one : (ofNat 1).AtLeast (2 ^ 0) := atLeast_ofNat (by decide)
  have power := atLeast_powerFrom ten one (Nat.lt_log2_self (n := exponent))
  rwa [Nat.zero_add] at power

/-- A product that is rounded once is great if its factors are. -/
theorem AtLeast.product
    (negative : Bool)
    {left right : Extended}
    {first second : Nat}
    (atLeastLeft : left.AtLeast (2 ^ first))
    (atLeastRight : right.AtLeast (2 ^ second)) :
    (Binary64.ofRatio negative (left.numerator * right.numerator)
      (left.denominator * right.denominator)).AtLeast (2 ^ (first + second)) := by
  refine Binary64.atLeast_ofRatio negative
    (Nat.mul_pos (Nat.two_pow_pos _) (Nat.two_pow_pos _)) ?_
  calc
    2 ^ (first + second) * (left.denominator * right.denominator) =
        2 ^ first * left.denominator * (2 ^ second * right.denominator) := by
      rw [Nat.pow_add]
      ring
    _ ≤ left.numerator * right.numerator := Nat.mul_le_mul atLeastLeft atLeastRight

theorem atLeast_toBinary64
    (negative : Bool)
    {number : Extended}
    {power : Nat}
    (atLeast : number.AtLeast (2 ^ power)) :
    (number.toBinary64 negative).AtLeast (2 ^ power) :=
  Binary64.atLeast_ofRatio negative (Nat.two_pow_pos _) atLeast

end Extended

end TableQuery
