import Mathlib.Data.List.Basic
import Mathlib.Data.List.TakeWhile
import TableQuery.Number.Numeral

/-!
# Decimal digits of naturals

The decimal text of a natural consists of ASCII digits, has the natural as its value by position,
and is read as a whole by the grammar of decimal numbers.
-/

namespace TableQuery
namespace Numeral

/-- The values of the decimal digits of a natural, the greatest place first. -/
def digitsOf (number : Nat) : List Nat :=
  (Nat.toDigits 10 number).map fun c => c.toNat - '0'.toNat

theorem asciiDigit?_of_isDigit
    {c : Char}
    (digit : c.isDigit) :
    Text.asciiDigit? c = some (c.toNat - '0'.toNat) := by
  have bounds := Char.isDigit_iff_toNat.mp digit
  simp only [Char.reduceToNat] at bounds
  simp [Text.asciiDigit?, bounds.1, bounds.2]

/-- The value by position of the digits of a natural is the natural. -/
@[simp] theorem positionalValue_digitsOf (number : Nat) :
    positionalValue (digitsOf number) = number := by
  have folded : positionalValue (digitsOf number) =
      Nat.ofDigitChars 10 (Nat.toDigits 10 number) 0 := by
    simp [positionalValue, digitsOf, Nat.ofDigitChars_eq_foldl, List.foldl_map]
  rw [folded, Nat.ofDigitChars_ten_toDigits]

/-- Every character of a list of digits has its value. -/
theorem mapM_asciiDigit?
    {chars : List Char}
    (digits : ∀ c ∈ chars, c.isDigit) :
    chars.mapM Text.asciiDigit? = some (chars.map fun c => c.toNat - '0'.toNat) := by
  induction chars with
  | nil => rfl
  | cons c rest inductionHypothesis =>
      have digit := asciiDigit?_of_isDigit (digits c (by simp))
      have others := inductionHypothesis fun other member =>
        digits other (List.mem_cons_of_mem c member)
      simp [digit, others]

theorem filterMap_asciiDigit?
    {chars : List Char}
    (digits : ∀ c ∈ chars, c.isDigit) :
    chars.filterMap Text.asciiDigit? = chars.map fun c => c.toNat - '0'.toNat := by
  rw [List.filterMap_congr fun c member => asciiDigit?_of_isDigit (digits c member)]
  exact congrFun List.filterMap_eq_map chars

theorem isDigit_of_mem_toDigits
    {number : Nat}
    {c : Char}
    (member : c ∈ Nat.toDigits 10 number) :
    c.isDigit :=
  Nat.isDigit_of_mem_toDigits (by decide) (by decide) member

theorem mapM_asciiDigit?_toDigits (number : Nat) :
    (Nat.toDigits 10 number).mapM Text.asciiDigit? = some (digitsOf number) :=
  mapM_asciiDigit? fun _ member => isDigit_of_mem_toDigits member

/-- All characters are taken from the front of the decimal text of a natural. -/
theorem splitDigits_toDigits (number : Nat) :
    splitDigits Text.asciiDigit? (Nat.toDigits 10 number) = (digitsOf number, []) := by
  have digits : ∀ c ∈ Nat.toDigits 10 number, (Text.asciiDigit? c).isSome := by
    intro c member
    simp [asciiDigit?_of_isDigit (isDigit_of_mem_toDigits member)]
  have all : (Nat.toDigits 10 number).takeWhile (fun c => (Text.asciiDigit? c).isSome) =
      Nat.toDigits 10 number := List.takeWhile_eq_self_iff.mpr digits
  have none : (Nat.toDigits 10 number).dropWhile (fun c => (Text.asciiDigit? c).isSome) = [] :=
    List.dropWhile_eq_nil_iff.mpr digits
  have values : (Nat.toDigits 10 number).filterMap Text.asciiDigit? = digitsOf number :=
    filterMap_asciiDigit? fun _ member => isDigit_of_mem_toDigits member
  simp only [splitDigits, all, none, values]

/-- The decimal text of a natural begins with no sign. -/
theorem splitSign_toDigits (number : Nat) :
    splitSign (Nat.toDigits 10 number) = (false, Nat.toDigits 10 number) := by
  have unsigned : ∀ c ∈ Nat.toDigits 10 number, c ≠ '-' ∧ c ≠ '+' := by
    intro c member
    have digit := isDigit_of_mem_toDigits member
    constructor <;> rintro rfl <;> simp [Char.isDigit] at digit
  unfold splitSign
  split
  · rename_i rest equal
    exact absurd rfl (unsigned '-' (by simp [equal])).1
  · rename_i rest equal
    exact absurd rfl (unsigned '+' (by simp [equal])).2
  · rfl

/-- The written form of a natural with a sign: digits, and neither a point nor a power. -/
def writtenInteger (negative : Bool) (number : Nat) : Written where
  negative
  whole := digitsOf number
  fraction := []
  power := 0
  isInteger := true

theorem hasDigits_writtenInteger
    (negative : Bool)
    (number : Nat) :
    (writtenInteger negative number).hasDigits = true := by
  simp [Written.hasDigits, writtenInteger, digitsOf]

/-- The grammar of decimal numbers reads the decimal text of a natural as a whole. -/
theorem decimal?_toDigits (number : Nat) :
    decimal? Text.asciiDigit? (Nat.toDigits 10 number) = some (writtenInteger false number) := by
  have split : splitDecimal Text.asciiDigit? (Nat.toDigits 10 number) =
      (writtenInteger false number, []) := by
    simp [splitDecimal, splitSign_toDigits, splitDigits_toDigits, splitPower, writtenInteger]
  simp [decimal?, split, hasDigits_writtenInteger]

/-- The grammar of decimal numbers reads the decimal text of a natural after a minus sign. -/
theorem decimal?_minus_toDigits (number : Nat) :
    decimal? Text.asciiDigit? ('-' :: Nat.toDigits 10 number) =
      some (writtenInteger true number) := by
  have split : splitDecimal Text.asciiDigit? ('-' :: Nat.toDigits 10 number) =
      (writtenInteger true number, []) := by
    simp [splitDecimal, splitSign, splitDigits_toDigits, splitPower, writtenInteger]
  simp [decimal?, split, hasDigits_writtenInteger]

/-- The text of an integer that is not negative is that of the natural. -/
theorem integerText_natCast (number : Nat) :
    integerText (number : Int) = Nat.repr number := by
  have notNegative : ¬ (number : Int) < 0 := by omega
  simp [integerText, notNegative, Nat.repr_eq_ofList_toDigits]

theorem nul_notMem_integerText (number : Int) : '\x00' ∉ (integerText number).toList := by
  have digits : '\x00' ∉ Nat.toDigits 10 number.natAbs := fun member =>
    absurd (isDigit_of_mem_toDigits member) (by decide)
  unfold integerText
  split <;> simp [digits]

end Numeral
end TableQuery
