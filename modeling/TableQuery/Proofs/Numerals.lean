import Mathlib.Data.Nat.Digits.Defs
import Mathlib.Data.Rat.Floor
import TableQuery.Proofs.Digits
import TableQuery.Proofs.Sections
import TableQuery.Value.Conversion

/-!
# Counts that values stand for

A text stands for a count if it is a numeral between blanks: digits of any script, perhaps after a
plus sign, with single underscores between digits.  A number stands for its part before the point,
unless it is negative, and everything else stands for zero.
-/

namespace TableQuery
namespace Numeral

/-! ## Digits in groups -/

/-- Characters are digits with these values, with single underscores between some of them. -/
inductive Grouped : List Char → List Nat → Prop where
  | last {c : Char} {value : Nat} (digit : Text.digit? c = some value) : Grouped [c] [value]
  | beside {c : Char} {value : Nat} {rest : List Char} {digits : List Nat}
      (digit : Text.digit? c = some value) (following : Grouped rest digits) :
      Grouped (c :: rest) (value :: digits)
  | apart {c : Char} {value : Nat} {rest : List Char} {digits : List Nat}
      (digit : Text.digit? c = some value) (following : Grouped rest digits) :
      Grouped (c :: '_' :: rest) (value :: digits)

@[simp] theorem digit?_underscore : Text.digit? '_' = none := rfl

namespace Grouped

/-- Digits in groups begin with a digit. -/
theorem exists_head
    {chars : List Char}
    {digits : List Nat}
    (grouped : Grouped chars digits) :
    ∃ c rest, chars = c :: rest ∧ isDigit c := by
  cases grouped with
  | last digit => exact ⟨_, _, rfl, by simp [isDigit, digit]⟩
  | beside digit _ => exact ⟨_, _, rfl, by simp [isDigit, digit]⟩
  | apart digit _ => exact ⟨_, _, rfl, by simp [isDigit, digit]⟩

/-- Digits in groups have nothing but digits and underscores. -/
theorem isDigit_or_underscore
    {chars : List Char}
    {digits : List Nat}
    (grouped : Grouped chars digits)
    {c : Char}
    (member : c ∈ chars) :
    isDigit c ∨ c = '_' := by
  induction grouped with
  | last digit =>
      obtain rfl := List.mem_singleton.mp member
      exact .inl (by simp [isDigit, digit])
  | beside digit _ inductionHypothesis =>
      rcases List.mem_cons.mp member with rfl | inRest
      · exact .inl (by simp [isDigit, digit])
      · exact inductionHypothesis inRest
  | apart digit _ inductionHypothesis =>
      simp only [List.mem_cons] at member
      rcases member with rfl | rfl | inRest
      · exact .inl (by simp [isDigit, digit])
      · exact .inr rfl
      · exact inductionHypothesis inRest

/-- Digits without underscores are in one group. -/
theorem of_forall
    {chars : List Char}
    {value : Char → Nat}
    (digits : ∀ c ∈ chars, Text.digit? c = some (value c))
    (nonempty : chars ≠ []) :
    Grouped chars (chars.map value) := by
  induction chars with
  | nil => exact absurd rfl nonempty
  | cons c rest inductionHypothesis =>
      have digit := digits c List.mem_cons_self
      cases rest with
      | nil => exact .last digit
      | cons next more =>
          have following := inductionHypothesis
            (fun other member => digits other (List.mem_cons_of_mem c member)) (by simp)
          exact .beside digit following

/-- After the first digit there is nothing, another digit, or an underscore before one. -/
theorem cons_iff
    {c : Char}
    {rest : List Char}
    {digits : List Nat} :
    Grouped (c :: rest) digits ↔
      ∃ value others, Text.digit? c = some value ∧ digits = value :: others ∧
        (rest = [] ∧ others = [] ∨ Grouped rest others ∨
          ∃ more, rest = '_' :: more ∧ Grouped more others) := by
  constructor
  · intro grouped
    cases grouped with
    | last digit => exact ⟨_, _, digit, rfl, .inl ⟨rfl, rfl⟩⟩
    | beside digit following => exact ⟨_, _, digit, rfl, .inr (.inl following)⟩
    | apart digit following => exact ⟨_, _, digit, rfl, .inr (.inr ⟨_, rfl, following⟩)⟩
  · rintro ⟨value, others, digit, rfl, ⟨rfl, rfl⟩ | following | ⟨more, rfl, following⟩⟩
    · exact .last digit
    · exact .beside digit following
    · exact .apart digit following

theorem not_nil (digits : List Nat) : ¬ Grouped [] digits := by
  rintro ⟨⟩

theorem not_underscore_cons
    (rest : List Char)
    (digits : List Nat) :
    ¬ Grouped ('_' :: rest) digits := by
  intro grouped
  obtain ⟨c, more, same, digit⟩ := grouped.exists_head
  obtain ⟨rfl, rfl⟩ := List.cons.inj same
  simp [isDigit] at digit

end Grouped

/-- A character in front of a text without its underscores gives one digit more. -/
theorem mapM_cons_eq_some_iff
    {c : Char}
    {plain? : Option (List Char)}
    {digits : List Nat} :
    (plain?.map (c :: ·)).bind (fun plain => plain.mapM Text.digit?) = some digits ↔
      ∃ value others, Text.digit? c = some value ∧ digits = value :: others ∧
        plain?.bind (fun plain => plain.mapM Text.digit?) = some others := by
  cases plain? with
  | none => simp
  | some plain =>
      simp only [Option.map_some, Option.bind_some, List.mapM_cons, bind, pure,
        Option.bind_eq_some_iff, Option.some.injEq]
      constructor
      · rintro ⟨value, digit, others, following, rfl⟩
        exact ⟨value, others, digit, rfl, following⟩
      · rintro ⟨value, others, digit, rfl, following⟩
        exact ⟨value, digit, others, following, rfl⟩

/-- A text without its underscores consists of digits exactly where the text is empty or has
digits in groups. -/
theorem mapM_ungroup_eq_some_iff
    {chars : List Char}
    {digits : List Nat} :
    (ungroup chars).bind (fun plain => plain.mapM Text.digit?) = some digits ↔
      chars = [] ∧ digits = [] ∨ Grouped chars digits := by
  fun_induction ungroup chars generalizing digits with
  | case1 =>
      have none := Grouped.not_nil digits
      simp [none, eq_comm]
  | case2 rest =>
      have none := Grouped.not_underscore_cons rest digits
      simp [none]
  | case3 c d rest _ _ inductionHypothesis =>
      have none := fun others => Grouped.not_underscore_cons (d :: rest) others
      have first : Grouped (c :: '_' :: d :: rest) digits ↔ _ := Grouped.cons_iff
      simp [mapM_cons_eq_some_iff, inductionHypothesis, first, none]
  | case4 c d rest _ other =>
      have none := fun others => Grouped.not_underscore_cons (d :: rest) others
      suffices apart : ¬ ∃ value others, Text.digit? c = some value ∧ digits = value :: others ∧
          Grouped (d :: rest) others by
        have first : Grouped (c :: '_' :: d :: rest) digits ↔ _ := Grouped.cons_iff
        simpa [first, none] using apart
      rintro ⟨value, others, digit, _, following⟩
      obtain ⟨next, more, same, nextDigit⟩ := following.exists_head
      obtain ⟨rfl, rfl⟩ := List.cons.inj same
      simp [isDigit, digit] at other
      simp [isDigit, other] at nextDigit
  | case5 c rest _ alone inductionHypothesis =>
      have none : ∀ others, ¬ ∃ more, rest = '_' :: more ∧ Grouped more others := by
        rintro others ⟨more, rfl, following⟩
        obtain ⟨next, last, rfl, _⟩ := following.exists_head
        exact alone next last rfl
      simp only [mapM_cons_eq_some_iff, inductionHypothesis, Grouped.cons_iff, none]
      simp

theorem digits?_eq_some_iff
    {chars : List Char}
    {digits : List Nat} :
    digits? chars = some digits ↔ digits ≠ [] ∧ chars.mapM Text.digit? = some digits := by
  cases chars with
  | nil => simp [digits?, eq_comm]
  | cons c rest =>
      simp only [digits?, List.isEmpty_cons, Bool.false_eq_true, if_false, iff_and_self,
        List.mapM_cons, bind, pure, Option.bind_eq_some_iff, Option.some.injEq]
      rintro ⟨value, _, others, _, rfl⟩
      simp

/-- A text without its underscores is read as digits exactly where it has digits in groups. -/
theorem digits?_ungroup_eq_some_iff
    {chars : List Char}
    {digits : List Nat} :
    (ungroup chars).bind digits? = some digits ↔ Grouped chars digits := by
  have values : (ungroup chars).bind digits? = some digits ↔ digits ≠ [] ∧
      (ungroup chars).bind (fun plain => plain.mapM Text.digit?) = some digits := by
    cases ungroup chars <;> simp [digits?_eq_some_iff]
  rw [values, mapM_ungroup_eq_some_iff]
  constructor
  · rintro ⟨some, ⟨_, none⟩ | grouped⟩
    · exact absurd none some
    · exact grouped
  · intro grouped
    refine ⟨?_, .inr grouped⟩
    cases grouped <;> simp

/-- The integers that are read: a sign and digits in groups within the limit. -/
theorem integer?_eq_some_iff
    {chars : List Char}
    {number : Int} :
    integer? chars = some number ↔
      ∃ digits, Grouped (splitSign chars).2 digits ∧ digits.length ≤ digitLimit ∧
        number = Binary64.signed (splitSign chars).1 (positionalValue digits) := by
  have read : integer? chars = ((ungroup (splitSign chars).2).bind digits?).bind fun digits =>
      if digitLimit < digits.length then none
      else some (Binary64.signed (splitSign chars).1 (positionalValue digits)) := by
    simp only [integer?, bind, Option.bind_assoc]
  simp only [read, Option.bind_eq_some_iff (x := (ungroup (splitSign chars).2).bind digits?),
    digits?_ungroup_eq_some_iff, Option.ite_none_left_eq_some, Option.some.injEq, Nat.not_lt,
    eq_comm (b := number)]

/-- A numeral without a minus sign: digits in groups within the limit, perhaps after a plus sign. -/
def IsCount (chars : List Char) (digits : List Nat) : Prop :=
  (Grouped chars digits ∨ ∃ body, chars = '+' :: body ∧ Grouped body digits) ∧
    digits.length ≤ digitLimit

theorem splitSign_of_grouped
    {chars : List Char}
    {digits : List Nat}
    (grouped : Grouped chars digits) :
    splitSign chars = (false, chars) := by
  obtain ⟨c, rest, rfl, digit⟩ := grouped.exists_head
  unfold splitSign
  split
  next same =>
      obtain ⟨rfl, _⟩ := List.cons.inj same
      exact absurd digit (by decide)
  next same =>
      obtain ⟨rfl, _⟩ := List.cons.inj same
      exact absurd digit (by decide)
  next => rfl

/-- A numeral is not negative if and only if it has no minus sign. -/
theorem integer?_eq_some_natCast_iff
    {chars : List Char}
    {number : Nat}
    (positive : 0 < number) :
    integer? chars = some (number : Int) ↔
      ∃ digits, IsCount chars digits ∧ number = positionalValue digits := by
  rw [integer?_eq_some_iff]
  constructor
  · rintro ⟨digits, grouped, short, same⟩
    unfold splitSign at grouped same
    split at grouped <;> simp only [Binary64.signed, if_true, Bool.false_eq_true, if_false] at same
    · omega
    · exact ⟨digits, ⟨.inr ⟨_, rfl, grouped⟩, short⟩, Int.ofNat.inj same⟩
    · exact ⟨digits, ⟨.inl grouped, short⟩, Int.ofNat.inj same⟩
  · rintro ⟨digits, ⟨grouped | ⟨body, rfl, grouped⟩, short⟩, rfl⟩
    · rw [splitSign_of_grouped grouped]
      exact ⟨digits, grouped, short, rfl⟩
    · exact ⟨digits, grouped, short, rfl⟩

/-- The value of digits by position, the last one being the lowest. -/
theorem positionalValue_eq_ofDigits (digits : List Nat) :
    positionalValue digits = Nat.ofDigits 10 digits.reverse := by
  rw [Nat.ofDigits_eq_foldr, List.foldr_reverse]
  simp [positionalValue, Nat.add_comm]

/-- The decimal text of a natural is one group of its digits. -/
theorem grouped_toDigits (number : Nat) :
    Grouped (Nat.toDigits 10 number) (digitsOf number) := by
  refine .of_forall (fun c member => ?_) (by simp)
  have digit := isDigit_of_mem_toDigits member
  have bounds := Char.isDigit_iff_toNat.mp digit
  simp only [Char.reduceToNat] at bounds
  rw [Text.digit?, if_pos (by omega), asciiDigit?_of_isDigit digit]

/-- Zeros in front of digits change nothing. -/
theorem positionalValue_zeros
    (zeros : Nat)
    (digits : List Nat) :
    positionalValue (List.replicate zeros 0 ++ digits) = positionalValue digits := by
  simp [positionalValue_eq_ofDigits, Nat.ofDigits_append_replicate_zero]

end Numeral

/-! ## Blanks around numerals -/

namespace Text

/-- One of the four control characters that separate files, groups, records and units. -/
def IsSeparator (c : Char) : Prop :=
  28 ≤ c.toNat ∧ c.toNat ≤ 31

instance : DecidablePred IsSeparator := fun c =>
  inferInstanceAs (Decidable (28 ≤ c.toNat ∧ c.toNat ≤ 31))

/-- The blanks around a number are all white space but the separators. -/
theorem isNumberBlank_iff (c : Char) :
    isNumberBlank c ↔ isBlank c ∧ ¬ IsSeparator c := by
  have space : c = ' ' ↔ c.toNat = 32 := by
    rw [← Char.toNat_inj]
    rfl
  simp [isNumberBlank, isAsciiBlank, isBlank, inRanges, blankRanges, space, IsSeparator]
  omega

theorem isBlank_of_isDigit
    {c : Char}
    (digit : Numeral.isDigit c) :
    isBlank c = false := by
  -- No ten digits of a script reach into a range of white space.
  have apart : ∀ first ∈ zeroDigits, ∀ range ∈ blankRanges,
      range.2 < first ∨ first + 9 < range.1 := by decide
  rw [isBlank, inRanges, List.any_eq_false]
  intro range listed
  unfold Numeral.isDigit digit? at digit
  split at digit
  · have bounds : 48 ≤ c.toNat ∧ c.toNat ≤ 57 := by simpa [asciiDigit?] using digit
    have clear : ∀ range ∈ blankRanges, range.2 < 48 ∨ 57 < range.1 := by decide
    have := clear range listed
    simp
    omega
  · rw [Option.isSome_map, List.find?_isSome] at digit
    obtain ⟨first, known, within⟩ := digit
    have bounds : first ≤ c.toNat ∧ c.toNat < first + 10 := by simpa using within
    have := apart first known range listed
    simp
    omega

/-- Blanks around a text without blanks are removed. -/
theorem stripWith_append
    {blank : Char → Bool}
    {front body back : List Char}
    (before : ∀ c ∈ front, blank c)
    (within : ∀ c ∈ body, blank c = false)
    (behind : ∀ c ∈ back, blank c) :
    stripWith blank (front ++ body ++ back) = body := by
  rw [stripWith, List.append_assoc, List.dropWhile_append_of_pos before]
  cases body with
  | nil =>
      have none : back.dropWhile blank = [] := List.dropWhile_eq_nil_iff.mpr behind
      simp [none, stripRight]
  | cons c rest =>
      have kept : blank c = false := within c (by simp)
      have mirrored : ∀ other ∈ back.reverse, blank other := by simpa using behind
      rw [List.cons_append, List.dropWhile_cons_of_neg (by simp [kept]), ← List.cons_append,
        stripRight, List.reverse_append, List.dropWhile_append_of_pos mirrored,
        Database.dropWhile_of_forall_not fun other member =>
          within other (List.mem_reverse.mp member),
        List.reverse_reverse]

end Text

/-! ## Truncated numbers -/

namespace Binary64

/-- A finite number as a rational. -/
def rational (negative : Bool) (significand : Nat) (exponent : Int) : ℚ :=
  (if negative then -1 else 1) * (significand * 2 ^ exponent)

/-- The integer next to a rational on the side of zero. -/
def towardZero (value : ℚ) : Int :=
  if 0 ≤ value then ⌊value⌋ else ⌈value⌉

theorem towardZero_neg (value : ℚ) : towardZero (-value) = -towardZero value := by
  rcases lt_trichotomy value 0 with below | rfl | above
  · simp [towardZero, not_le.mpr below, below.le, Int.floor_neg]
  · simp [towardZero]
  · simp [towardZero, not_le.mpr above, above.le, Int.ceil_neg]

theorem towardZero_scaled
    (significand : Nat)
    (exponent : Int) :
    towardZero (significand * 2 ^ exponent) = truncated false significand exponent := by
  have notNegative : (0 : ℚ) ≤ significand * 2 ^ exponent :=
    mul_nonneg (Nat.cast_nonneg _) (zpow_nonneg (by decide) _)
  rw [towardZero, if_pos notNegative]
  by_cases fractional : exponent < 0
  · obtain ⟨places, rfl⟩ : ∃ places : Nat, exponent = -places := ⟨(-exponent).toNat, by omega⟩
    have quotient : (significand * 2 ^ (-(places : Int)) : ℚ) =
        ((significand : Int) : ℚ) / ((2 ^ places : Nat) : ℚ) := by
      rw [zpow_neg, zpow_natCast, div_eq_mul_inv]
      push_cast
      rfl
    rw [quotient, Rat.floor_intCast_div_natCast, truncated, if_pos fractional]
    simp [signed]
  · obtain ⟨places, rfl⟩ := Int.eq_ofNat_of_zero_le (not_lt.mp fractional)
    have whole : (significand * 2 ^ (places : Int) : ℚ) = ((significand * 2 ^ places : Nat) : ℚ) := by
      push_cast
      rw [zpow_natCast]
    rw [whole, Int.floor_natCast, truncated, if_neg fractional]
    simp [signed]

/-- A finite number loses what it has behind the point. -/
theorem truncated_eq
    (negative : Bool)
    (significand : Nat)
    (exponent : Int) :
    truncated negative significand exponent = towardZero (rational negative significand exponent) := by
  cases negative with
  | false => simp [rational, towardZero_scaled]
  | true =>
      have mirrored : truncated true significand exponent = -truncated false significand exponent := by
        unfold truncated
        split <;> simp [signed]
      simp [rational, mirrored, towardZero_scaled, towardZero_neg]

end Binary64

/-! ## Counts -/

namespace Value

open Numeral

/-- A value is converted to an integer, or refused for its type, for its content or for its size. -/
theorem fault_of_toInt
    {value : Value}
    {fault : Fault}
    (refused : value.toInt = .error fault) :
    fault = wrongType ∨ fault = wrongValue ∨ fault = .refused .overflow := by
  have read (result : Option Int) (failed : orWrongValue result = .error fault) :
      fault = wrongValue := by
    cases result with
    | none => exact (Except.error.inj failed).symm
    | some number => simp [orWrongValue] at failed
  cases value with
  | bool truth => cases refused
  | int number => cases refused
  | float number =>
      cases number with
      | nan => exact .inr (.inl (Except.error.inj refused).symm)
      | infinite negative => exact .inr (.inr (Except.error.inj refused).symm)
      | finite negative significand exponent => cases refused
  | text content => exact .inr (.inl (read _ refused))
  | direction given => exact .inr (.inl (read _ refused))
  | bytes content => exact .inr (.inl (read _ refused))
  | none => exact .inl (Except.error.inj refused).symm
  | list items => exact .inl (Except.error.inj refused).symm
  | tuple items => exact .inl (Except.error.inj refused).symm
  | dict entries => exact .inl (Except.error.inj refused).symm
  | stream items => exact .inl (Except.error.inj refused).symm

theorem toCount_text (content : String) :
    (text content).toCount =
      ((integer? (Text.stripWith Text.isNumberBlank content.toList)).map Int.toNat).getD 0 := by
  have read : (text content).toInt =
      orWrongValue (integer? (Text.stripWith Text.isNumberBlank content.toList)) := rfl
  rw [toCount, read]
  cases integer? (Text.stripWith Text.isNumberBlank content.toList) <;> rfl

/-- A text stands for a positive count if and only if it is a numeral of this value. -/
theorem toCount_text_eq_iff
    {content : String}
    {count : Nat}
    (positive : 0 < count) :
    (text content).toCount = count ↔
      ∃ digits, IsCount (Text.stripWith Text.isNumberBlank content.toList) digits ∧
        count = Nat.ofDigits 10 digits.reverse := by
  have reads : (text content).toCount = count ↔
      integer? (Text.stripWith Text.isNumberBlank content.toList) = some (count : Int) := by
    rw [toCount_text]
    cases integer? (Text.stripWith Text.isNumberBlank content.toList) with
    | none => simp [positive.ne]
    | some number =>
        simp
        omega
  simp only [reads, integer?_eq_some_natCast_iff positive, positionalValue_eq_ofDigits]

/-- Digits in groups that are those of a natural after zeros are read, also between blanks. -/
theorem toCount_padded
    {number zeros : Nat}
    {front body back : List Char}
    (grouped : Grouped body (List.replicate zeros 0 ++ digitsOf number))
    (short : zeros + (digitsOf number).length ≤ digitLimit)
    (before : ∀ c ∈ front, Text.isNumberBlank c)
    (behind : ∀ c ∈ back, Text.isNumberBlank c) :
    (text (String.ofList (front ++ body ++ back))).toCount = number := by
  have within : ∀ c ∈ body, Text.isNumberBlank c = false := by
    intro c member
    rcases grouped.isDigit_or_underscore member with digit | rfl
    · have notBlank := Text.isBlank_of_isDigit digit
      rw [← Bool.not_eq_true, Text.isNumberBlank_iff, notBlank]
      simp
    · decide
  have read : integer? body = some (number : Int) := by
    refine integer?_eq_some_iff.mpr ⟨List.replicate zeros 0 ++ digitsOf number, ?_, ?_, ?_⟩
    · rwa [splitSign_of_grouped grouped]
    · simpa using short
    · rw [splitSign_of_grouped grouped, positionalValue_zeros, positionalValue_digitsOf]
      rfl
  rw [toCount_text, String.toList_ofList, Text.stripWith_append before within behind, read]
  rfl

/-- The decimal text of a natural is read back. -/
theorem toCount_display
    {number : Nat}
    (short : (digitsOf number).length ≤ digitLimit) :
    (text (int number).display).toCount = number := by
  have shown : (int number).display = String.ofList (Nat.toDigits 10 number) := by
    rw [← Nat.repr_eq_ofList_toDigits, ← integerText_natCast]
    rfl
  have padded := @toCount_padded number 0 [] _ [] (grouped_toDigits number) (by omega) (by simp)
    (by simp)
  rw [shown]
  simpa using padded

theorem toCount_finite
    (negative : Bool)
    (significand : Nat)
    (exponent : Int) :
    ((float (.finite negative significand exponent)).toCount : Int) =
      max 0 (Binary64.towardZero (Binary64.rational negative significand exponent)) := by
  rw [← Binary64.truncated_eq, max_comm, ← Int.ofNat_toNat]
  rfl

/-- What the counts of values are, where these characters count as blanks around a numeral. -/
structure CountsNumerals (blank : Char → Bool) : Prop where
  /-- A count is its own count. -/
  projects : ∀ value : Value, (int value.toCount).toCount = value.toCount
  /-- Every value has a count: its conversion fails for no other reasons than these, which are
  counted as zero. -/
  absorbs : ∀ (value : Value) (fault : Fault), value.toInt = .error fault →
    value.toCount = 0 ∧
      (fault = wrongType ∨ fault = wrongValue ∨ fault = .refused .overflow)
  /-- The texts with positive counts are the numerals, and their values are positional. -/
  accepts : ∀ (content : String) (count : Nat), 0 < count →
    ((text content).toCount = count ↔
      ∃ digits, IsCount (Text.stripWith blank content.toList) digits ∧
        count = Nat.ofDigits 10 digits.reverse)
  /-- A natural is read back from its decimal text. -/
  printed : ∀ number : Nat, (digitsOf number).length ≤ digitLimit →
    (text (int number).display).toCount = number
  /-- So it is from its digits between blanks, after zeros and in groups. -/
  padded : ∀ (number zeros : Nat) (front body back : List Char),
    Grouped body (List.replicate zeros 0 ++ digitsOf number) →
      zeros + (digitsOf number).length ≤ digitLimit →
        (∀ c ∈ front, blank c) → (∀ c ∈ back, blank c) →
          (text (String.ofList (front ++ body ++ back))).toCount = number
  /-- A finite number is truncated toward zero. -/
  truncates : ∀ negative significand exponent,
    ((float (.finite negative significand exponent)).toCount : Int) =
      max 0 (Binary64.towardZero (Binary64.rational negative significand exponent))
  infinite : ∀ negative, (float (.infinite negative)).toCount = 0
  nan : (float .nan).toCount = 0
  nothing : none.toCount = 0
  list : ∀ items, (list items).toCount = 0
  tuple : ∀ items, (tuple items).toCount = 0
  dict : ∀ entries, (dict entries).toCount = 0

/-- Counts accept exactly the numerals, between white space without separators. -/
theorem countsNumerals :
    CountsNumerals Text.isNumberBlank ∧
      ∀ c, Text.isNumberBlank c ↔ Text.isBlank c ∧ ¬ Text.IsSeparator c := by
  refine ⟨?_, Text.isNumberBlank_iff⟩
  exact {
    projects := fun value => Int.toNat_natCast value.toCount
    absorbs := fun value fault refused => ⟨by rw [toCount, refused], fault_of_toInt refused⟩
    accepts := fun content count positive => toCount_text_eq_iff positive
    printed := fun number short => toCount_display short
    padded := fun number zeros front body back grouped short before behind =>
      toCount_padded grouped short before behind
    truncates := toCount_finite
    infinite := fun _ => rfl
    nan := rfl
    nothing := rfl
    list := fun _ => rfl
    tuple := fun _ => rfl
    dict := fun _ => rfl }

example : (text "\u00a0+1_2\u0663\n").toCount = 123 := by decide +kernel

/-- A separator of files is white space, but a numeral after it is not read. -/
theorem not_countsNumerals_of_separator : ¬ CountsNumerals Text.isBlank := by
  intro counts
  have numeral : IsCount (Text.stripWith Text.isBlank "\x1c5".toList) [5] :=
    ⟨.inl (.last (by decide)), by decide⟩
  have read := (counts.accepts "\x1c5" 5 (by decide)).mpr ⟨[5], numeral, by decide⟩
  exact absurd read (by decide +kernel)

end Value
end TableQuery
