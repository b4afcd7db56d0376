import TableQuery.Proofs.Digits
import TableQuery.Proofs.Margins
import TableQuery.Query.Builder

/-!
# Words for directions

A direction is named by itself or by a text with one of its words, in any case of ASCII letters and
between white space; no letter outside ASCII stands for one of a word.  Whatever is asked for, the
order of a query has one of two keywords.
-/

namespace TableQuery
namespace Text

/-! ## Lower case outside ASCII -/

/-- A character outside ASCII, or the only one in ASCII that is the lower case of such a character by
itself. -/
def IsForeign (c : Char) : Prop :=
  128 ≤ c.toNat ∨ c = 'k'

instance : DecidablePred IsForeign := fun c =>
  inferInstanceAs (Decidable (128 ≤ c.toNat ∨ c = 'k'))

theorem toNat_ofNat
    {code : Nat}
    (valid : code.isValidChar) :
    (Char.ofNat code).toNat = code := by
  rw [Char.ofNat, dif_pos valid]
  rfl

theorem isForeign_of_lowerRules
    {rule : Nat × Nat × Nat × Int}
    (listed : rule ∈ CaseTable.lowerRules)
    {code : Nat}
    (covered : CaseTable.covers rule code) :
    IsForeign (Char.ofNat (code + rule.2.2.2).toNat) := by
  -- All rules but the one for the sign of the kelvin stay outside ASCII, and among the characters.
  have images : ∀ rule ∈ CaseTable.lowerRules,
      (rule.1 = 8490 ∧ rule.2.1 = 8490 ∧ rule.2.2.2 = -8383) ∨
        (128 ≤ rule.1 + rule.2.2.2 ∧ (rule.2.1 + rule.2.2.2 < 0xd800 ∨
          (0xdfff < rule.1 + rule.2.2.2 ∧ rule.2.1 + rule.2.2.2 < 0x110000))) := by decide +kernel
  have bounds : rule.1 ≤ code ∧ code ≤ rule.2.1 := by
    simp only [CaseTable.covers, Bool.and_eq_true, decide_eq_true_eq] at covered
    exact covered.1
  rcases images rule listed with ⟨first, last, shift⟩ | ⟨above, within⟩
  · obtain rfl : code = 8490 := by omega
    rw [shift]
    exact .inr (by decide)
  · have valid : ((code + rule.2.2.2 : Int).toNat).isValidChar := by
      simp only [Nat.isValidChar]
      omega
    refine .inl ?_
    rw [toNat_ofNat valid]
    omega

/-- The lower case of a character outside ASCII has a foreign character. -/
theorem exists_isForeign_lowerChar
    {c : Char}
    (outside : 128 ≤ c.toNat) :
    ∃ d ∈ lowerChar c, IsForeign d := by
  rw [lowerChar, if_neg (by omega), mapCase]
  cases exception : CaseTable.lowerExceptions.lookup c.toNat with
  | some codes =>
      have images : ∀ entry ∈ CaseTable.lowerExceptions,
          ∃ code ∈ entry.2, 128 ≤ code ∧ code.isValidChar := by decide
      obtain ⟨before, after, split, _⟩ := List.lookup_eq_some_iff.mp exception
      obtain ⟨code, member, high, valid⟩ := images (c.toNat, codes) (by simp [split])
      exact ⟨_, List.mem_map_of_mem member, .inl (by rwa [toNat_ofNat valid])⟩
  | none =>
      cases found : CaseTable.lowerRules.find? (CaseTable.covers · c.toNat) with
      | none => exact ⟨c, by simp, .inl outside⟩
      | some rule =>
          have covered : CaseTable.covers rule c.toNat := by simpa using List.find?_some found
          exact ⟨_, by simp,
            isForeign_of_lowerRules (List.mem_of_find?_eq_some found) covered⟩

/-- A character of ASCII has the lower case of its letter, and any other one a foreign character. -/
theorem exists_lowerFrom_cons
    (before : List Char)
    (c : Char)
    (rest : List Char) :
    ∃ image, lowerFrom before (c :: rest) = image ++ lowerFrom (c :: before) rest ∧
      (c.toNat < 128 → image = [lowerAscii c]) ∧ (128 ≤ c.toNat → ∃ d ∈ image, IsForeign d) := by
  by_cases sigma : c = 'Σ'
  · subst sigma
    refine ⟨_, rfl, fun inside => absurd inside (by decide), fun _ => ?_⟩
    refine ⟨_, List.mem_singleton_self _, .inl ?_⟩
    split <;> decide
  · refine ⟨lowerChar c, by rw [lowerFrom, if_neg sigma], fun inside => ?_, fun outside => ?_⟩
    · rw [lowerChar, if_pos inside]
    · exact exists_isForeign_lowerChar outside

/-- A text in lower case is a word without foreign characters if and only if it is this word up to
the case of ASCII letters. -/
theorem lowerFrom_eq_iff
    {word : List Char}
    (plain : ∀ d ∈ word, ¬ IsForeign d)
    (before chars : List Char) :
    lowerFrom before chars = word ↔ chars.map lowerAscii = word := by
  induction chars generalizing before word with
  | nil => rfl
  | cons c rest inductionHypothesis =>
      obtain ⟨image, lowered, ascii, foreign⟩ := exists_lowerFrom_cons before c rest
      rw [lowered, List.map_cons]
      by_cases inside : c.toNat < 128
      · rw [ascii inside, List.singleton_append]
        cases word with
        | nil => simp
        | cons d others =>
            rw [List.cons.injEq, List.cons.injEq,
              inductionHypothesis (List.forall_mem_cons.mp plain).2]
      · refine iff_of_false ?_ ?_
        · intro same
          obtain ⟨d, member, known⟩ := foreign (by omega)
          exact plain d (same ▸ List.mem_append_left _ member) known
        · intro same
          have kept : lowerAscii c = c := if_neg (by omega)
          exact plain c (by rw [← same, kept]; exact List.mem_cons_self) (.inl (by omega))

/-- Letters are no white space. -/
theorem lowerAscii_of_isBlank
    {c : Char}
    (blank : isBlank c) :
    lowerAscii c = c := by
  refine if_neg fun letter => ?_
  simp [isBlank, inRanges, blankRanges] at blank
  omega

end Text

namespace Direction

/-! ## Texts that name directions -/

/-- The words for a direction. -/
def words : Direction → List String
  | .ascending => ["asc", "ascending"]
  | .descending => ["desc", "descending"]

/-- A text names a direction: between white space it has one of the words, in any case of ASCII
letters. -/
def IsNamedBy (direction : Direction) (text : String) : Prop :=
  ∃ front word back, text.toList = front ++ word ++ back ∧ (∀ c ∈ front ++ back, Text.isBlank c) ∧
    String.ofList (word.map Text.lowerAscii) ∈ direction.words

/-- The words have neither foreign characters nor white space. -/
theorem plain_of_mem_words
    {direction : Direction}
    {word : String}
    (known : word ∈ direction.words) :
    ∀ c ∈ word.toList, ¬ Text.IsForeign c ∧ Text.isBlank c = false := by
  have all : ∀ direction : Direction, ∀ word ∈ direction.words, word.toList.all fun c =>
      decide (¬ Text.IsForeign c ∧ Text.isBlank c = false) := by
    rintro (_ | _) <;> decide
  intro c member
  exact of_decide_eq_true (List.all_eq_true.mp (all direction word known) c member)

theorem ofWord?_eq_some_iff
    {word : String}
    {direction : Direction} :
    ofWord? word = some direction ↔ word ∈ direction.words := by
  unfold ofWord?
  cases direction <;> simp only [words, List.mem_cons, List.not_mem_nil, or_false]
  · split
    next known => simpa using known
    next unknown => simp [unknown]
  · split
    next known => rcases known with rfl | rfl <;> decide
    next unknown => simp [or_iff_not_imp_left]

/-- A text in lower case is one of the words if it is one up to the case of ASCII letters. -/
theorem lowerFrom_mem_words_iff
    {chars : List Char}
    {direction : Direction} :
    String.ofList (Text.lowerFrom [] chars) ∈ direction.words ↔
      String.ofList (chars.map Text.lowerAscii) ∈ direction.words := by
  have same {word : String} (known : word ∈ direction.words) :
      String.ofList (Text.lowerFrom [] chars) = word ↔
        String.ofList (chars.map Text.lowerAscii) = word := by
    rw [← String.toList_inj, ← String.toList_inj, String.toList_ofList, String.toList_ofList]
    exact Text.lowerFrom_eq_iff (fun c member => (plain_of_mem_words known c member).1) [] chars
  constructor
  · intro known
    rwa [(same known).mp rfl]
  · intro known
    rwa [(same known).mpr rfl]

/-- What is left of a text without white space around it, in lower case, is a word for the direction
that the text names. -/
theorem ofWord?_eq_some_iff_isNamedBy
    {text : String}
    {direction : Direction} :
    ofWord? (Text.lower (Text.strip text)) = some direction ↔ direction.IsNamedBy text := by
  rw [ofWord?_eq_some_iff, Text.lower, Text.strip, String.toList_ofList, lowerFrom_mem_words_iff]
  constructor
  · intro known
    obtain ⟨front, back, split, around⟩ := Text.exists_stripWith Text.isBlank text.toList
    exact ⟨front, _, back, split, around, known⟩
  · rintro ⟨front, word, back, split, around, known⟩
    have within : ∀ c ∈ word, Text.isBlank c = false := by
      intro c member
      by_contra blank
      have kept := Text.lowerAscii_of_isBlank ((Bool.not_eq_false _).mp blank)
      have listed : c ∈ (String.ofList (word.map Text.lowerAscii)).toList := by
        rw [String.toList_ofList]
        exact List.mem_map.mpr ⟨c, member, kept⟩
      exact blank (plain_of_mem_words known c listed).2
    rw [split, Text.stripWith_append (fun c member => around c (List.mem_append_left back member))
      within (fun c member => around c (List.mem_append_right front member))]
    exact known

/-- A text that names a direction has an s. -/
theorem IsNamedBy.exists_mem
    {direction : Direction}
    {text : String}
    (named : direction.IsNamedBy text) :
    ∃ c ∈ text.toList, Text.lowerAscii c = 's' := by
  obtain ⟨front, word, back, split, _, known⟩ := named
  have all : ∀ direction : Direction, ∀ word ∈ direction.words, 's' ∈ word.toList := by
    rintro (_ | _) <;> decide
  have member := all direction _ known
  rw [String.toList_ofList] at member
  obtain ⟨c, inWord, same⟩ := List.mem_map.mp member
  exact ⟨c, by simp [split, inWord], same⟩

/-- A text that names a direction begins with white space, an a or a d. -/
theorem IsNamedBy.head
    {direction : Direction}
    {text : String}
    (named : direction.IsNamedBy text)
    {c : Char}
    (first : text.toList.head? = some c) :
    Text.isBlank c ∨ Text.lowerAscii c = 'a' ∨ Text.lowerAscii c = 'd' := by
  obtain ⟨front, word, back, split, around, known⟩ := named
  have all : ∀ direction : Direction, ∀ word ∈ direction.words,
      word.toList.head? = some 'a' ∨ word.toList.head? = some 'd' := by
    rintro (_ | _) <;> decide
  have begins := all direction _ known
  rw [String.toList_ofList, List.head?_map] at begins
  rw [split] at first
  cases front with
  | cons blank others =>
      obtain rfl : blank = c := by simpa using first
      exact .inl (around blank (by simp))
  | nil =>
      cases word with
      | nil => simp at begins
      | cons letter others =>
          obtain rfl : letter = c := by simpa using first
          exact .inr (by simpa using begins)

/-! ## Values that name directions -/

/-- The text of a value that counts as true, and the empty text of any other. -/
def textOf (value : Value) : String :=
  if value.truthy then value.display else ""

/-- A value that is no direction names the one that its text names. -/
theorem parse_of_ne
    {value : Value}
    (other : ∀ given, value ≠ .direction given) :
    parse value = (ofWord? (Text.lower (Text.strip (textOf value)))).elim
      (.error (.unknownDirection value)) .ok := by
  unfold parse
  split
  next given => exact absurd rfl (other given)
  next =>
    simp only [textOf]
    cases ofWord? (Text.lower (Text.strip (if value.truthy then value.display else ""))) <;> rfl

theorem parse_of_ne_eq_ok_iff
    {value : Value}
    (other : ∀ given, value ≠ .direction given)
    {direction : Direction} :
    parse value = .ok direction ↔ direction.IsNamedBy (textOf value) := by
  rw [← ofWord?_eq_some_iff_isNamedBy, parse_of_ne other]
  cases ofWord? (Text.lower (Text.strip (textOf value))) <;> simp

/-- A value that names no direction is refused for this reason and for no other. -/
theorem parse_cases (value : Value) :
    (∃ direction, parse value = .ok direction) ∨ parse value = .error (.unknownDirection value) := by
  by_cases given : ∃ direction, value = .direction direction
  · obtain ⟨direction, rfl⟩ := given
    exact .inl ⟨direction, rfl⟩
  · rw [parse_of_ne fun direction same => given ⟨direction, same⟩]
    cases ofWord? (Text.lower (Text.strip (textOf value))) with
    | some direction => exact .inl ⟨direction, rfl⟩
    | none => exact .inr rfl

/-- The characters of the texts of numbers. -/
def IsNumeric (c : Char) : Prop :=
  c.isDigit ∨ c ∈ ['.', '-', '+', 'e', 'i', 'n', 'f', 'a']

/-- A text of numeric characters names no direction. -/
theorem not_isNamedBy_of_isNumeric
    {text : String}
    (numeric : ∀ c ∈ text.toList, IsNumeric c)
    (direction : Direction) :
    ¬ direction.IsNamedBy text := by
  intro named
  obtain ⟨c, member, same⟩ := named.exists_mem
  rcases numeric c member with digit | listed
  · have bounds := Char.isDigit_iff_toNat.mp digit
    simp only [Char.reduceToNat] at bounds
    have kept : Text.lowerAscii c = c := if_neg (by omega)
    rw [kept] at same
    subst same
    exact absurd digit (by decide)
  · have none : ['.', '-', '+', 'e', 'i', 'n', 'f', 'a'].all (Text.lowerAscii · ≠ 's') := by decide
    exact of_decide_eq_true (List.all_eq_true.mp none c listed) same

theorem isNumeric_toDigits
    {number : Nat}
    {c : Char}
    (member : c ∈ Nat.toDigits 10 number) :
    IsNumeric c :=
  .inl (Numeral.isDigit_of_mem_toDigits member)

theorem isNumeric_integerText
    (number : Int) :
    ∀ c ∈ (Numeral.integerText number).toList, IsNumeric c := by
  intro c member
  rw [Numeral.integerText, String.toList_ofList] at member
  split at member
  · rcases List.mem_cons.mp member with rfl | digit
    · exact .inr (by decide)
    · exact isNumeric_toDigits digit
  · exact isNumeric_toDigits member

theorem isNumeric_replicate
    {zeros : Nat}
    {c : Char}
    (member : c ∈ List.replicate zeros '0') :
    IsNumeric c := by
  rw [List.eq_of_mem_replicate member]
  exact .inl (by decide)

theorem isNumeric_positional
    {digits : List Char}
    (numeric : ∀ c ∈ digits, IsNumeric c)
    (leading : Int) :
    ∀ c ∈ Decimal.positional digits leading, IsNumeric c := by
  intro c member
  have point : IsNumeric '.' := .inr (by decide)
  have zero : IsNumeric '0' := .inl (by decide)
  unfold Decimal.positional at member
  split at member
  · simp only [List.mem_cons, List.mem_append] at member
    rcases member with rfl | rfl | zeros | inDigits
    · exact zero
    · exact point
    · exact isNumeric_replicate zeros
    · exact numeric c inDigits
  · simp only [List.mem_append, List.mem_cons] at member
    rcases member with (whole | zeros) | rfl | fraction
    · exact numeric c (List.mem_of_mem_take whole)
    · exact isNumeric_replicate zeros
    · exact point
    · split at fraction
      · rwa [List.mem_singleton.mp fraction]
      · exact numeric c (List.mem_of_mem_drop fraction)

theorem isNumeric_scientific
    {digits : List Char}
    (numeric : ∀ c ∈ digits, IsNumeric c)
    (layout : Decimal.Layout)
    (leading : Int) :
    ∀ c ∈ Decimal.scientific layout digits leading, IsNumeric c := by
  intro c member
  have marks : ∀ mark ∈ ['.', '-', '+', 'e', '0'], IsNumeric mark := by
    simp [IsNumeric]
  unfold Decimal.scientific Decimal.exponentPart at member
  simp only [List.mem_append, List.mem_cons] at member
  rcases member with (whole | point) | rfl | rfl | zeros | exponent
  · exact numeric c (List.mem_of_mem_take whole)
  · split at point
    · split at point
      · rcases List.mem_pair.mp point with rfl | rfl <;> exact marks _ (by simp)
      · cases point
    · rcases List.mem_cons.mp point with rfl | fraction
      · exact marks _ (by simp)
      · exact numeric c (List.mem_of_mem_drop fraction)
  · exact marks _ (by simp)
  · split <;> exact marks _ (by simp)
  · exact isNumeric_replicate zeros
  · exact isNumeric_toDigits exponent

theorem isNumeric_write
    (layout : Decimal.Layout)
    (decimal : Decimal) :
    ∀ c ∈ Decimal.write layout decimal, IsNumeric c := by
  have kept : ∀ c ∈ Decimal.trimZeros (Nat.toDigits 10 decimal.digits), IsNumeric c := by
    intro c member
    rw [Decimal.trimZeros, List.mem_reverse] at member
    exact isNumeric_toDigits (List.mem_reverse.mp ((List.dropWhile_sublist _).mem member))
  unfold Decimal.write
  simp only
  split
  · exact isNumeric_positional kept _
  · exact isNumeric_scientific kept layout _

theorem isNumeric_toText
    (number : Binary64) :
    ∀ c ∈ number.toText.toList, IsNumeric c := by
  have word : ∀ text ∈ ["nan", "inf", "-inf", "0.0", "-0.0"], ∀ c ∈ text.toList, IsNumeric c := by
    simp [IsNumeric]
  unfold Binary64.toText Decimal.writeNumber
  split
  · exact word _ (by simp [Decimal.valueLayout])
  · split <;> exact word _ (by simp [Decimal.valueLayout])
  · split
    · split <;> exact word _ (by simp)
    · intro c member
      rw [String.toList_ofList] at member
      split at member
      · rcases List.mem_cons.mp member with rfl | digit
        · exact .inr (by decide)
        · exact isNumeric_write _ _ c digit
      · exact isNumeric_write _ _ c member

/-- A text that begins neither with white space nor with the first letter of a word names no
direction. -/
theorem not_isNamedBy_of_head
    {text : String}
    {c : Char}
    (first : text.toList.head? = some c)
    (strange : ¬ (Text.isBlank c ∨ Text.lowerAscii c = 'a' ∨ Text.lowerAscii c = 'd'))
    (direction : Direction) :
    ¬ direction.IsNamedBy text :=
  fun named => strange (named.head first)

/-- The texts of other values than directions and texts name no direction. -/
theorem not_isNamedBy_display
    {value : Value}
    (other : value.asText? = none)
    (direction : Direction) :
    ¬ direction.IsNamedBy value.display := by
  cases value with
  | none => exact not_isNamedBy_of_head (c := 'N') (by decide) (by decide) direction
  | bool truth =>
      cases truth
      · exact not_isNamedBy_of_head (c := 'F') (by decide) (by decide) direction
      · exact not_isNamedBy_of_head (c := 'T') (by decide) (by decide) direction
  | int number => exact not_isNamedBy_of_isNumeric (isNumeric_integerText number) direction
  | float number => exact not_isNamedBy_of_isNumeric (isNumeric_toText number) direction
  | bytes content =>
      have first : (Text.quotedBytes content).toList.head? = some 'b' := by
        simp [Text.quotedBytes]
      exact not_isNamedBy_of_head first (by decide) direction
  | list items =>
      have first : ("[" ++ Value.joined (Value.reprAll items) ++ "]").toList.head? = some '[' := by
        simp
      exact not_isNamedBy_of_head first (by decide) direction
  | tuple items =>
      have first : (Value.tupleText (Value.reprAll items)).toList.head? = some '(' := by
        unfold Value.tupleText
        split <;> simp
      exact not_isNamedBy_of_head first (by decide) direction
  | dict entries =>
      have first : ("\x7b" ++ Value.joined (Value.reprEntries entries) ++ "\x7d").toList.head? =
          some '\x7b' := by
        simp
      exact not_isNamedBy_of_head first (by decide) direction
  | stream items =>
      have first : "<list_iterator object>".toList.head? = some '<' := by decide
      exact not_isNamedBy_of_head first (by decide) direction
  | text content => cases other
  | direction given => cases other

/-- A direction is named by itself and by the texts with its words, and by nothing else. -/
theorem parse_eq_ok_iff
    {value : Value}
    {direction : Direction} :
    parse value = .ok direction ↔
      value = .direction direction ∨ ∃ text, value = .text text ∧ direction.IsNamedBy text := by
  by_cases given : ∃ known, value = .direction known
  · obtain ⟨known, rfl⟩ := given
    have own : parse (.direction known) = .ok known := rfl
    simp only [own, Except.ok.injEq, Value.direction.injEq, reduceCtorEq, false_and, exists_false,
      or_false]
  · have other : ∀ known, value ≠ .direction known := fun known same => given ⟨known, same⟩
    rw [parse_of_ne_eq_ok_iff other]
    by_cases text : ∃ content, value = .text content
    · obtain ⟨content, rfl⟩ := text
      have whole : textOf (.text content) = content := by
        by_cases empty : content = ""
        · rw [empty]
          rfl
        · exact if_pos (bne_iff_ne.mpr empty)
      simp [whole]
    · have unnamed : ¬ direction.IsNamedBy (textOf value) := by
        unfold textOf
        split
        · refine not_isNamedBy_display ?_ direction
          cases value with
          | text content => exact absurd ⟨content, rfl⟩ text
          | direction known => exact absurd rfl (other known)
          | _ => rfl
        · exact fun named => by simpa using named.exists_mem
      refine iff_of_false unnamed ?_
      rintro (same | ⟨content, same, _⟩)
      · exact other direction same
      · exact text ⟨content, same⟩

/-! ## Requests for directions -/

/-- A request for the direction of a query: the call for it, or the setter of its specification. -/
inductive Request where
  | order (given : Value)
  | set (given : Value)

namespace Request

/-- The value with which a direction is requested. -/
def given : Request → Value
  | .order given => given
  | .set given => given

/-- The query after a request; one that is refused changes nothing. -/
def apply (driver : Driver state) (setting : Setting state) (builder : Builder) :
    Request → Builder
  | .order given => (builder.apply driver (.order given) setting).1
  | .set given => { builder with spec := (builder.spec.setDirection given).toOption.getD builder.spec }

/-- The direction that the last of some requests has named, or another one if none of them names
any. -/
def lastNamed (requests : List Request) (default : Direction) : Direction :=
  (requests.filterMap fun request => (parse request.given).toOption).getLast?.getD default

theorem lastNamed_cons
    (request : Request)
    (rest : List Request)
    (default : Direction) :
    lastNamed (request :: rest) default =
      lastNamed rest ((parse request.given).toOption.getD default) := by
  rw [lastNamed, lastNamed, List.filterMap_cons]
  cases (parse request.given).toOption with
  | none => rfl
  | some direction => rw [List.getLast?_cons, Option.getD_some, Option.getD_some]

/-- A request changes nothing but the direction, and that only if it names one. -/
theorem apply_eq
    (driver : Driver state)
    (setting : Setting state)
    (builder : Builder)
    (request : Request) :
    apply driver setting builder request =
      { builder with
        spec.sortDirection :=
          (parse request.given).toOption.getD builder.spec.sortDirection } := by
  have setter (value : Value) : (builder.spec.setDirection value).toOption.getD builder.spec =
      { builder.spec with
        sortDirection := (parse value).toOption.getD builder.spec.sortDirection } := by
    unfold Spec.setDirection
    cases parse value <;> rfl
  cases request with
  | set value => rw [apply, setter, given]
  | order value =>
      have called : (builder.apply driver (.order value) setting).1 =
          { builder with spec := (builder.spec.setDirection value).toOption.getD builder.spec } := by
        have edited : Call.edit builder.spec (.order value) = builder.spec.setDirection value := rfl
        rw [Builder.apply, edited]
        cases builder.spec.setDirection value <;> rfl
      rw [apply, called, setter, given]

/-- Requests one after the other change nothing but the direction, to the last one that is named. -/
theorem foldl_apply
    (driver : Driver state)
    (setting : Setting state)
    (requests : List Request)
    (builder : Builder) :
    requests.foldl (apply driver setting) builder =
      { builder with
        spec.sortDirection := lastNamed requests builder.spec.sortDirection } := by
  induction requests generalizing builder with
  | nil => rfl
  | cons request rest inductionHypothesis =>
      rw [List.foldl_cons, inductionHypothesis, apply_eq, lastNamed_cons]

end Request

/-- Another direction changes nothing in what is compiled but the order. -/
theorem compile_withDirection
    (spec : Spec)
    (direction : Direction)
    (escape : Sql.Escape) :
    Sql.compile { spec with sortDirection := direction } escape =
      { escaped := (Sql.compile spec escape).escaped
        outcome := (Sql.compile spec escape).outcome.map fun clauses =>
          { clauses with
            order := "ORDER BY `" ++ spec.sortColumn.display ++ "` " ++ direction.keyword } } := by
  have order : Sql.orderClause { spec with sortDirection := direction } =
      "ORDER BY `" ++ spec.sortColumn.display ++ "` " ++ direction.keyword := by
    rw [← String.toList_inj]
    simp [Sql.orderClause, Sql.quoteName]
  have conditions : Sql.compileWhere { spec with sortDirection := direction } escape =
      Sql.compileWhere spec escape := rfl
  unfold Sql.compile
  rw [order, conditions]
  cases Sql.countClause "LIMIT" spec.limit with
  | error fault => rfl
  | ok limit =>
      cases Sql.countClause "OFFSET" spec.offset with
      | error fault => rfl
      | ok offset =>
          obtain ⟨escaped, _ | filter⟩ := Sql.compileWhere spec escape <;> rfl

/-- The sort directions are a closed language.  A value names a direction if it is one or a text
with one of its words, and otherwise it is refused as the value of a request.  After any requests,
whether they are refused or not, a query is compiled as before, except that its order has the keyword
of the last direction that was named. -/
theorem parse_closed :
    (∀ value direction, parse value = .ok direction ↔
        value = .direction direction ∨ ∃ text, value = .text text ∧ direction.IsNamedBy text) ∧
      (∀ value, ((∃ direction, parse value = .ok direction) ∨
        parse value = .error (.unknownDirection value)) ∧
          (Fault.unknownDirection value).kind = .building) ∧
      ∀ {state : Type} (driver : Driver state) (setting : Setting state) (requests : List Request)
        (builder : Builder) (escape : Sql.Escape),
        ∃ keyword ∈ ["ASC", "DESC"],
          keyword = (Request.lastNamed requests builder.spec.sortDirection).keyword ∧
          Sql.compile (requests.foldl (Request.apply driver setting) builder).spec escape =
            { escaped := (Sql.compile builder.spec escape).escaped
              outcome := (Sql.compile builder.spec escape).outcome.map fun clauses =>
                { clauses with
                  order := "ORDER BY `" ++ builder.spec.sortColumn.display ++ "` " ++ keyword } } := by
  refine ⟨fun _ _ => parse_eq_ok_iff, fun value => ⟨parse_cases value, rfl⟩, ?_⟩
  intro state driver setting requests builder escape
  refine ⟨_, ?_, rfl, ?_⟩
  · cases Request.lastNamed requests builder.spec.sortDirection <;> decide
  · rw [Request.foldl_apply, compile_withDirection]

end Direction
end TableQuery
