import TableQuery.Proofs.Grammar

/-!
# Reading undoes writing

Every reader takes back what has been written from the front of the tokens and leaves the rest.  In
a list of members the rest has to begin with something else than a separator.
-/

namespace TableQuery
namespace Sql

/-! ## Lists of members -/

/-- A reader of members reads a list of them up to the first token that separates none. -/
theorem readSeparated_intercalate
    {read : Reader α}
    {separates : Token → Bool}
    {separator : Token}
    {write : α → List Token}
    {rest : List Token}
    (separated : separates separator)
    (stops : ∀ token ∈ rest.head?, separates token = false)
    {items : List α}
    {bound : Nat}
    (reads : ∀ item ∈ items, ∀ others, read (write item ++ others) = some (item, others))
    (nonempty : items ≠ [])
    (enough : items.length ≤ bound) :
    readSeparated read separates bound ([separator].intercalate (items.map write) ++ rest) =
      some (items, rest) := by
  induction items generalizing bound with
  | nil => exact absurd rfl nonempty
  | cons item others inductionHypothesis =>
      obtain ⟨smaller, rfl⟩ : ∃ smaller, bound = smaller + 1 :=
        ⟨bound - 1, by simp only [List.length_cons] at enough; omega⟩
      have readsItem := reads item (by simp)
      cases others with
      | nil =>
          simp only [List.map_cons, List.map_nil, List.intercalate_singleton, readSeparated,
            readsItem]
          cases rest with
          | nil => rfl
          | cons token tokens =>
              have other : separates token = false := stops token (by simp)
              simp [other]
      | cons next following =>
          have readsOthers := inductionHypothesis
            (fun other member => reads other (List.mem_cons_of_mem item member))
            (by simp)
            (by simp only [List.length_cons] at enough ⊢; omega :
              (next :: following).length ≤ smaller)
          simp only [List.map_cons] at readsOthers
          simp only [List.map_cons, List.intercalate_cons_cons, List.append_assoc,
            List.singleton_append, readSeparated, readsItem]
          simp [separated, readsOthers]

/-- Members that are written with some tokens are at most as many as their tokens. -/
theorem length_le_length_intercalate
    (separator : Token)
    {write : α → List Token}
    {items : List α}
    (written : ∀ item ∈ items, write item ≠ []) :
    items.length ≤ ([separator].intercalate (items.map write)).length := by
  induction items with
  | nil => simp
  | cons item others inductionHypothesis =>
      have positive : 0 < (write item).length :=
        List.length_pos_iff.mpr (written item (by simp))
      have following := inductionHypothesis fun other member =>
        written other (List.mem_cons_of_mem item member)
      cases others with
      | nil => simpa using Nat.one_le_iff_ne_zero.mpr (Nat.ne_of_gt positive)
      | cons next rest =>
          simp only [List.map_cons, List.intercalate_cons_cons, List.length_append,
            List.length_cons, List.length_nil] at following ⊢
          omega

/-- As many members are read as have been written. -/
theorem readAll_intercalate
    {read : Reader α}
    {separates : Token → Bool}
    {separator : Token}
    {write : α → List Token}
    {items : List α}
    (reads : ∀ item ∈ items, ∀ others, read (write item ++ others) = some (item, others))
    (written : ∀ item ∈ items, write item ≠ [])
    (separated : separates separator)
    {rest : List Token}
    (stops : ∀ token ∈ rest.head?, separates token = false)
    (nonempty : items ≠ []) :
    readAll read separates ([separator].intercalate (items.map write) ++ rest) =
      some (items, rest) := by
  refine readSeparated_intercalate separated stops reads nonempty ?_
  rw [List.length_append]
  have := length_le_length_intercalate separator written
  omega

/-- A reader of members stops before a token that separates none. -/
theorem readAll_of_stops
    {read : Reader α}
    {separates : Token → Bool}
    {tokens rest : List Token}
    {token : Token}
    {first : α}
    (reads : read tokens = some (first, token :: rest))
    (nonempty : tokens ≠ [])
    (stops : separates token = false) :
    readAll read separates tokens = some ([first], token :: rest) := by
  obtain ⟨bound, length⟩ : ∃ bound, tokens.length = bound + 1 :=
    ⟨tokens.length - 1, by have := List.length_pos_iff.mpr nonempty; omega⟩
  simp [readAll, length, readSeparated, reads, stops]

/-! ## Conditions -/

theorem readComparator_tokens
    (comparator : Comparator)
    (rest : List Token) :
    readComparator (comparator.tokens ++ rest) = some (comparator, rest) := by
  cases comparator <;> rfl

theorem readComparison_tokens
    (comparison : Comparison)
    (rest : List Token) :
    readComparison (comparison.tokens ++ rest) = some (comparison, rest) := by
  simp [Comparison.tokens, nameToken, readComparison, readComparator_tokens, readLiteral]

theorem Comparison.tokens_ne_nil (comparison : Comparison) : comparison.tokens ≠ [] := by
  simp [Comparison.tokens]

theorem isOr_token : isOr (Connective.token .any) = true := rfl

theorem isAnd_token : isAnd (Connective.token .all) = true := rfl

/-- Comparisons before a parenthesis are read if they are joined by the word that is expected. -/
theorem readParts_intercalate
    {joins : Token → Bool}
    {connective : Connective}
    (joined : joins connective.token)
    (stops : joins (.symbol .closing) = false)
    {parts : List Comparison}
    (nonempty : parts ≠ [])
    (rest : List Token) :
    readParts joins
        ([connective.token].intercalate (parts.map Comparison.tokens) ++
          .symbol .closing :: rest) =
      some (parts, rest) := by
  have stopped : ∀ token ∈ (Token.symbol .closing :: rest).head?, joins token = false := by
    simpa using stops
  have all := readAll_intercalate (fun part _ others => readComparison_tokens part others)
    (fun part _ => part.tokens_ne_nil) joined stopped nonempty
  simp [readParts, all]

/-- Comparisons that are joined by another word than the expected one are not read. -/
theorem readParts_other
    {joins : Token → Bool}
    {connective : Connective}
    (other : joins connective.token = false)
    (first second : Comparison)
    (parts : List Comparison)
    (rest : List Token) :
    readParts joins
        ([connective.token].intercalate ((first :: second :: parts).map Comparison.tokens) ++
          rest) =
      none := by
  have one := readAll_of_stops
    (readComparison_tokens first (connective.token ::
      ([connective.token].intercalate ((second :: parts).map Comparison.tokens) ++ rest)))
    (by simp [Comparison.tokens]) other
  simp only [List.map_cons] at one
  simp only [readParts, List.map_cons, List.intercalate_cons_cons, List.append_assoc,
    List.cons_append, List.nil_append, one]
  cases connective <;> rfl

/-- A group is read back: a word "and" between its parts makes the first of the two attempts
fail. -/
theorem readGroup_intercalate
    {connective : Option Connective}
    {parts : List Comparison}
    (grammatical : (Condition.group connective parts).Grammatical)
    (rest : List Token) :
    readGroup
        ([(connective.getD .any).token].intercalate (parts.map Comparison.tokens) ++
          .symbol .closing :: rest) =
      some (.group connective parts, rest) := by
  cases connective with
  | none =>
      have single : parts.length = 1 := grammatical
      have nonempty : parts ≠ [] := by rintro rfl; simp at single
      simp [readGroup, readParts_intercalate isOr_token rfl nonempty, Condition.ofParts, single]
  | some connective =>
      have several : 2 ≤ parts.length := grammatical
      have nonempty : parts ≠ [] := by rintro rfl; simp at several
      have notSingle : parts.length ≠ 1 := by omega
      cases connective with
      | any =>
          simp [readGroup, readParts_intercalate isOr_token rfl nonempty, Condition.ofParts,
            notSingle]
      | all =>
          obtain ⟨first, second, others, rfl⟩ :
              ∃ first second others, parts = first :: second :: others := by
            rcases parts with _ | ⟨first, _ | ⟨second, others⟩⟩
            · simp at several
            · simp at several
            · exact ⟨first, second, others, rfl⟩
          have notOr : isOr (Connective.token .all) = false := rfl
          have closes : isAnd (.symbol .closing) = false := rfl
          have refused := readParts_other notOr first second others (.symbol .closing :: rest)
          have read := readParts_intercalate isAnd_token closes nonempty rest
          simp only [readGroup, Option.getD_some, refused, read, Option.bind_eq_bind,
            Option.bind_some, Condition.ofParts, notSingle, if_false]

/-- A list of members is read back. -/
theorem readMembership_intercalate
    (negated : Bool)
    (column : String)
    {members : List String}
    (nonempty : members ≠ [])
    (rest : List Token) :
    readMembership negated column
        ([.symbol .comma].intercalate (members.map fun member => [Token.literal member]) ++
          .symbol .closing :: rest) =
      some (.membership negated column members, rest) := by
  have reads : ∀ member ∈ members, ∀ others,
      readLiteral ([Token.literal member] ++ others) = some (member, others) :=
    fun _ _ _ => rfl
  have separated : decide (Token.symbol .comma = .symbol .comma) := by decide
  have stops : ∀ token ∈ (Token.symbol .closing :: rest).head?,
      decide (token = .symbol .comma) = false := by simp
  have all := readAll_intercalate reads (fun _ _ => List.cons_ne_nil _ _) separated stops nonempty
  simp [readMembership, all]

/-- A comparison is no list and no group, so its reader gets all of its tokens. -/
theorem readCondition_comparison
    (part : Comparison)
    (rest : List Token) :
    readCondition (part.tokens ++ rest) = some (.comparison part, rest) := by
  have read := readComparison_tokens part rest
  obtain ⟨column, comparator, value⟩ := part
  cases comparator <;>
    simp_all [Comparison.tokens, Comparator.tokens, nameToken, readCondition]

/-- A condition is read back. -/
theorem readCondition_tokens
    {condition : Condition}
    (grammatical : condition.Grammatical)
    (rest : List Token) :
    readCondition (condition.tokens ++ rest) = some (condition, rest) := by
  cases condition with
  | comparison part => exact readCondition_comparison part rest
  | membership negated column members =>
      have read := readMembership_intercalate negated column grammatical rest
      cases negated <;> simpa [Condition.tokens, nameToken, readCondition] using read
  | constant truth => cases truth <;> simp [Condition.tokens, readCondition]
  | group connective parts =>
      have read := readGroup_intercalate grammatical rest
      simpa [Condition.tokens, readCondition] using read

theorem Condition.tokens_ne_nil (condition : Condition) : condition.tokens ≠ [] := by
  cases condition <;> simp [Condition.tokens, Comparison.tokens]

/-- A filter is read back before a token that is none of its own words. -/
theorem readFilter_tokens
    {conditions : List Condition}
    (grammatical : ∀ condition ∈ conditions, condition.Grammatical)
    (text : String)
    (rest : List Token) :
    readFilter (filterTokens conditions ++ .keyword .order text :: rest) =
      some (conditions, .keyword .order text :: rest) := by
  cases conditions with
  | nil => rfl
  | cons condition others =>
      have stops : ∀ token ∈ (Token.keyword .order text :: rest).head?, isAnd token = false := by
        simp [isAnd]
      have all := readAll_intercalate
        (fun item member following => readCondition_tokens (grammatical item member) following)
        (fun item _ => item.tokens_ne_nil) isAnd_token stops (List.cons_ne_nil condition others)
      simpa [filterTokens, readFilter] using all

/-! ## Sections -/

/-- The decimal text of a natural is read as the natural. -/
@[simp] theorem naturalOf?_repr (number : Nat) : naturalOf? number.repr = some number := by
  simp [naturalOf?, Nat.repr_eq_ofList_toDigits, Numeral.mapM_asciiDigit?_toDigits]

/-- An integer is read back. -/
theorem readInteger_tokens
    (number : Int)
    (rest : List Token) :
    readInteger (integerTokens number ++ rest) = some (number, rest) := by
  cases number with
  | ofNat number => simp [integerTokens, readInteger]
  | negSucc number => simp [integerTokens, readInteger, Int.negSucc_eq]

/-- A section is read back if it is not bare of a bound for what is left. -/
theorem readSection_tokens
    {limit offset : Option Int}
    (bounded : offset.isSome → limit.isSome) :
    readSection (sectionTokens limit offset) = some (limit, offset) := by
  cases limit with
  | none =>
      cases offset with
      | none => rfl
      | some count => exact absurd (bounded rfl) (by simp)
  | some count =>
      have limitAlone := readInteger_tokens count []
      cases offset with
      | none => simp_all [sectionTokens, readSection]
      | some skipped =>
          have limitFirst := readInteger_tokens count
            (.keyword .offset "OFFSET" :: integerTokens skipped)
          have offsetLast := readInteger_tokens skipped []
          simp_all [sectionTokens, readSection]

/-! ## Requests -/

/-- The token of a direction names the direction. -/
@[simp] theorem directionOf?_token (direction : Direction) :
    directionOf? direction.token = some direction := by
  cases direction <;> rfl

/-- A request is read back from its tokens. -/
theorem Request.read_tokens
    {request : Request}
    (grammatical : request.Grammatical) :
    Request.read request.tokens = some request := by
  have filter := readFilter_tokens grammatical.conditions "ORDER"
    ([.keyword .by "BY", nameToken request.sortColumn, request.direction.token] ++
      sectionTokens request.limit request.offset)
  simp only [nameToken, List.cons_append, List.nil_append] at filter
  simp [Request.tokens, nameToken, Request.read, filter, readSection_tokens grammatical.offset]

end Sql
end TableQuery
