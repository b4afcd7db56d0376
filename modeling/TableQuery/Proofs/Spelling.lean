import Mathlib.Tactic.IntervalCases
import TableQuery.Proofs.Grammar
import TableQuery.Proofs.Scanning
import TableQuery.Sql.Select

/-!
# The tokens of conditions

Every value of a condition is one literal and every name one quoted name, whatever characters they
have: the escape doubles the quotes of a value, and a name has no backtick.
-/

namespace TableQuery

/-- A name whose text ends only at the backtick that closes it. -/
def Value.IsPlainName (name : Value) : Prop :=
  '`' ∉ name.display.toList

instance (name : Value) : Decidable name.IsPlainName :=
  inferInstanceAs (Decidable ('`' ∉ name.display.toList))

/-- The text of the literal that a value becomes: its own text without NUL characters. -/
def Value.sqlText (value : Value) : String :=
  String.ofList (value.literalText.toList.filter (· != '\x00'))

/-- A text without NUL characters is the text of its literal. -/
theorem Value.sqlText_eq
    {value : Value}
    (free : '\x00' ∉ value.literalText.toList) :
    value.sqlText = value.literalText := by
  have kept : value.literalText.toList.filter (· != '\x00') = value.literalText.toList := by
    rw [List.filter_eq_self]
    intro c member
    rw [bne_iff_ne]
    rintro rfl
    exact free member
  rw [sqlText, kept, String.ofList_toList]

/-- The text of the literal that a searched term becomes. -/
def Value.searchText (term : Value) : String :=
  "%" ++ term.sqlText ++ "%"

namespace Sql

open Scan

namespace Fragment

/-- The characters of a fragment under the escape of the engine. -/
def chars (fragment : Fragment) : List Char :=
  (fragment.render doubleQuotes).toList

theorem toList_render (fragment : Fragment) :
    (fragment.render doubleQuotes).toList = chars fragment := rfl

@[simp] theorem chars_nil : chars [] = [] := rfl

@[simp] theorem chars_cons
    (piece : Piece)
    (rest : Fragment) :
    chars (piece :: rest) = (piece.render doubleQuotes).toList ++ chars rest := by
  simp [chars, render]

@[simp] theorem chars_append (left right : Fragment) :
    chars (left ++ right) = chars left ++ chars right := by
  simp [chars, render]

/-- The characters of joined fragments are the joined characters. -/
theorem chars_join
    (separator : String)
    (fragments : List Fragment) :
    chars (join separator fragments) = separator.toList.intercalate (fragments.map chars) := by
  induction fragments with
  | nil => simp [join]
  | cons fragment rest inductionHypothesis =>
      cases rest with
      | nil => simp [join]
      | cons next others =>
          simp only [List.map_cons] at inductionHypothesis
          simp [join, Piece.render, inductionHypothesis, List.intercalate_cons_cons]

end Fragment

open Fragment

/-! ## Names and literals -/

/-- The escape drops the NUL characters of a text and doubles its quotes. -/
theorem toList_doubleQuotes (raw : String) :
    (doubleQuotes raw).toList = doubled '\'' (raw.toList.filter (· != '\x00')) := by
  rw [doubleQuotes, String.toList_ofList, doubled]
  refine congrArg (fun f => List.flatMap f _) (funext fun c => ?_)
  by_cases quote : c = '\''
  · simp [quote]
  · simp [quote]

/-- A plain name is one token. -/
theorem spells_quoteName
    {name : Value}
    (plain : name.IsPlainName) :
    Spells (quoteName name).toList [nameToken name.display] := by
  have spelled := spells_name plain
  simpa [quoteName, nameToken] using spelled

/-- A value is one literal. -/
theorem spells_literalFragment (value : Value) :
    Spells (chars (literal value)) [.literal value.sqlText] := by
  have spelled := spells_literal (value.literalText.toList.filter (· != '\x00'))
  simpa [literal, Piece.render, toList_doubleQuotes, Value.sqlText] using spelled

/-! ## Comparisons -/

/-- A comparator between blanks is its words and signs. -/
theorem closes_symbol (comparator : Comparator) :
    Closes (' ' :: (comparator.symbol.toList ++ [' '])) comparator.tokens := by
  cases comparator <;> exact closes_of_scan (by decide)

/-- A comparison is a name, a comparator and a literal. -/
theorem spells_comparison
    (comparator : Comparator)
    {column : Value}
    (plain : column.IsPlainName)
    (value : Value) :
    Spells (chars (comparison column comparator.symbol value))
      (Comparison.mk column.display comparator value.sqlText).tokens := by
  have named := (spells_quoteName plain).append_closes (closes_symbol comparator)
    (delimited_cons rfl _) (List.cons_ne_nil _ _)
  have spelled := named.append_spells (spells_literalFragment value)
  simpa [comparison, Piece.render, Comparison.tokens] using spelled

/-- The condition that a field contains a term compares the field with the term between signs for
any text. -/
theorem spells_searchField
    {field : Value}
    (plain : field.IsPlainName)
    (term : Value) :
    Spells (chars (searchField term.literalText field))
      (Comparison.mk field.display .like term.searchText).tokens := by
  have named := (spells_quoteName plain).append_closes (closes_symbol .like)
    (delimited_cons rfl _) (List.cons_ne_nil _ _)
  have pattern := spells_literal
    ('%' :: (term.literalText.toList.filter (· != '\x00') ++ ['%']))
  have spelled := named.append_spells pattern
  have text : String.ofList ('%' :: (term.literalText.toList.filter (· != '\x00') ++ ['%'])) =
      term.searchText := by
    apply String.toList_injective
    simp [Value.searchText, Value.sqlText]
  rw [text] at spelled
  simpa [searchField, Piece.render, Comparison.tokens, toList_doubleQuotes, doubled,
    Comparator.symbol] using spelled

/-! ## Groups and lists -/

theorem closes_opening : Closes ['('] [.symbol .opening] :=
  closes_of_scan (by decide)

theorem closes_closing : Closes [')'] [.symbol .closing] :=
  closes_of_scan (by decide)

theorem closes_comma : Closes [','] [.symbol .comma] :=
  closes_of_scan (by decide)

theorem closes_connective (connective : Connective) :
    Closes (' ' :: (connective.keyword.toList ++ [' '])) [connective.token] := by
  cases connective <;> exact closes_of_scan (by decide)

/-- Comparisons that are joined by a word and stand between parentheses. -/
theorem spells_parts
    (connective : Connective)
    (fragment : α → Fragment)
    (part : α → Comparison)
    {items : List α}
    (spells : ∀ item ∈ items, Spells (chars (fragment item)) (part item).tokens) :
    Spells
      ('(' :: (chars (join (" " ++ connective.keyword ++ " ") (items.map fragment)) ++ [')']))
      (.symbol .opening ::
        ([connective.token].intercalate ((items.map part).map Comparison.tokens) ++
          [.symbol .closing])) := by
  have joined := spells_intercalate (closes_connective connective) (delimited_cons rfl _)
    (List.cons_ne_nil _ _) (fun item => chars (fragment item)) (fun item => (part item).tokens)
    spells
  have closed := joined.append_closes closes_closing (delimited_cons rfl []) (List.cons_ne_nil _ _)
  have whole := (closes_opening.append closed).spells
  simpa [chars_join, List.map_map, Function.comp_def] using whole

/-- A word between comparisons is the same for a condition that knows whether it is needed. -/
theorem tokens_ofParts
    (connective : Connective)
    (parts : List Comparison) :
    (Condition.ofParts connective parts).tokens =
      .symbol .opening ::
        ([connective.token].intercalate (parts.map Comparison.tokens) ++
          [.symbol .closing]) := by
  by_cases single : parts.length = 1
  · obtain ⟨part, rfl⟩ := List.length_eq_one_iff.mp single
    simp [Condition.ofParts, Condition.tokens]
  · simp [Condition.ofParts, single, Condition.tokens]

/-- A list of members is a name, one or two words and literals. -/
theorem spells_membership
    (negated : Bool)
    {column : Value}
    (plain : column.IsPlainName)
    {members : List Value}
    (nonempty : members ≠ []) :
    Spells (chars (membership negated column members))
      (Condition.membership negated column.display (members.map Value.sqlText)).tokens := by
  have opens : Closes (if negated then " NOT IN (" else " IN (").toList
      ((if negated then [.keyword .not "NOT", .keyword .in "IN"] else [.keyword .in "IN"]) ++
        [.symbol .opening]) := by
    cases negated <;> exact closes_of_scan (by decide)
  have named := (spells_quoteName plain).append_closes opens
    (by cases negated <;> exact delimited_cons rfl _)
    (by cases negated <;> simp)
  have joined := spells_intercalate closes_comma (delimited_cons rfl []) (List.cons_ne_nil _ _)
    (fun member => chars (literal member)) (fun member => [Token.literal member.sqlText])
    fun member (_ : member ∈ members) => spells_literalFragment member
  have closed := joined.append_closes closes_closing (delimited_cons rfl []) (List.cons_ne_nil _ _)
  have whole := (named.append closed).spells
  cases negated <;>
    simpa [membership, nonempty, Piece.render, Condition.tokens, chars_join, List.map_map,
      Function.comp_def] using whole

/-! ## Clauses -/

/-- A digit begins a number. -/
theorem start_digit
    {c : Char}
    (digit : c.isDigit) :
    start c = (.number [c], []) := by
  have bounds := Char.isDigit_iff_toNat.mp digit
  simp only [Char.reduceToNat] at bounds
  obtain ⟨least, greatest⟩ := bounds
  have same : c = Char.ofNat c.toNat := (Char.ofNat_toNat c).symm
  generalize c.toNat = code at least greatest same
  subst same
  interval_cases code <;> decide

/-- The decimal text of a natural is one number. -/
theorem spells_repr (number : Nat) :
    Spells number.repr.toList [.number number.repr] := by
  have digits : ∀ c ∈ Nat.toDigits 10 number, c.isDigit :=
    fun c member => Numeral.isDigit_of_mem_toDigits member
  have grammar := Numeral.decimal?_toDigits number
  have text : number.repr = String.ofList (Nat.toDigits 10 number) := Nat.repr_eq_ofList_toDigits
  rw [text, String.toList_ofList]
  cases written : Nat.toDigits 10 number with
  | nil => exact absurd written Nat.toDigits_ne_nil
  | cons c rest =>
      rw [written] at digits grammar
      have first := start_digit (digits c (by simp))
      have others := scan_digits [c] rest fun other member => by
        simp [Numeral.asciiDigit?_of_isDigit (digits other (List.mem_cons_of_mem c member))]
      have scanned : scan .between (c :: rest) = (.number (rest.reverse ++ [c]), []) := by
        simp [first, others]
      have spelled := spells_of_scan _ _ scanned rfl
      simpa [finish, numberToken, grammar, textOf] using spelled

/-- A text that spells its tokens has none if it is empty. -/
theorem tokens_of_spells_nil
    {tokens : List Token}
    (spells : Spells [] tokens) :
    tokens = [] := by
  simpa [tokensFrom, finish] using (spells [] delimited_nil).symm

/-- Lists that are joined with nothing between them. -/
theorem intercalate_nil_left (lists : List (List α)) : [].intercalate lists = lists.flatten := by
  induction lists with
  | nil => rfl
  | cons first rest inductionHypothesis =>
      cases rest with
      | nil => simp
      | cons second others =>
          simp [List.intercalate_cons_cons, inductionHypothesis]

/-- Joined clauses have the tokens of the clauses. -/
theorem spells_joinClauses
    (clauses : List (String × List Token))
    (spells : ∀ clause ∈ clauses, Spells clause.1.toList clause.2) :
    Spells (joinClauses (clauses.map Prod.fst)).toList (clauses.flatMap Prod.snd) := by
  have blank : Closes [' '] [] := closes_of_scan (by decide)
  have joined := spells_intercalate blank (delimited_cons rfl []) (List.cons_ne_nil _ _)
    (fun clause => clause.1.toList) Prod.snd fun clause (member : clause ∈ clauses.filter (·.1 != "")) =>
      spells clause (List.mem_filter.mp member).1
  have kept : (clauses.filter (·.1 != "")).flatMap Prod.snd = clauses.flatMap Prod.snd := by
    clear joined
    induction clauses with
    | nil => rfl
    | cons clause others inductionHypothesis =>
        have following := inductionHypothesis fun other member =>
          spells other (List.mem_cons_of_mem clause member)
        by_cases empty : clause.1 = ""
        · have none : clause.2 = [] := by
            apply tokens_of_spells_nil
            simpa [empty] using spells clause (by simp)
          simp [empty, none, following]
        · simp [empty, following]
  have texts : (joinClauses (clauses.map Prod.fst)).toList =
      [' '].intercalate ((clauses.filter (·.1 != "")).map fun clause => clause.1.toList) := by
    simp [joinClauses, String.toList_intercalate, List.filter_map, Function.comp_def]
  rw [texts, ← kept]
  rw [intercalate_nil_left, ← List.flatMap_def] at joined
  exact joined

end Sql
end TableQuery
