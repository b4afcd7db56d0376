import TableQuery.Proofs.RoundTrip
import TableQuery.Proofs.Spelling
import TableQuery.Proofs.Texts

/-!
# Statements and their requests

The statement that is rendered for a specification has exactly the tokens of the request that the
specification makes, so the request can be read back from it.
-/

namespace TableQuery

/-! ## Requests of specifications -/

/-- The comparison of a column with its value. -/
def pairComparison (pair : Value × Value) : Sql.Comparison :=
  ⟨pair.1.display, .equal, pair.2.sqlText⟩

namespace Sql

/-- The bound of a request for a count of rows after some that are left out.  Leaving rows out
needs a bound for the rest, and minus one stands for none. -/
def boundOf (limit offset : Nat) : Option Int :=
  if 0 < limit then some limit else if 0 < offset then some (-1) else none

/-- The rows that a request leaves out, if there are any. -/
def skippedOf (offset : Nat) : Option Int :=
  if 0 < offset then some offset else none

end Sql

namespace Predicate

/-- The condition of a request that a predicate is.  What is no predicate is never rendered. -/
def condition : Predicate → Sql.Condition
  | .comparison comparator column value =>
    .comparison ⟨column.display, comparator, value.sqlText⟩
  | .membership negated column members =>
    if members.isEmpty then .constant negated
    else .membership negated column.display (members.map Value.sqlText)
  | .group connective pairs => .ofParts connective (pairs.map pairComparison)
  | .foreign _ => .constant false

/-- The columns that a predicate is about. -/
def columns : Predicate → List Value
  | .comparison _ column _ | .membership _ column _ => [column]
  | .group _ pairs => pairs.map Prod.fst
  | .foreign _ => []

/-- A well-formed predicate with plain names for its columns. -/
def IsPlain : Predicate → Prop
  | .comparison _ column _ | .membership _ column _ => column.IsPlainName
  | .group _ pairs => pairs ≠ [] ∧ ∀ pair ∈ pairs, pair.1.IsPlainName
  | .foreign _ => False

/-- A well-formed predicate, whatever its names and its values are. -/
def IsComplete : Predicate → Prop
  | .comparison .. | .membership .. => True
  | .group _ pairs => pairs ≠ []
  | .foreign _ => False

theorem IsComplete.isPlain
    {given : Predicate}
    (complete : given.IsComplete)
    (names : ∀ column ∈ given.columns, column.IsPlainName) :
    given.IsPlain := by
  cases given with
  | comparison comparator column value => exact names column (List.mem_singleton_self column)
  | membership negated column members => exact names column (List.mem_singleton_self column)
  | group connective pairs =>
      exact ⟨complete, fun pair member => names pair.1 (List.mem_map_of_mem member)⟩
  | foreign typeName => exact complete

end Predicate

namespace Spec

/-- The columns that a search looks into. -/
def fields (spec : Spec) : List Value :=
  match spec.searchFields with
  | .list fields => fields
  | _ => []

/-- The condition that the search is, if there is one: a field contains the term. -/
def searchConditions (spec : Spec) : List Sql.Condition :=
  if spec.hasSearch then
    [.ofParts .any (spec.fields.map fun field =>
      ⟨field.display, .like, spec.searchTerm.searchText⟩)]
  else []

/-- The conditions of a specification, the search first. -/
def conditions (spec : Spec) : List Sql.Condition :=
  spec.searchConditions ++ spec.predicates.map Predicate.condition

/-- The request that a specification makes. -/
def request (spec : Spec) : Sql.Request where
  table := spec.table.display
  conditions := spec.conditions
  sortColumn := spec.sortColumn.display
  direction := spec.sortDirection
  limit := Sql.boundOf spec.limit.toCount spec.offset.toCount
  offset := Sql.skippedOf spec.offset.toCount

/-- A specification of plain names and well-formed predicates, whatever its values are. -/
structure HasPlainForm (spec : Spec) : Prop where
  table : spec.table.IsPlainName
  sortColumn : spec.sortColumn.IsPlainName
  fields : ∃ fields, spec.searchFields = .list fields ∧ ∀ field ∈ fields, field.IsPlainName
  predicates : ∀ predicate ∈ spec.predicates, predicate.IsPlain

/-- A specification whose conditions can be rendered and whose names are plain. -/
structure IsPlain (spec : Spec) : Prop extends HasPlainForm spec where
  texts : spec.HasTexts

/-- A specification whose names hold no backtick. -/
structure HasPlainNames (spec : Spec) : Prop where
  table : spec.table.IsPlainName
  sortColumn : spec.sortColumn.IsPlainName
  fields : ∀ field ∈ spec.fields, field.IsPlainName
  columns : ∀ given ∈ spec.predicates, ∀ column ∈ given.columns, column.IsPlainName

theorem HasPlainNames.isPlain
    {spec : Spec}
    (names : spec.HasPlainNames)
    (collected : ∃ fields, spec.searchFields = .list fields)
    (complete : ∀ given ∈ spec.predicates, given.IsComplete)
    (texts : spec.HasTexts) :
    spec.IsPlain where
  table := names.table
  sortColumn := names.sortColumn
  fields := by
    obtain ⟨fields, known⟩ := collected
    refine ⟨fields, known, ?_⟩
    have plain := names.fields
    rwa [Spec.fields, known] at plain
  predicates := fun given member => (complete given member).isPlain (names.columns given member)
  texts := texts

/-- A plain specification whose section is given by integers that can be written. -/
structure IsRenderable (spec : Spec) : Prop extends IsPlain spec where
  limit : ∃ count : Nat, spec.limit = .int count ∧ count < 10 ^ Numeral.digitLimit
  offset : ∃ count : Nat, spec.offset = .int count ∧ count < 10 ^ Numeral.digitLimit

/-- A specification of a plain form whose section is given by integers that can be written, whatever
its values are. -/
structure IsWellFormed (spec : Spec) : Prop extends HasPlainForm spec where
  limit : ∃ count : Nat, spec.limit = .int count ∧ count < 10 ^ Numeral.digitLimit
  offset : ∃ count : Nat, spec.offset = .int count ∧ count < 10 ^ Numeral.digitLimit

theorem IsWellFormed.isRenderable
    {spec : Spec}
    (formed : spec.IsWellFormed)
    (texts : spec.HasTexts) :
    spec.IsRenderable where
  toHasPlainForm := formed.toHasPlainForm
  texts := texts
  limit := formed.limit
  offset := formed.offset

theorem IsRenderable.isWellFormed
    {spec : Spec}
    (renderable : spec.IsRenderable) :
    spec.IsWellFormed where
  toHasPlainForm := renderable.toHasPlainForm
  limit := renderable.limit
  offset := renderable.offset

/-- A search of a staff list, with each kind of condition and with quotes in the texts. -/
def staff : Spec where
  table := .text "staff"
  limit := .int 10
  searchTerm := .text "O'Neil"
  searchFields := .list [.text "name", .text "city"]
  predicates :=
    [.comparison .notLike (.text "name") (.text "%' --"), .membership true (.text "age") [],
      .group .all [(.text "city", .text "Rome"), (.text "age", .int 30)]]

theorem hasTexts_staff : staff.HasTexts where
  term := fun _ => Value.hasText_text _
  values := by
    have thirty : (Value.int 30).HasText :=
      Value.hasText_int_of_lt (by decide : (30 : Int).natAbs < 10 ^ 2) (by decide)
    simp [staff, Predicate.values, thirty]

theorem isPlain_staff : staff.IsPlain where
  table := by decide
  sortColumn := by decide
  fields := ⟨_, rfl, by decide⟩
  predicates := by
    intro predicate member
    simp only [staff, List.mem_cons, List.not_mem_nil, or_false] at member
    rcases member with rfl | rfl | rfl
    · exact (by decide : (Value.text "name").IsPlainName)
    · exact (by decide : (Value.text "age").IsPlainName)
    · exact ⟨List.cons_ne_nil _ _, by decide⟩
  texts := hasTexts_staff

theorem isRenderable_staff : staff.IsRenderable where
  toIsPlain := isPlain_staff
  limit := ⟨10, rfl,
    (by decide : 10 < 10 ^ 2).trans_le (Nat.pow_le_pow_right (by decide) (by decide))⟩
  offset := ⟨0, rfl, Nat.pow_pos (by decide)⟩

end Spec

namespace Sql

open Scan Fragment

/-! ## Conditions -/

/-- A constant condition compares two digits. -/
theorem spells_constant (truth : Bool) :
    Spells (if truth then "1 = 1" else "1 = 0").toList (Condition.constant truth).tokens := by
  cases truth with
  | true =>
      exact spells_of_scan (.number ['1']) [.number "1", .symbol .equal] (by decide) rfl
  | false =>
      exact spells_of_scan (.number ['0']) [.number "1", .symbol .equal] (by decide) rfl

theorem spells_pair
    {pair : Value × Value}
    (plain : pair.1.IsPlainName) :
    Spells (chars (comparison pair.1 "=" pair.2)) (pairComparison pair).tokens := by
  have spelled := spells_comparison .equal plain pair.2
  rwa [Comparator.symbol] at spelled

/-- A predicate whose values have texts is rendered as its condition. -/
theorem spells_predicate
    {given : Predicate}
    (plain : given.IsPlain)
    (texts : ∀ value ∈ given.values, value.HasText) :
    ∃ fragment, predicate given = .ok fragment ∧
      Spells (chars fragment) given.condition.tokens := by
  rw [predicate_eq_layout texts]
  cases given with
  | comparison comparator column value =>
      exact ⟨_, rfl, spells_comparison comparator plain value⟩
  | membership negated column members =>
      refine ⟨_, rfl, ?_⟩
      by_cases empty : members = []
      · subst empty
        simpa [membership, Piece.render, Predicate.condition] using spells_constant negated
      · simpa [Predicate.condition, empty] using spells_membership negated plain empty
  | group connective pairs =>
      obtain ⟨nonempty, names⟩ := plain
      have rendered : layout (.group connective pairs) = .ok (.fixed "(" ::
          (join (" " ++ connective.keyword ++ " ")
            (pairs.map fun pair => comparison pair.1 "=" pair.2) ++ [.fixed ")"])) := by
        simp [layout, group, nonempty]
      refine ⟨_, rendered, ?_⟩
      rw [Predicate.condition, tokens_ofParts]
      have spells : ∀ pair ∈ pairs,
          Spells (chars (comparison pair.1 "=" pair.2)) (pairComparison pair).tokens :=
        fun pair member => spells_pair (names pair member)
      have parts := spells_parts connective
        (fun pair : Value × Value => comparison pair.1 "=" pair.2) pairComparison spells
      simpa [Piece.render] using parts
  | foreign typeName => exact absurd plain id

/-- A search is rendered as its condition. -/
theorem spells_searchIn
    (term : Value)
    {fields : List Value}
    (names : ∀ field ∈ fields, field.IsPlainName) :
    Spells (chars (searchIn term.literalText fields))
      (Condition.ofParts .any (fields.map fun field =>
        ⟨field.display, .like, term.searchText⟩)).tokens := by
  rw [tokens_ofParts]
  have parts := spells_parts .any (searchField term.literalText)
    (fun field => ⟨field.display, .like, term.searchText⟩)
    fun field member => spells_searchField (names field member) term
  simpa [searchIn, Piece.render, Connective.keyword] using parts

/-- Conditions that are rendered one by one, each with its fragment. -/
def RenderedAs (outcomes : List (Except Fault Fragment)) (conditions : List Condition) : Prop :=
  ∃ rendered : List (Fragment × Condition),
    outcomes = rendered.map (fun pair => .ok pair.1) ∧
    conditions = rendered.map Prod.snd ∧
    ∀ pair ∈ rendered, Spells (chars pair.1) pair.2.tokens

theorem renderedAs_nil : RenderedAs [] [] :=
  ⟨[], rfl, rfl, by simp⟩

theorem RenderedAs.cons
    {outcomes : List (Except Fault Fragment)}
    {others : List Condition}
    {fragment : Fragment}
    {condition : Condition}
    (spells : Spells (chars fragment) condition.tokens)
    (rendered : RenderedAs outcomes others) :
    RenderedAs (.ok fragment :: outcomes) (condition :: others) := by
  obtain ⟨pairs, rfl, rfl, all⟩ := rendered
  refine ⟨(fragment, condition) :: pairs, rfl, rfl, ?_⟩
  simp only [List.mem_cons, forall_eq_or_imp]
  exact ⟨spells, all⟩

theorem renderedAs_predicates
    {predicates : List Predicate}
    (plain : ∀ given ∈ predicates, given.IsPlain)
    (texts : ∀ given ∈ predicates, ∀ value ∈ given.values, value.HasText) :
    RenderedAs (predicates.map predicate) (predicates.map Predicate.condition) := by
  induction predicates with
  | nil => exact renderedAs_nil
  | cons given others inductionHypothesis =>
      have following := inductionHypothesis
        (fun other member => plain other (List.mem_cons_of_mem given member))
        fun other member => texts other (List.mem_cons_of_mem given member)
      obtain ⟨fragment, rendered, spells⟩ :=
        spells_predicate (plain given (by simp)) (texts given (by simp))
      rw [List.map_cons, List.map_cons, rendered]
      exact following.cons spells

/-- The conditions of a plain specification are rendered one by one, in their order. -/
theorem renderedAs_conditions
    {spec : Spec}
    (plain : spec.IsPlain) :
    RenderedAs (conditions spec) spec.conditions := by
  have others := renderedAs_predicates plain.predicates plain.texts.values
  obtain ⟨fields, collected, names⟩ := plain.fields
  by_cases searches : spec.hasSearch
  · have found : search spec = .ok (some (searchIn spec.searchTerm.literalText fields)) :=
      search_eq_ok_iff.mpr
        (.inr ⟨searches, plain.texts.term searches, fields, by rw [collected]; rfl, rfl⟩)
    have first := spells_searchIn spec.searchTerm names
    simpa [conditions, found, Spec.conditions, Spec.searchConditions, searches, Spec.fields,
      collected] using others.cons first
  · have found : search spec = .ok none :=
      search_eq_ok_iff.mpr (.inl ⟨by simpa using searches, rfl⟩)
    simpa [conditions, found, Spec.conditions, Spec.searchConditions, searches] using others

/-- The clause of a plain specification's conditions has the tokens of a filter. -/
theorem spells_compileWhere
    {spec : Spec}
    (plain : spec.IsPlain) :
    ∃ filter, (compileWhere spec doubleQuotes).outcome = .ok filter ∧
      Spells filter.toList (filterTokens spec.conditions) := by
  obtain ⟨rendered, outcomes, same, spells⟩ := renderedAs_conditions plain
  have all : (conditions spec).mapM id = .ok (rendered.map Prod.fst) := by
    rw [outcomes, List.mapM_map]
    exact List.mapM_pure
  refine ⟨(whereOf (rendered.map Prod.fst)).render doubleQuotes,
    by simp only [compileWhere, whereClause, all]; rfl, ?_⟩
  rw [toList_render]
  cases rendered with
  | nil => simpa [same, filterTokens, whereOf] using closes_nil.spells
  | cons pair others =>
      have opening : Closes "WHERE ".toList [.keyword .where "WHERE"] :=
        closes_of_scan (by decide)
      have joined := spells_intercalate (closes_connective .all) (delimited_cons rfl _)
        (List.cons_ne_nil _ _) (fun pair : Fragment × Condition => chars pair.1)
        (fun pair => pair.2.tokens) spells
      have whole := opening.append_spells joined
      simpa [same, filterTokens, whereOf, chars_join, Piece.render, List.map_map,
        Function.comp_def, Connective.keyword] using whole

/-! ## Sections -/

/-- The clause of a count of rows, which is empty for zero. -/
def countText (word : String) (count : Nat) : String :=
  if count = 0 then "" else word ++ " " ++ count.repr

/-- A count that can be written gives its clause. -/
theorem countClause_natCast
    (word : String)
    {count : Nat}
    (short : count < 10 ^ Numeral.digitLimit) :
    countClause word (.int count) = .ok (countText word count) := by
  have written : Numeral.isTooLong (count : Int) = false := by
    simp only [Numeral.isTooLong, Int.natAbs_natCast, decide_eq_false_iff_not]
    omega
  by_cases zero : count = 0
  · subst zero
    rfl
  · have shown : (Value.int count).display = count.repr := Numeral.integerText_natCast count
    simp [countClause, isPositive, written, countText, zero, shown, bind, Except.bind,
      pure, Except.pure]

/-- A count with too many digits has no clause. -/
theorem countClause_of_long
    (word : String)
    {count : Nat}
    (long : 10 ^ Numeral.digitLimit ≤ count) :
    countClause word (.int count) = .error (.refused .value) := by
  have power : 0 < 10 ^ Numeral.digitLimit := Nat.pow_pos (by decide)
  have positive : 0 < count := power.trans_le long
  have tooLong : Numeral.isTooLong (count : Int) = true := by
    simpa only [Numeral.isTooLong, Int.natAbs_natCast, decide_eq_true_eq] using long
  simp [countClause, isPositive, positive, tooLong, bind, Except.bind, throw, throwThe,
    MonadExceptOf.throw]

/-- The clause of a count is its word and its number. -/
theorem spells_countText
    (word : String)
    (token : Token)
    (closes : Closes (word.toList ++ [' ']) [token])
    {count : Nat}
    (positive : count ≠ 0) :
    Spells (countText word count).toList [token, .number count.repr] := by
  have spelled := closes.append_spells (spells_repr count)
  simpa [countText, positive] using spelled

/-- The clause that stands for no bound. -/
def unboundedText : String := "LIMIT -1"

theorem spells_unboundedText :
    Spells unboundedText.toList (.keyword .limit "LIMIT" :: integerTokens (-1)) :=
  spells_of_scan (.number ['1']) [.keyword .limit "LIMIT", .symbol .minus] (by decide) rfl

/-- The clause that bounds the count of rows in a statement. -/
def limitText (limit offset : Nat) : String :=
  if limit = 0 ∧ offset ≠ 0 then unboundedText else countText "LIMIT" limit

theorem spells_limitText (limit offset : Nat) :
    Spells (limitText limit offset).toList (sectionTokens (boundOf limit offset) none) := by
  by_cases zero : limit = 0
  · subst zero
    by_cases all : offset = 0
    · subst all
      exact closes_nil.spells
    · simpa [limitText, boundOf, sectionTokens, all, Nat.pos_of_ne_zero all]
        using spells_unboundedText
  · have spelled := spells_countText "LIMIT" (.keyword .limit "LIMIT")
      (closes_of_scan (by decide)) zero
    simpa [limitText, boundOf, sectionTokens, zero, Nat.pos_of_ne_zero zero, integerTokens]
      using spelled

theorem spells_offsetText (offset : Nat) :
    Spells (countText "OFFSET" offset).toList (sectionTokens none (skippedOf offset)) := by
  by_cases zero : offset = 0
  · subst zero
    exact closes_nil.spells
  · have spelled := spells_countText "OFFSET" (.keyword .offset "OFFSET")
      (closes_of_scan (by decide)) zero
    simpa [skippedOf, sectionTokens, zero, Nat.pos_of_ne_zero zero, integerTokens] using spelled

/-! ## Whole statements -/

theorem spells_orderClause
    {spec : Spec}
    (plain : spec.sortColumn.IsPlainName) :
    Spells (orderClause spec).toList
      [.keyword .order "ORDER", .keyword .by "BY", nameToken spec.sortColumn.display,
        spec.sortDirection.token] := by
  have opening : Closes "ORDER BY ".toList [.keyword .order "ORDER", .keyword .by "BY"] :=
    closes_of_scan (by decide)
  have direction : Spells (' ' :: spec.sortDirection.keyword.toList) [spec.sortDirection.token] := by
    cases spec.sortDirection with
    | ascending =>
        exact spells_of_scan (.word ['C', 'S', 'A']) [] (by decide) rfl
    | descending =>
        exact spells_of_scan (.word ['C', 'S', 'E', 'D']) [] (by decide) rfl
  have named := (spells_quoteName plain).append direction (delimited_cons rfl _)
  have whole := opening.append_spells named
  simpa [orderClause] using whole

/-- Counts that can be written are compiled to their clauses. -/
theorem compile_natCast
    (spec : Spec)
    (escape : Escape)
    {limit offset : Nat}
    (isLimit : spec.limit = .int limit)
    (isOffset : spec.offset = .int offset)
    (shortLimit : limit < 10 ^ Numeral.digitLimit)
    (shortOffset : offset < 10 ^ Numeral.digitLimit) :
    (compile spec escape).outcome =
      (compileWhere spec escape).outcome.map fun filter =>
        ⟨filter, orderClause spec, countText "LIMIT" limit, countText "OFFSET" offset⟩ := by
  simp [compile, isLimit, isOffset, countClause_natCast _ shortLimit,
    countClause_natCast _ shortOffset]

/-- The clauses of counts stand last in a statement. -/
theorem selectStatement_counts
    (table : Value)
    (filter order : String)
    (limit offset : Nat) :
    selectStatement table
        ⟨filter, order, countText "LIMIT" limit, countText "OFFSET" offset⟩
        (some unboundedText) =
      joinClauses ["SELECT * FROM " ++ quoteName table, filter, order, limitText limit offset,
        countText "OFFSET" offset] := by
  by_cases zero : limit = 0 <;> by_cases all : offset = 0 <;>
    simp [selectStatement, limitText, countText, zero, all]

/-- The statement that fetches rows has the tokens of the request. -/
theorem spells_selectStatement
    {spec : Spec}
    (renderable : spec.IsRenderable) :
    ∃ clauses, (compile spec doubleQuotes).outcome = .ok clauses ∧
      Spells (selectStatement spec.table clauses (some unboundedText)).toList
        spec.request.tokens := by
  obtain ⟨filter, filtered, spellsFilter⟩ := spells_compileWhere renderable.toIsPlain
  obtain ⟨limit, isLimit, shortLimit⟩ := renderable.limit
  obtain ⟨offset, isOffset, shortOffset⟩ := renderable.offset
  refine ⟨⟨filter, orderClause spec, countText "LIMIT" limit, countText "OFFSET" offset⟩, ?_, ?_⟩
  · rw [compile_natCast spec doubleQuotes isLimit isOffset shortLimit shortOffset, filtered]
    rfl
  · have opening : Closes "SELECT * FROM ".toList
        [.keyword .select "SELECT", .symbol .star, .keyword .from "FROM"] :=
      closes_of_scan (by decide)
    have first := opening.append_spells (spells_quoteName renderable.table)
    have whole := spells_joinClauses
      [("SELECT * FROM " ++ quoteName spec.table, _), (filter, _), (orderClause spec, _),
        (limitText limit offset, _), (countText "OFFSET" offset, _)]
      (by
        simp only [List.mem_cons, List.not_mem_nil, or_false, forall_eq_or_imp, forall_eq]
        exact ⟨by simpa using first, spellsFilter, spells_orderClause renderable.sortColumn,
          spells_limitText limit offset, spells_offsetText offset⟩)
    rw [selectStatement_counts]
    simpa [Request.tokens, Spec.request, isLimit, isOffset, Value.toCount, Value.toInt,
      sectionTokens] using whole

/-- The statement that counts rows has the tokens of the conditions. -/
theorem spells_countStatement
    {spec : Spec}
    (plain : spec.IsPlain) :
    ∃ filter, (compileWhere spec doubleQuotes).outcome = .ok filter ∧
      Spells (countStatement spec.table filter).toList
        (Request.countTokens spec.table.display spec.conditions) := by
  obtain ⟨filter, filtered, spellsFilter⟩ := spells_compileWhere plain
  refine ⟨filter, filtered, ?_⟩
  have opening : Closes "SELECT COUNT(*) FROM ".toList
      [.keyword .select "SELECT", .word "COUNT", .symbol .opening, .symbol .star,
        .symbol .closing, .keyword .from "FROM"] :=
    closes_of_scan (by decide)
  have first := opening.append_spells (spells_quoteName plain.table)
  have whole := spells_joinClauses
    [("SELECT COUNT(*) FROM " ++ quoteName spec.table, _), (filter, _)]
    (by
      simp only [List.mem_cons, List.not_mem_nil, or_false, forall_eq_or_imp, forall_eq]
      exact ⟨by simpa using first, spellsFilter⟩)
  simpa [countStatement, Request.countTokens] using whole

/-! ## Reading back -/

theorem grammatical_condition
    {given : Predicate}
    (plain : given.IsPlain) :
    given.condition.Grammatical := by
  cases given with
  | comparison comparator column value => trivial
  | membership negated column members =>
      by_cases empty : members = []
      · simp [Predicate.condition, empty, Condition.Grammatical]
      · simp [Predicate.condition, empty, Condition.Grammatical]
  | group connective pairs =>
      exact Condition.grammatical_ofParts connective (by simpa using plain.1)
  | foreign typeName => exact absurd plain id

/-- A search has columns to look into. -/
theorem fields_ne_nil
    {spec : Spec}
    {fields : List Value}
    (searches : spec.hasSearch)
    (collected : spec.searchFields = .list fields) :
    fields ≠ [] := by
  rintro rfl
  simp [Spec.hasSearch, collected, Value.truthy] at searches

/-- The request of a plain specification is one that the grammar has. -/
theorem grammatical_request
    {spec : Spec}
    (plain : spec.IsPlain) :
    spec.request.Grammatical where
  conditions := by
    intro condition member
    rcases List.mem_append.mp member with searched | added
    · by_cases searches : spec.hasSearch
      · obtain ⟨fields, collected, _⟩ := plain.fields
        have nonempty := fields_ne_nil searches collected
        simp only [Spec.searchConditions, searches, if_true, List.mem_singleton, Spec.fields,
          collected] at searched
        subst searched
        exact Condition.grammatical_ofParts .any (by simpa using nonempty)
      · simp [Spec.searchConditions, searches] at searched
    · obtain ⟨given, known, rfl⟩ := List.mem_map.mp added
      exact grammatical_condition (plain.predicates given known)
  offset := by
    by_cases all : spec.offset.toCount = 0 <;> by_cases zero : spec.limit.toCount = 0 <;>
      simp [Spec.request, boundOf, skippedOf, all, zero, Nat.pos_of_ne_zero]

/-- A well-formed specification can be compiled if and only if its values have texts. -/
theorem exists_compile_iff
    {spec : Spec}
    (formed : spec.IsWellFormed) :
    (∃ clauses, (compile spec doubleQuotes).outcome = .ok clauses) ↔ spec.HasTexts := by
  constructor
  · rintro ⟨clauses, compiled⟩
    obtain ⟨limit, isLimit, shortLimit⟩ := formed.limit
    obtain ⟨offset, isOffset, shortOffset⟩ := formed.offset
    rw [compile_natCast spec doubleQuotes isLimit isOffset shortLimit shortOffset] at compiled
    cases filtered : (compileWhere spec doubleQuotes).outcome with
    | error fault =>
        rw [filtered] at compiled
        cases compiled
    | ok filter => exact hasTexts_of_compileWhere filtered
  · intro texts
    obtain ⟨clauses, compiled, _⟩ := spells_selectStatement (formed.isRenderable texts)
    exact ⟨clauses, compiled⟩

/-- The request of a specification is read back from its statement, whatever its names, texts and
numbers are.  There is a statement if and only if all values have texts. -/
theorem parse_selectStatement
    {spec : Spec}
    (formed : spec.IsWellFormed) :
    ((∃ clauses, (compile spec doubleQuotes).outcome = .ok clauses) ↔ spec.HasTexts) ∧
      ∀ clauses, (compile spec doubleQuotes).outcome = .ok clauses →
        Request.parse (selectStatement spec.table clauses (some "LIMIT -1")) =
          some spec.request := by
  have compiles := exists_compile_iff formed
  refine ⟨compiles, fun clauses compiled => ?_⟩
  have renderable := formed.isRenderable (compiles.mp ⟨clauses, compiled⟩)
  obtain ⟨others, known, spells⟩ := spells_selectStatement renderable
  obtain rfl : others = clauses := Except.ok.inj (known.symm.trans compiled)
  have tokens := tokenize_of_spells spells
  rw [unboundedText] at tokens
  rw [Request.parse, tokens, Request.read_tokens (grammatical_request renderable.toIsPlain)]

theorem parse_selectStatement_staff :
    ∃ clauses, (compile Spec.staff doubleQuotes).outcome = .ok clauses ∧
      Request.parse (selectStatement Spec.staff.table clauses (some "LIMIT -1")) =
        some Spec.staff.request := by
  obtain ⟨compiles, reads⟩ := parse_selectStatement Spec.isRenderable_staff.isWellFormed
  obtain ⟨clauses, compiled⟩ := compiles.mpr Spec.hasTexts_staff
  exact ⟨clauses, compiled, reads clauses compiled⟩

end Sql
end TableQuery
