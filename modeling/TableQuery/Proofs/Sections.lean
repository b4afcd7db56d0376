import TableQuery.Database.Answer
import TableQuery.Proofs.Actions
import TableQuery.Proofs.Requests
import TableQuery.Proofs.Statements

/-!
# Sections of answers

The answer to a request is the section of the answer to the same request without bounds.  The counts
of a section are read back from the decimal texts in the statement.
-/

namespace TableQuery
namespace Database

/-! ## Integers in statements -/

theorem dropWhile_of_forall_not
    {p : α → Bool}
    {elements : List α}
    (none : ∀ element ∈ elements, p element = false) :
    elements.dropWhile p = elements := by
  cases elements with
  | nil => rfl
  | cons first rest =>
      have kept : p first = false := none first (by simp)
      simp [kept]

/-- A text without blanks has none to lose at its ends. -/
theorem stripWith_of_forall_not
    {blank : Char → Bool}
    {chars : List Char}
    (none : ∀ c ∈ chars, blank c = false) :
    Text.stripWith blank chars = chars := by
  have front := dropWhile_of_forall_not none
  have back := dropWhile_of_forall_not fun c member => none c (List.mem_reverse.mp member)
  rw [Text.stripWith, front, Text.stripRight, back, List.reverse_reverse]

theorem isAsciiBlank_of_isDigit
    {c : Char}
    (digit : c.isDigit) :
    Text.isAsciiBlank c = false := by
  have bounds := Char.isDigit_iff_toNat.mp digit
  simp only [Char.reduceToNat] at bounds
  have notSpace : c ≠ ' ' := by
    rintro rfl
    simp at bounds
  simp [Text.isAsciiBlank, notSpace]
  omega

/-- The digits of a written integer are those of its magnitude. -/
theorem digits_writtenInteger
    (negative : Bool)
    (number : Nat) :
    (Numeral.writtenInteger negative number).digits = number := by
  simp [Numeral.Written.digits, Numeral.writtenInteger]

/-- An integer of 64 bits is read back from its decimal text. -/
theorem numberOf?_integerText
    {number : Int}
    (fits : fitsWord number) :
    Cell.numberOf? (Numeral.integerText number) = some (.integer number) := by
  have digits : ∀ c ∈ Nat.toDigits 10 number.natAbs, Text.isAsciiBlank c = false :=
    fun c member => isAsciiBlank_of_isDigit (Numeral.isDigit_of_mem_toDigits member)
  by_cases negative : number < 0
  · have signed : Binary64.signed true number.natAbs = number := by
      simp only [Binary64.signed, if_true]
      omega
    have stripped : Text.stripWith Text.isAsciiBlank ('-' :: Nat.toDigits 10 number.natAbs) =
        '-' :: Nat.toDigits 10 number.natAbs := by
      refine stripWith_of_forall_not ?_
      simp only [List.mem_cons, forall_eq_or_imp]
      exact ⟨by decide, digits⟩
    have written := digits_writtenInteger true number.natAbs
    simp only [Cell.numberOf?, Numeral.integerText, negative, if_true, String.toList_ofList,
      stripped, Numeral.decimal?_minus_toDigits, Option.map_some, Cell.ofWritten, written]
    simp [Numeral.writtenInteger, signed, fits]
  · have signed : Binary64.signed false number.natAbs = number := by
      simp only [Binary64.signed, Bool.false_eq_true, if_false]
      omega
    have stripped := stripWith_of_forall_not digits
    have written := digits_writtenInteger false number.natAbs
    simp only [Cell.numberOf?, Numeral.integerText, negative, if_false, String.toList_ofList,
      stripped, Numeral.decimal?_toDigits, Option.map_some, Cell.ofWritten, written]
    simp [Numeral.writtenInteger, signed, fits]

/-- An integer as a resolved expression. -/
def integerLiteral (number : Int) : Sql.Expression Place :=
  .literal (.number (Numeral.integerText number))

/-- An integer of 64 bits counts for itself. -/
theorem countOf_integerLiteral
    {number : Int}
    (fits : fitsWord number) :
    countOf (integerLiteral number) = .ok number := by
  simp [countOf, integerLiteral, eval, Cell.ofLiteral, numberOf?_integerText fits, Cell.asNumber,
    Cell.store, bind, Except.bind, pure, Except.pure]

/-! ## Plans with sections -/

/-- The bounds of a query are resolved to themselves and nothing else depends on them. -/
theorem plan_section
    (tables : List Table)
    {query : Sql.Query}
    (single : query.earlier = [])
    (limit offset : Option Int) :
    plan tables
        { query with
          limit := limit.map Sql.integerExpression
          offset := offset.map Sql.integerExpression } =
      (plan tables { query with limit := none, offset := none }).map fun found =>
        { found with limit := limit.map integerLiteral, offset := offset.map integerLiteral } := by
  have resolved (bound : Option Int) :
      (bound.map Sql.integerExpression).mapM (Scope.resolve []) =
        .ok (bound.map integerLiteral) := by
    cases bound <;> rfl
  simp only [plan, single, resolved, scopesOf]
  cases Scope.ofTerms tables query.selection.tables with
  | error problem => rfl
  | ok scope =>
      simp [bind, Except.bind]
      cases Part.ofSelection scope query.selection with
      | error problem => rfl
      | ok part =>
          generalize List.mapM (m := Except Problem) _ query.order.zipIdx = order
          cases order <;> rfl

theorem mapM_countOf
    {bound : Option Int}
    (fits : ∀ number ∈ bound, fitsWord number) :
    (bound.map integerLiteral).mapM countOf = .ok bound := by
  cases bound with
  | none => rfl
  | some number =>
      have counted := countOf_integerLiteral (fits number rfl)
      simp [counted, Functor.map, Except.map]

/-- A plan with bounds answers with a section of what it answers without them. -/
theorem Plan.answer_section
    (plan : Plan)
    {limit offset : Option Int}
    (limitFits : ∀ number ∈ limit, fitsWord number)
    (offsetFits : ∀ number ∈ offset, fitsWord number) :
    Plan.answer
        { plan with limit := limit.map integerLiteral, offset := offset.map integerLiteral } =
      (Plan.answer { plan with limit := none, offset := none }).map fun answer =>
        { answer with rows := sectionOf limit offset answer.rows } := by
  have rows : Plan.rows
      { plan with limit := limit.map integerLiteral, offset := offset.map integerLiteral } =
      Plan.rows { plan with limit := none, offset := none } := rfl
  simp only [Plan.answer, mapM_countOf limitFits, mapM_countOf offsetFits, rows]
  cases Plan.rows { plan with limit := none, offset := none } with
  | error problem => rfl
  | ok all => simp [bind, Except.bind, pure, Except.pure, Except.map, sectionOf]

/-- A query with bounds has a section of the answer that it has without them. -/
theorem evaluate_section
    (tables : List Table)
    (query : Sql.Query)
    (single : query.earlier = [])
    {limit offset : Option Int}
    (limitFits : ∀ number ∈ limit, fitsWord number)
    (offsetFits : ∀ number ∈ offset, fitsWord number) :
    evaluate tables
        { query :=
            { query with
              limit := limit.map Sql.integerExpression
              offset := offset.map Sql.integerExpression } } =
      (evaluate tables { query := { query with limit := none, offset := none } }).map fun answer =>
        { answer with rows := sectionOf limit offset answer.rows } := by
  have planned := plan_section tables single limit offset
  have unplanned := plan_section tables single none none
  simp only [evaluate, planned]
  cases found : plan tables { query with limit := none, offset := none } with
  | error problem => rfl
  | ok plan =>
      have bare : plan = { plan with limit := none, offset := none } := by
        simpa [found, Except.map] using unplanned
      have answered := plan.answer_section limitFits offsetFits
      rw [← bare] at answered
      exact answered

/-! ## Requests with sections -/

/-- The request without bounds. -/
def whole (request : Sql.Request) : Sql.Request :=
  { request with limit := none, offset := none }

/-- A statement that the engine answers has no NUL character and is read. -/
theorem evaluate_of_query
    {tables : List Table}
    {text : String}
    {answer : Answer}
    (known : query tables text = .ok answer) :
    '\x00' ∉ text.toList ∧
      ∃ statement, Sql.readTokens (Sql.tokenize text) = .ok statement ∧
        evaluate tables statement = .ok answer := by
  unfold query at known
  split at known
  · cases known
  · rename_i free
    obtain ⟨statement, parsed, evaluated⟩ := Except.bind_eq_ok_iff.mp known
    exact ⟨by simpa using free, statement, parsed, evaluated⟩

theorem query_of_evaluate
    {tables : List Table}
    {text : String}
    {statement : Sql.Statement}
    {answer : Answer}
    (free : '\x00' ∉ text.toList)
    (parsed : Sql.readTokens (Sql.tokenize text) = .ok statement)
    (evaluated : evaluate tables statement = .ok answer) :
    query tables text = .ok answer := by
  have contains : text.toList.contains '\x00' = false := by simpa using free
  have read : Sql.parse text = .ok statement := parsed
  rw [query, contains, read]
  exact evaluated

/-- The answer to the statement of a request is a section of the answer to the statement of the
request without bounds. -/
theorem query_section
    (tables : List Table)
    {request : Sql.Request}
    (grammatical : request.Grammatical)
    (limitFits : ∀ number ∈ request.limit, fitsWord number)
    (offsetFits : ∀ number ∈ request.offset, fitsWord number)
    {statement unbounded : String}
    (tokens : Sql.tokenize statement = request.tokens)
    (unboundedTokens : Sql.tokenize unbounded = (whole request).tokens)
    (nul : '\x00' ∈ statement.toList ↔ '\x00' ∈ unbounded.toList) :
    query tables statement =
      (query tables unbounded).map fun answer =>
        { answer with rows := sectionOf request.limit request.offset answer.rows } := by
  have wholeGrammatical : (whole request).Grammatical := ⟨grammatical.conditions, by simp [whole]⟩
  have parsed : Sql.parse statement = Sql.readTokens request.tokens := by rw [Sql.parse, tokens]
  have parsedWhole : Sql.parse unbounded = Sql.readTokens (whole request).tokens := by
    rw [Sql.parse, unboundedTokens]
  have same : (statement.toList.contains '\x00') = unbounded.toList.contains '\x00' := by
    rw [Bool.eq_iff_iff]
    simpa using nul
  simp only [query, parsed, parsedWhole, same, Sql.readTokens_request grammatical,
    Sql.readTokens_request wholeGrammatical]
  by_cases nul : unbounded.toList.contains '\x00'
  · simp only [nul, if_true]
    rfl
  · have conditions : (whole request).conditions = request.conditions := rfl
    by_cases high : Sql.heightLimit < (Sql.filterOperand request.conditions).height
    · simp only [nul, conditions, high, if_true]
      rfl
    · simp only [nul, conditions, high, if_false]
      exact evaluate_section tables request.query rfl limitFits offsetFits

/-! ## Specifications with sections -/

/-- The members of a list that a count of rows asks for after others have been left out; zero
stands for no bound. -/
def window (limit offset : Nat) (rows : List α) : List α :=
  if limit = 0 then rows.drop offset else (rows.drop offset).take limit

/-- A request has the window that its specification asks for. -/
theorem sectionOf_bounds
    (limit offset : Nat)
    (rows : List α) :
    sectionOf (Sql.boundOf limit offset) (Sql.skippedOf offset) rows =
      window limit offset rows := by
  by_cases zero : limit = 0 <;> by_cases all : offset = 0 <;>
    simp [sectionOf, Sql.boundOf, Sql.skippedOf, window, zero, all, Nat.pos_of_ne_zero]

end Database

namespace Sql

/-- A character other than a blank is in joined clauses if and only if it is in one of them. -/
theorem mem_joinClauses
    {c : Char}
    (notBlank : c ≠ ' ')
    (clauses : List String) :
    c ∈ (joinClauses clauses).toList ↔ ∃ clause ∈ clauses, c ∈ clause.toList := by
  have joined : (joinClauses clauses).toList =
      [' '].intercalate ((clauses.filter (· != "")).map String.toList) := by
    simp [joinClauses, String.toList_intercalate]
  rw [joined]
  constructor
  · intro member
    rcases mem_intercalate member with blank | ⟨list, known, inList⟩
    · exact absurd (List.mem_singleton.mp blank) notBlank
    · obtain ⟨clause, kept, rfl⟩ := List.mem_map.mp known
      exact ⟨clause, (List.mem_filter.mp kept).1, inList⟩
  · rintro ⟨clause, known, inClause⟩
    have kept : clause != "" := by
      rw [bne_iff_ne]
      rintro rfl
      simp at inClause
    exact mem_intercalate_of_mem [' ']
      (List.mem_map_of_mem (List.mem_filter.mpr ⟨known, kept⟩)) inClause

theorem nul_notMem_countText
    (word : String)
    (plain : '\x00' ∉ word.toList)
    (count : Nat) :
    '\x00' ∉ (countText word count).toList := by
  intro member
  by_cases zero : count = 0
  · simp [countText, zero] at member
  · simp only [countText, zero, if_false, String.toList_append, List.mem_append] at member
    rcases member with (inWord | blank) | inDigits
    · exact plain inWord
    · simp at blank
    · rw [Nat.repr_eq_ofList_toDigits, String.toList_ofList] at inDigits
      have digit := Numeral.isDigit_of_mem_toDigits inDigits
      simp [Char.isDigit] at digit

theorem nul_notMem_limitText (limit offset : Nat) :
    '\x00' ∉ (limitText limit offset).toList := by
  by_cases unbounded : limit = 0 ∧ offset ≠ 0
  · rw [limitText, if_pos unbounded]
    decide
  · rw [limitText, if_neg unbounded]
    exact nul_notMem_countText "LIMIT" (by decide) limit

end Sql

namespace Spec

/-- A specification for a count of rows after some that are left out. -/
def sectioned (spec : Spec) (limit offset : Nat) : Spec :=
  { spec with limit := .int limit, offset := .int offset }

/-- The section that a specification asks for does not matter to its names and conditions. -/
theorem IsPlain.sectioned
    {spec : Spec}
    (plain : spec.IsPlain)
    (limit offset : Nat) :
    (spec.sectioned limit offset).IsPlain where
  table := plain.table
  sortColumn := plain.sortColumn
  fields := plain.fields
  predicates := plain.predicates
  texts := ⟨plain.texts.term, plain.texts.values⟩

/-- The greatest count of rows that the engine can count is far below what can be written. -/
theorem lt_digitLimit
    {count : Nat}
    (small : count < 2 ^ 63) :
    count < 10 ^ Numeral.digitLimit :=
  small.trans ((by decide : 2 ^ 63 < 10 ^ 19).trans_le (Nat.pow_le_pow_right (by decide) (by decide)))

theorem IsPlain.isRenderable_sectioned
    {spec : Spec}
    (plain : spec.IsPlain)
    {limit offset : Nat}
    (smallLimit : limit < 2 ^ 63)
    (smallOffset : offset < 2 ^ 63) :
    (spec.sectioned limit offset).IsRenderable where
  toIsPlain := plain.sectioned limit offset
  limit := ⟨limit, rfl, lt_digitLimit smallLimit⟩
  offset := ⟨offset, rfl, lt_digitLimit smallOffset⟩

end Spec

namespace Sql

/-- The statement of a section of the rows of a specification. -/
def sectionStatement (spec : Spec) (filter : String) (limit offset : Nat) : String :=
  selectStatement spec.table
    ⟨filter, orderClause spec, countText "LIMIT" limit, countText "OFFSET" offset⟩
    (some unboundedText)

/-- The counts of a section bring no NUL character into a statement. -/
theorem nul_mem_sectionStatement
    (spec : Spec)
    (filter : String)
    (limit offset : Nat) :
    '\x00' ∈ (sectionStatement spec filter limit offset).toList ↔
      '\x00' ∈ (quoteName spec.table).toList ∨ '\x00' ∈ filter.toList ∨
        '\x00' ∈ (orderClause spec).toList := by
  have head : '\x00' ∉ "SELECT * FROM ".toList := by decide
  rw [sectionStatement, selectStatement_counts, mem_joinClauses (by decide)]
  simp only [List.mem_cons, List.not_mem_nil, or_false, exists_eq_or_imp, exists_eq_left,
    nul_notMem_limitText, nul_notMem_countText "OFFSET" (by decide), String.toList_append,
    List.mem_append, head, false_or]

/-- The statement of a section has the tokens of its request. -/
theorem tokenize_sectionStatement
    {spec : Spec}
    (plain : spec.IsPlain)
    {filter : String}
    (compiled : (compileWhere spec doubleQuotes).outcome = .ok filter)
    {limit offset : Nat}
    (smallLimit : limit < 2 ^ 63)
    (smallOffset : offset < 2 ^ 63) :
    tokenize (sectionStatement spec filter limit offset) =
      (spec.sectioned limit offset).request.tokens := by
  have renderable := plain.isRenderable_sectioned smallLimit smallOffset
  obtain ⟨clauses, compiles, spells⟩ := spells_selectStatement renderable
  have counts := compile_natCast (spec.sectioned limit offset) doubleQuotes rfl rfl
    (Spec.lt_digitLimit smallLimit) (Spec.lt_digitLimit smallOffset)
  have same : (compileWhere (spec.sectioned limit offset) doubleQuotes).outcome = .ok filter :=
    compiled
  rw [counts, same] at compiles
  obtain rfl : _ = clauses := Except.ok.inj compiles
  exact tokenize_of_spells spells

theorem fitsWord_boundOf
    {limit offset : Nat}
    (small : limit < 2 ^ 63) :
    ∀ number ∈ boundOf limit offset, Database.fitsWord number := by
  intro number bound
  have cases : number = limit ∨ number = -1 := by
    unfold boundOf at bound
    split at bound
    · exact .inl (by simpa using bound.symm)
    · split at bound
      · exact .inr (by simpa using bound.symm)
      · simp at bound
  simp only [Database.fitsWord, Bool.and_eq_true, decide_eq_true_eq]
  omega

theorem fitsWord_skippedOf
    {offset : Nat}
    (small : offset < 2 ^ 63) :
    ∀ number ∈ skippedOf offset, Database.fitsWord number := by
  intro number bound
  have equal : number = offset := by
    unfold skippedOf at bound
    split at bound
    · simpa using bound.symm
    · simp at bound
  simp only [Database.fitsWord, Bool.and_eq_true, decide_eq_true_eq]
  omega

/-- The answer to the statement of a section is the window of the answer to the statement of all
rows. -/
theorem query_sectionStatement
    (tables : List Database.Table)
    {spec : Spec}
    (plain : spec.IsPlain)
    {filter : String}
    (compiled : (compileWhere spec doubleQuotes).outcome = .ok filter)
    {limit offset : Nat}
    (smallLimit : limit < 2 ^ 63)
    (smallOffset : offset < 2 ^ 63) :
    Database.query tables (sectionStatement spec filter limit offset) =
      (Database.query tables (sectionStatement spec filter 0 0)).map fun answer =>
        { answer with rows := Database.window limit offset answer.rows } := by
  have tokens := tokenize_sectionStatement plain compiled smallLimit smallOffset
  have unbounded := tokenize_sectionStatement plain compiled (by decide : 0 < 2 ^ 63)
    (by decide : 0 < 2 ^ 63)
  have grammatical := grammatical_request (plain.sectioned limit offset)
  have nul : '\x00' ∈ (sectionStatement spec filter limit offset).toList ↔
      '\x00' ∈ (sectionStatement spec filter 0 0).toList :=
    (nul_mem_sectionStatement spec filter limit offset).trans
      (nul_mem_sectionStatement spec filter 0 0).symm
  have answered := Database.query_section tables grammatical (fitsWord_boundOf smallLimit)
    (fitsWord_skippedOf smallOffset) tokens unbounded nul
  rw [answered]
  congr 1
  funext answer
  rw [← Database.sectionOf_bounds]
  rfl

end Sql
end TableQuery
