import TableQuery.Proofs.Overflows
import TableQuery.Proofs.Pages

/-!
# Counts of rows

The statement that counts the rows of a specification has the number of the rows that the statement
without bounds fetches.  A section of the rows has the length that this number and the bounds allow.
-/

namespace TableQuery

open Database

namespace Database

/-! ## Plans for counts -/

/-- A part that counts the rows which another part gives. -/
def Part.counting (part : Part) : Part :=
  { part with projection := .count }

/-- Where there is a part for the rows of a selection, there is one for their count. -/
theorem Part.ofSelection_count
    {scope : Scope}
    {selection : Sql.Selection}
    (fetches : selection.projection = .rows)
    {part : Part}
    (known : Part.ofSelection scope selection = .ok part) :
    Part.ofSelection scope { selection with projection := .count } = .ok part.counting ∧
      part.projection = .rows := by
  simp only [Part.ofSelection, fetches] at known ⊢
  obtain ⟨_, _, rest⟩ := Except.bind_eq_ok_iff.mp known
  obtain ⟨filter, filtered, rest⟩ := Except.bind_eq_ok_iff.mp rest
  obtain ⟨joins, joined, made⟩ := Except.bind_eq_ok_iff.mp rest
  obtain rfl := Except.ok.inj made
  rw [filtered, joined]
  exact ⟨rfl, rfl⟩

/-- Where there is a plan for the rows of one selection, there is one for their count. -/
theorem plan_count
    {tables : List Table}
    {query : Sql.Query}
    (single : query.earlier = [])
    (fetches : query.selection.projection = .rows)
    {found : Plan}
    (known : plan tables query = .ok found) :
    plan tables { selection := { query.selection with projection := .count } } =
        .ok
          { earlier := []
            part := found.part.counting
            order := .expressions []
            limit := none
            offset := none } ∧
      found.part.projection = .rows ∧ ∃ terms, found.order = .expressions terms := by
  simp only [plan, single, scopesOf] at known
  obtain ⟨scope, ofTerms, rest⟩ := Except.bind_eq_ok_iff.mp known
  obtain ⟨scopes, none, rest⟩ := Except.bind_eq_ok_iff.mp rest
  obtain rfl := Except.ok.inj none
  obtain ⟨limit, _, rest⟩ := Except.bind_eq_ok_iff.mp rest
  obtain ⟨offset, _, rest⟩ := Except.bind_eq_ok_iff.mp rest
  obtain ⟨part, ofSelection, rest⟩ := Except.bind_eq_ok_iff.mp rest
  obtain ⟨terms, _, made⟩ := Except.bind_eq_ok_iff.mp rest
  obtain rfl := Except.ok.inj made
  obtain ⟨counted, unchanged⟩ := Part.ofSelection_count fetches ofSelection
  refine ⟨?_, unchanged, terms, rfl⟩
  simp only [plan, ofTerms, scopesOf]
  simp only [bind, Except.bind, Option.mapM_none, pure, Except.pure, counted]
  rfl

/-! ## Answers with counts -/

/-- To sort rows loses none of them. -/
theorem length_sorted
    {terms : List (Sql.SortTerm Place)}
    {products ordered : List (List Row)}
    (known : sorted terms products = .ok ordered) :
    ordered.length = products.length := by
  obtain ⟨keyed, keys, made⟩ := Except.bind_eq_ok_iff.mp known
  have paired := (Except.mapM_eq_ok_iff.mp keys).length_eq
  rw [← Except.ok.inj made, List.length_map, List.length_mergeSort, paired]

/-- A part that counts has the number of the rows that the part itself gives. -/
theorem Part.rows_counting
    {part : Part}
    (fetches : part.projection = .rows)
    {terms : List (Sql.SortTerm Place)}
    {rows : List (List Cell)}
    (known : part.rows terms = .ok rows) :
    part.counting.rows [] = .ok [[.integer rows.length]] := by
  simp only [Part.rows, fetches] at known
  obtain ⟨kept, keeps, rest⟩ := Except.bind_eq_ok_iff.mp known
  obtain ⟨ordered, sorts, made⟩ := Except.bind_eq_ok_iff.mp rest
  have same : part.counting.kept = .ok kept := keeps
  have length : rows.length = kept.length := by
    rw [← Except.ok.inj made, List.length_map, length_sorted sorts]
  simp only [Part.rows, same, length]
  rfl

/-- The answer that is the number of some rows. -/
def countAnswer (number : Nat) : Answer :=
  ⟨["COUNT(*)"], [[.integer number]]⟩

/-- The query for a count is answered with the number of the rows that the request has without
bounds. -/
theorem evaluate_countQuery
    {tables : List Table}
    (request : Sql.Request)
    {answer : Answer}
    (known : evaluate tables { query := (whole request).query } = .ok answer) :
    evaluate tables { query := Sql.countQuery request.table request.conditions } =
      .ok (countAnswer answer.rows.length) := by
  obtain ⟨found, planned, answered⟩ := Except.bind_eq_ok_iff.mp known
  obtain ⟨counted, fetches, terms, order⟩ := plan_count rfl rfl planned
  have single : (whole request).query.earlier = [] := rfl
  have unplanned := plan_section tables single none none
  have bare : found = { found with limit := none, offset := none } := by
    have same : plan tables { (whole request).query with limit := none, offset := none } =
      .ok found := planned
    simpa [planned, same, Except.map] using unplanned
  rw [bare] at answered
  obtain ⟨rows, given, made⟩ : ∃ rows, found.part.rows terms = .ok rows ∧
      answer.rows = rows := by
    simp only [Plan.answer, Plan.rows, order] at answered
    obtain ⟨limit, unlimited, rest⟩ := Except.bind_eq_ok_iff.mp answered
    obtain ⟨offset, unskipped, rest⟩ := Except.bind_eq_ok_iff.mp rest
    obtain ⟨rows, given, made⟩ := Except.bind_eq_ok_iff.mp rest
    obtain rfl := Except.ok.inj unlimited
    obtain rfl := Except.ok.inj unskipped
    exact ⟨rows, given, by rw [← Except.ok.inj made]; rfl⟩
  have counts := Part.rows_counting fetches given
  have selection : Sql.countQuery request.table request.conditions =
      { selection := { (whole request).query.selection with projection := .count } } := rfl
  rw [evaluate, selection, counted, made]
  simp only [bind, Except.bind, Plan.answer, Plan.rows, counts]
  rfl

/-! ## Bounds of answered requests -/

/-- A bound that counts rows is below the integers beyond 64 bits. -/
theorem lt_of_countOf
    {bound : Option Int}
    {counted : Option Int}
    (known : (bound.map integerLiteral).mapM countOf = .ok counted) :
    ∀ number ∈ bound, number < 2 ^ 63 := by
  rintro number rfl
  by_contra beyond
  obtain ⟨count, rfl⟩ : ∃ count : Nat, number = count := ⟨number.toNat, by omega⟩
  have large : 2 ^ 63 ≤ count := by omega
  have refused := countOf_integerLiteral_of_large large
  simp [refused, Functor.map, Except.map] at known

/-- A query that is answered has bounds of 64 bits. -/
theorem lt_of_evaluate
    {tables : List Table}
    (query : Sql.Query)
    (single : query.earlier = [])
    {limit offset : Option Int}
    {answer : Answer}
    (known : evaluate tables
        { query :=
            { query with
              limit := limit.map Sql.integerExpression
              offset := offset.map Sql.integerExpression } } = .ok answer) :
    (∀ number ∈ limit, number < 2 ^ 63) ∧ ∀ number ∈ offset, number < 2 ^ 63 := by
  obtain ⟨found, planned, answered⟩ := Except.bind_eq_ok_iff.mp known
  rw [plan_section tables single] at planned
  cases unbounded : plan tables { query with limit := none, offset := none } with
  | error problem => simp [unbounded, Except.map] at planned
  | ok whole =>
      rw [unbounded] at planned
      obtain rfl := Except.ok.inj planned
      obtain ⟨_, limited, rest⟩ := Except.bind_eq_ok_iff.mp answered
      obtain ⟨_, skipped, _⟩ := Except.bind_eq_ok_iff.mp rest
      exact ⟨lt_of_countOf limited, lt_of_countOf skipped⟩

end Database

namespace Sql

/-! ## Statements -/

/-- A statement that counts rows has a NUL character if and only if its table or filter has one. -/
theorem nul_mem_countStatement
    (table : Value)
    (filter : String) :
    '\x00' ∈ (countStatement table filter).toList ↔
      '\x00' ∈ (quoteName table).toList ∨ '\x00' ∈ filter.toList := by
  have head : '\x00' ∉ "SELECT COUNT(*) FROM ".toList := by decide
  rw [countStatement, mem_joinClauses (by decide)]
  simp only [List.mem_cons, List.not_mem_nil, or_false, exists_eq_or_imp, exists_eq_left,
    String.toList_append, List.mem_append, head, false_or]

theorem tokenize_countStatement
    {spec : Spec}
    (plain : spec.IsPlain)
    {filter : String}
    (compiled : (compileWhere spec doubleQuotes).outcome = .ok filter) :
    tokenize (countStatement spec.table filter) =
      Request.countTokens spec.table.display spec.conditions := by
  obtain ⟨counted, compiledAgain, spells⟩ := spells_countStatement plain
  obtain rfl : filter = counted := Except.ok.inj (compiled.symm.trans compiledAgain)
  exact tokenize_of_spells spells

/-- Where the engine fetches the rows of a specification without bounds, it also counts them. -/
theorem query_countStatement
    {tables : List Table}
    {spec : Spec}
    (plain : spec.IsPlain)
    {filter : String}
    (compiled : (compileWhere spec doubleQuotes).outcome = .ok filter)
    {answer : Answer}
    (known : query tables (sectionStatement spec filter 0 0) = .ok answer) :
    query tables (countStatement spec.table filter) = .ok (countAnswer answer.rows.length) := by
  obtain ⟨free, statement, parsed, evaluated⟩ := evaluate_of_query known
  have grammatical := grammatical_request (plain.sectioned 0 0)
  have conditions : (spec.sectioned 0 0).request.conditions = spec.conditions := rfl
  rw [tokenize_sectionStatement plain compiled (by decide) (by decide),
    readTokens_request grammatical, conditions] at parsed
  have tokens := tokenize_countStatement plain compiled
  split at parsed
  · cases parsed
  · rename_i low
    obtain rfl := Except.ok.inj parsed
    have counts : evaluate tables { query := countQuery spec.table.display spec.conditions } =
        .ok (countAnswer answer.rows.length) :=
      evaluate_countQuery spec.request evaluated
    refine query_of_evaluate ?_ ?_ counts
    · rw [nul_mem_countStatement]
      rw [nul_mem_sectionStatement] at free
      tauto
    · have own : ∀ condition ∈ spec.conditions, condition.Grammatical := grammatical.conditions
      rw [tokens, readTokens_countTokens _ own, if_neg low]

/-- The engine answers the statement of a section only where the bounds are integers of 64 bits. -/
theorem lt_of_query
    {tables : List Table}
    {spec : Spec}
    {limit offset : Nat}
    (renderable : (spec.sectioned limit offset).IsRenderable)
    {text : String}
    (tokens : tokenize text = (spec.sectioned limit offset).request.tokens)
    {answer : Answer}
    (known : query tables text = .ok answer) :
    limit < 2 ^ 63 ∧ offset < 2 ^ 63 := by
  obtain ⟨_, statement, parsed, evaluated⟩ := evaluate_of_query known
  rw [tokens, readTokens_request (grammatical_request renderable.toIsPlain)] at parsed
  split at parsed
  · cases parsed
  · obtain rfl := Except.ok.inj parsed
    have bounds : (∀ number ∈ boundOf limit offset, number < 2 ^ 63) ∧
        ∀ number ∈ skippedOf offset, number < 2 ^ 63 :=
      lt_of_evaluate (whole spec.request).query rfl evaluated
    constructor
    · by_cases zero : limit = 0
      · omega
      · have bound := bounds.1 limit (by simp [boundOf, Nat.pos_of_ne_zero zero])
        omega
    · by_cases zero : offset = 0
      · omega
      · have bound := bounds.2 offset (by simp [skippedOf, Nat.pos_of_ne_zero zero])
        omega

/-- The clause of a count is that of the natural which the count is cut to. -/
theorem countClause_toNat
    (word : String)
    (number : Int) :
    countClause word (.int number) = countClause word (.int number.toNat) := by
  by_cases positive : 0 < number
  · rw [Int.toNat_of_nonneg positive.le]
  · have cut : number.toNat = 0 := by omega
    simp [countClause, isPositive, positive, cut, pure, Except.pure, bind, Except.bind]

/-- A count that has a clause can be written. -/
theorem lt_of_countClause
    {word clause : String}
    {count : Nat}
    (known : countClause word (.int count) = .ok clause) :
    count < 10 ^ Numeral.digitLimit := by
  by_contra long
  rw [countClause_of_long word (by omega)] at known
  cases known

end Sql

/-! ## Runs -/

namespace Execution

/-- A statement that fetches rows is put together from two counts and a filter. -/
theorem clauses_of_statementOf
    {spec : Spec}
    {statement : String}
    (known : statementOf spec = .ok statement) :
    ∃ limit offset filter, Sql.countClause "LIMIT" spec.limit = .ok limit ∧
      Sql.countClause "OFFSET" spec.offset = .ok offset ∧
      (Sql.compileWhere spec Sql.doubleQuotes).outcome = .ok filter := by
  unfold statementOf Sql.compile at known
  cases limited : Sql.countClause "LIMIT" spec.limit with
  | error fault => simp [limited, Except.map] at known
  | ok limit =>
      cases skipped : Sql.countClause "OFFSET" spec.offset with
      | error fault => simp [limited, skipped, Except.map] at known
      | ok offset =>
          cases filtered : (Sql.compileWhere spec Sql.doubleQuotes).outcome with
          | error fault => simp [limited, skipped, filtered, Except.map] at known
          | ok filter => exact ⟨limit, offset, filter, rfl, rfl, rfl⟩

/-- The statement of a specification is that of the section to which its bounds are cut. -/
theorem statementOf_toNat
    {spec : Spec}
    {limit offset : Int}
    (isLimit : spec.limit = .int limit)
    (isOffset : spec.offset = .int offset) :
    statementOf spec = statementOf (spec.sectioned limit.toNat offset.toNat) := by
  have same : Sql.compile spec Sql.doubleQuotes =
      Sql.compile (spec.sectioned limit.toNat offset.toNat) Sql.doubleQuotes := by
    unfold Sql.compile
    rw [isLimit, isOffset, Sql.countClause_toNat "LIMIT", Sql.countClause_toNat "OFFSET"]
    rfl
  rw [statementOf, same]
  rfl

theorem runFrom_selectValue
    (access : Access)
    (statement : String) :
    (Access.selectValue statement).runFrom access =
      ((answerTo access statement).map fun answer =>
        ((answer.rows.head?.bind List.head?).map Cell.toValue).getD .none, access) := by
  unfold Access.selectValue Access.answer Access.ensureOpen answerTo
  by_cases isOpen : access.connection.isOpen
  · simp [ExceptT.runFrom_bind, isOpen]
  · simp [ExceptT.runFrom_bind, isOpen, Except.map]

/-- A value is selected if and only if the announcement is taken and the engine answers. -/
theorem runFrom_run_selectValue_ok_iff
    {statement : String}
    {setting after : Setting Access}
    {value : Value} :
    (run Access.selectValue statement).runFrom setting = (.ok value, after) ↔
      (announce statement).runFrom setting.1 = (.ok (), after.1) ∧
        ∃ answer, answerTo setting.2 statement = .ok answer ∧
          ((answer.rows.head?.bind List.head?).map Cell.toValue).getD .none = value ∧
          after.2 = setting.2 := by
  rw [runFrom_run_ok_iff, runFrom_selectValue]
  refine and_congr_right fun _ => ?_
  cases answerTo setting.2 statement with
  | error fault => simp [Except.map]
  | ok answer => simp [Except.map, eq_comm]

/-- Rows are counted if and only if the conditions can be compiled, the announcement of the statement
is taken and the engine answers it with a count. -/
theorem runFrom_totalCount_ok_iff
    {spec : Spec}
    {setting after : Setting Access}
    {count : Int} :
    (totalCount Engine.driver spec).runFrom setting = (.ok count, after) ↔
      ∃ filter answer, (Sql.compileWhere spec Sql.doubleQuotes).outcome = .ok filter ∧
        (announce (Sql.countStatement spec.table filter)).runFrom setting.1 = (.ok (), after.1) ∧
        answerTo setting.2 (Sql.countStatement spec.table filter) = .ok answer ∧
        countOf (((answer.rows.head?.bind List.head?).map Cell.toValue).getD .none) = .ok count ∧
        after.2 = setting.2 := by
  have driven : Engine.driver.selectValue = Access.selectValue := rfl
  have bound := ExceptT.runFrom_bind (countSql Engine.driver spec) (fun statement => do
    let value ← run Access.selectValue statement
    (countOf value : Except Fault Int)) setting
  rw [totalCount, driven, bound, runFrom_countSql]
  cases filtered : (Sql.compileWhere spec Sql.doubleQuotes).outcome with
  | error fault => simp [Except.map]
  | ok filter =>
      simp only [Except.map]
      rw [ExceptT.runFrom_bind]
      constructor
      · intro known
        rcases ran : (run Access.selectValue (Sql.countStatement spec.table filter)).runFrom
          setting with ⟨fault | value, last⟩
        · simp [ran] at known
        · simp only [ran, ExceptT.runFrom_lift, Prod.mk.injEq] at known
          obtain ⟨counted, rfl⟩ := known
          obtain ⟨announced, answer, answered, rfl, unchanged⟩ :=
            runFrom_run_selectValue_ok_iff.mp ran
          exact ⟨filter, answer, rfl, announced, answered, counted, unchanged⟩
      · rintro ⟨_, answer, same, announced, answered, counted, unchanged⟩
        obtain rfl := Except.ok.inj same
        have ran := runFrom_run_selectValue_ok_iff.mpr
          ⟨announced, answer, answered, rfl, unchanged⟩
        simp only [ran, ExceptT.runFrom_lift, counted]

/-- What is found comes from the answer to the statement of a section, and the bounds are of 64
bits. -/
theorem section_of_find
    {spec : Spec}
    {limit offset : Int}
    (isLimit : spec.limit = .int limit)
    (isOffset : spec.offset = .int offset)
    (collected : ∃ fields, spec.searchFields = .list fields)
    (names : spec.HasPlainNames)
    {model : Model}
    {setting after : Setting Access}
    {found : List Instance}
    (finds : (find Engine.driver model spec).runFrom setting = (.ok found, after)) :
    limit.toNat < 2 ^ 63 ∧ offset.toNat < 2 ^ 63 ∧
      ∃ filter answer, (Sql.compileWhere spec Sql.doubleQuotes).outcome = .ok filter ∧
        (announce (Sql.sectionStatement spec filter limit.toNat offset.toNat)).runFrom setting.1 =
          (.ok (), after.1) ∧
        answerTo setting.2 (Sql.sectionStatement spec filter limit.toNat offset.toNat) =
          .ok answer ∧
        instancesOf model answer = .ok found ∧ after.2 = setting.2 := by
  obtain ⟨statement, answer, stated, announced, answered, hydrated, unchanged⟩ :=
    runFrom_find_ok_iff.mp finds
  obtain ⟨_, _, filter, limited, skipped, filtered⟩ := clauses_of_statementOf stated
  have plain := isPlain_of_compiled collected names filtered
  rw [isLimit, Sql.countClause_toNat] at limited
  rw [isOffset, Sql.countClause_toNat] at skipped
  have renderable : (spec.sectioned limit.toNat offset.toNat).IsRenderable :=
    { toIsPlain := plain.sectioned _ _
      limit := ⟨_, rfl, Sql.lt_of_countClause limited⟩
      offset := ⟨_, rfl, Sql.lt_of_countClause skipped⟩ }
  rw [statementOf_toNat isLimit isOffset] at stated
  obtain ⟨_, queried⟩ := answerTo_eq_ok_iff.mp answered
  -- An answer shows that the bounds are of 64 bits, so the statement is that of a section.
  obtain ⟨text, selected, tokens⟩ := selectSql_tokens renderable setting
  rw [runFrom_selectSql, stated] at selected
  obtain rfl : statement = text := Except.ok.inj (congrArg Prod.fst selected)
  obtain ⟨smallLimit, smallOffset⟩ := Sql.lt_of_query renderable tokens queried
  rw [statementOf_sectioned spec smallLimit smallOffset, filtered] at stated
  obtain rfl := Except.ok.inj stated
  exact ⟨smallLimit, smallOffset, filter, answer, filtered, announced, answered, hydrated, unchanged⟩

theorem length_window
    (limit offset : Nat)
    (rows : List α) :
    (window limit offset rows).length =
      if limit = 0 then rows.length - offset else min limit (rows.length - offset) := by
  unfold window
  split <;> simp

/-- The count that the engine gives for a number of rows is the number. -/
theorem countOf_countAnswer (number : Nat) :
    countOf ((((countAnswer number).rows.head?.bind List.head?).map Cell.toValue).getD .none) =
      .ok number := by
  cases number <;> rfl

/-- Where rows are found there are as many as the count of the specification and its bounds allow;
bounds below zero count as zero.  The count is the same for all bounds and orders. -/
theorem length_of_found
    {spec : Spec}
    {limit offset : Int}
    (isLimit : spec.limit = .int limit)
    (isOffset : spec.offset = .int offset)
    (collected : ∃ fields, spec.searchFields = .list fields)
    (names : spec.HasPlainNames)
    {model : Model}
    {access : Access}
    {world other : World}
    {found : List Instance}
    {count : Int}
    (finds : ((find Engine.driver model spec).runFrom (world, access)).1 = .ok found)
    (counts : ((totalCount Engine.driver spec).runFrom (other, access)).1 = .ok count) :
    (found.length : Int) =
        (if 0 < limit then min limit (max (count - max offset 0) 0)
        else max (count - max offset 0) 0) ∧
      ∀ (bound skipped column : Value) (direction : Direction),
        totalCount Engine.driver
            { spec with
              limit := bound
              offset := skipped
              sortColumn := column
              sortDirection := direction } =
          totalCount Engine.driver spec := by
  refine ⟨?_, fun _ _ _ _ => rfl⟩
  obtain ⟨smallLimit, smallOffset, filter, answer, filtered, _, answered, hydrated, _⟩ :=
    section_of_find isLimit isOffset collected names (ExceptT.runFrom_eq_of_fst finds)
  obtain ⟨_, counted, same, _, answeredCount, number, _⟩ :=
    runFrom_totalCount_ok_iff.mp (ExceptT.runFrom_eq_of_fst counts)
  obtain rfl := Except.ok.inj (filtered.symm.trans same)
  have plain := isPlain_of_compiled collected names filtered
  obtain ⟨isOpen, queried⟩ := answerTo_eq_ok_iff.mp answered
  obtain ⟨_, queriedCount⟩ := answerTo_eq_ok_iff.mp answeredCount
  rw [Sql.query_sectionStatement access.tables plain filtered smallLimit smallOffset] at queried
  cases whole : query access.tables (Sql.sectionStatement spec filter 0 0) with
  | error problem => simp [whole, Except.map] at queried
  | ok all =>
      rw [whole] at queried
      obtain rfl := Except.ok.inj queried
      have counting := Sql.query_countStatement plain filtered whole
      obtain rfl : countAnswer all.rows.length = counted :=
        Except.ok.inj (counting.symm.trans queriedCount)
      rw [countOf_countAnswer] at number
      have total : (all.rows.length : Int) = count := Except.ok.inj number
      have length : found.length = (window limit.toNat offset.toNat all.rows).length := by
        have paired := (Except.mapM_eq_ok_iff.mp hydrated).length_eq
        rw [List.length_map] at paired
        exact paired.symm
      rw [length, length_window]
      split <;> split <;> omega

theorem length_of_found_romans :
    ∃ found count,
      ((find Engine.driver staffModel romans).runFrom (quiet.1, accessTo [staffTable])).1 = .ok found ∧
      ((totalCount Engine.driver romans).runFrom (quiet.1, accessTo [staffTable])).1 = .ok count ∧
      (found.length : Int) = min 1 (max count 0) := by
  obtain ⟨found, finds, _⟩ := Except.exists_of_map_toOption
    (by decide +kernel :
      ((find Engine.driver staffModel romans).runFrom (quiet.1, accessTo [staffTable])).1.toOption.map
        List.length = some 1)
  obtain ⟨count, counts, _⟩ := Except.exists_of_map_toOption
    (by decide +kernel :
      ((totalCount Engine.driver romans).runFrom (quiet.1, accessTo [staffTable])).1.toOption.map id =
        some 1)
  refine ⟨found, count, finds, counts, ?_⟩
  have bounds : romans.limit = .int 1 ∧ romans.offset = .int 0 := ⟨rfl, rfl⟩
  have length :=
    (length_of_found bounds.1 bounds.2 ⟨[], rfl⟩ hasPlainNames_romans finds counts).1
  simpa using length

/-- A name with a backtick cuts off the bounds, and more rows are found than remain. -/
theorem length_found_ne_of_cutOff :
    ∃ found count,
      ((find Engine.driver staffModel cutOff).runFrom (quiet.1, accessTo [staffTable])).1 = .ok found ∧
      ((totalCount Engine.driver cutOff).runFrom (quiet.1, accessTo [staffTable])).1 = .ok count ∧
      (found.length : Int) ≠ max (count - 1) 0 := by
  obtain ⟨found, finds, one⟩ := Except.exists_of_map_toOption
    (by decide +kernel :
      ((find Engine.driver staffModel cutOff).runFrom (quiet.1, accessTo [staffTable])).1.toOption.map
        List.length = some 1)
  obtain ⟨count, counts, rfl⟩ := Except.exists_of_map_toOption
    (by decide +kernel :
      ((totalCount Engine.driver cutOff).runFrom (quiet.1, accessTo [staffTable])).1.toOption.map id =
        some 1)
  exact ⟨found, _, finds, counts, by rw [one]; decide⟩

end Execution
end TableQuery
