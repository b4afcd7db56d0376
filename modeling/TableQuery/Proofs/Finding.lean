import TableQuery.Proofs.Announcements
import TableQuery.Proofs.Answers
import TableQuery.Proofs.Escaping

/-!
# Finding

What a specification finds on a connection are the instances of the rows that it selects from its
table.
-/

namespace TableQuery

open Database

/-! ## Conditions of specifications -/

namespace Sql

theorem isTrue_ofParts
    (table : Table)
    (row : Row)
    (connective : Connective)
    (parts : List Comparison) :
    (Condition.ofParts connective parts).isTrue table row =
      match connective with
      | .any => parts.any (·.isTrue table row)
      | .all => parts.all (·.isTrue table row) := by
  by_cases single : parts.length = 1
  · obtain ⟨part, rfl⟩ := List.length_eq_one_iff.mp single
    cases connective <;> simp [Condition.ofParts, Condition.isTrue]
  · cases connective <;> simp [Condition.ofParts, Condition.isTrue, single]

end Sql

/-- A predicate is true of the rows of which its condition is. -/
theorem Predicate.isTrue_condition
    (table : Table)
    (row : Row)
    (given : Predicate) :
    given.condition.isTrue table row = given.isTrue table row := by
  cases given with
  | comparison comparator column value => rfl
  | membership negated column members =>
      cases members with
      | nil => cases negated <;> rfl
      | cons member rest =>
          simp only [Predicate.condition, List.isEmpty_cons, Bool.false_eq_true, if_false,
            Sql.Condition.isTrue, Predicate.isTrue, List.any_map, List.all_map]
          rfl
  | group connective pairs =>
      rw [Predicate.condition, Sql.isTrue_ofParts]
      cases connective with
      | any => exact List.any_map
      | all => exact List.all_map
  | foreign typeName => rfl

namespace Spec

/-- A specification keeps the rows of which all its conditions are true. -/
theorem all_conditions
    (spec : Spec)
    (table : Table)
    (row : Row) :
    (spec.conditions.all fun condition => condition.isTrue table row) = spec.keeps table row := by
  have predicates : (spec.predicates.map Predicate.condition).all
      (fun condition => condition.isTrue table row) =
      spec.predicates.all (·.isTrue table row) := by
    rw [List.all_map]
    congr 1
    funext given
    exact Predicate.isTrue_condition table row given
  rw [Spec.conditions, List.all_append, predicates, Spec.keeps]
  congr 1
  by_cases searches : spec.hasSearch
  · simp only [searchConditions, searches, if_true, List.all_cons, List.all_nil, Bool.and_true,
      Sql.isTrue_ofParts, List.any_map, Bool.not_true, Bool.false_or]
    rfl
  · simp [searchConditions, searches]

theorem rowsFor_request
    (spec : Spec)
    (table : Table) :
    rowsFor spec.request table = spec.matching table := by
  have filter : (fun row => spec.request.conditions.all fun condition =>
      condition.isTrue table row) = spec.keeps table := by
    funext row
    exact all_conditions spec table row
  rw [rowsFor, filter]
  rfl

/-- The columns that a specification names are those of a table. -/
structure NamesColumnsOf (spec : Spec) (table : Table) : Prop where
  sortColumn : table.Declares spec.sortColumn.display
  fields : ∀ field ∈ spec.fields, table.Declares field.display
  predicates : ∀ given ∈ spec.predicates, ∀ column ∈ given.columns, table.Declares column.display

end Spec

/-- The patterns that a predicate has for the engine. -/
def Predicate.patterns : Predicate → List String
  | .comparison .like _ value | .comparison .notLike _ value => [value.sqlText]
  | _ => []

namespace Spec

/-- The patterns that a specification has for the engine. -/
def patterns (spec : Spec) : List String :=
  (if spec.hasSearch then [spec.searchTerm.searchText] else []) ++
    spec.predicates.flatMap Predicate.patterns

/-- No pattern of a specification is too long for the engine. -/
def HasShortPatterns (spec : Spec) : Prop :=
  ∀ pattern ∈ spec.patterns, pattern.utf8ByteSize ≤ patternLimit

instance (spec : Spec) : Decidable spec.HasShortPatterns :=
  inferInstanceAs (Decidable (∀ pattern ∈ spec.patterns, _))

end Spec

/-! ## Requests of specifications -/

theorem Value.nul_notMem_sqlText (value : Value) : '\x00' ∉ value.sqlText.toList := by
  simp [sqlText]

theorem Value.nul_notMem_searchText (term : Value) : '\x00' ∉ term.searchText.toList := by
  have free := term.nul_notMem_sqlText
  simp [searchText, free]

/-- The comparisons of a condition have the patterns of its predicate. -/
theorem Predicate.isShort_condition
    {given : Predicate}
    (short : ∀ pattern ∈ given.patterns, pattern.utf8ByteSize ≤ patternLimit)
    {part : Sql.Comparison}
    (member : part ∈ given.condition.parts) :
    part.IsShort := by
  intro isLike
  cases given with
  | comparison comparator column value =>
      obtain rfl : part = ⟨column.display, comparator, value.sqlText⟩ := by
        simpa [condition, Sql.Condition.parts] using member
      have free := value.nul_notMem_sqlText
      cases comparator with
      | equal => cases isLike
      | notEqual => cases isLike
      | like => exact ⟨short _ (by simp [patterns]), free⟩
      | notLike => exact ⟨short _ (by simp [patterns]), free⟩
  | membership negated column members =>
      cases members <;> simp [condition, Sql.Condition.parts] at member
  | group connective pairs =>
      obtain ⟨pair, _, rfl⟩ := List.mem_map.mp member
      cases isLike
  | foreign typeName => simp [condition, Sql.Condition.parts] at member

namespace Spec

/-- A table can be asked the request of a specification that names its columns. -/
theorem fits_request
    {spec : Spec}
    {table : Table}
    (names : spec.NamesColumnsOf table)
    (short : spec.HasShortPatterns) :
    Fits spec.request table where
  sortColumn := names.sortColumn
  columns := by
    intro condition member column inColumns
    rcases List.mem_append.mp member with inSearch | inPredicates
    · obtain ⟨_, rfl⟩ := mem_searchConditions_iff.mp inSearch
      obtain ⟨part, inParts, rfl⟩ := List.mem_map.mp inColumns
      obtain ⟨field, inFields, rfl⟩ := List.mem_map.mp inParts
      exact names.fields field inFields
    · obtain ⟨given, known, rfl⟩ := List.mem_map.mp inPredicates
      obtain ⟨value, inGiven, rfl⟩ := Predicate.columns_condition inColumns
      exact names.predicates given known value inGiven
  patterns := by
    intro condition member part inParts
    rcases List.mem_append.mp member with inSearch | inPredicates
    · obtain ⟨searches, rfl⟩ := mem_searchConditions_iff.mp inSearch
      obtain ⟨field, inFields, rfl⟩ := List.mem_map.mp inParts
      exact fun _ => ⟨short _ (by simp [patterns, searches]), spec.searchTerm.nul_notMem_searchText⟩
    · obtain ⟨given, known, rfl⟩ := List.mem_map.mp inPredicates
      refine Predicate.isShort_condition (fun pattern inGiven => ?_) inParts
      exact short pattern
        (List.mem_append_right _ (List.mem_flatMap.mpr ⟨given, known, inGiven⟩))

end Spec

/-! ## Queries -/

namespace Database

/-- A declared column has no NUL character in its name. -/
theorem nulFree_of_declares
    {table : Table}
    (sound : table.IsSound)
    {name : Value}
    (declared : table.Declares name.display) :
    name.IsNulFree := by
  obtain ⟨spot, known⟩ := Option.isSome_iff_exists.mp declared
  obtain ⟨index, column, position, found, _⟩ := column?_eq_some_iff.mp known
  obtain ⟨inRange, same, _⟩ := List.findIdx?_eq_some_iff_getElem.mp position
  have column : table.columns[index] = column := by
    rw [List.getElem?_eq_getElem inRange] at found
    exact Option.some.inj found
  exact nul_notMem_of_sameName same (sound.columnNames _ (List.getElem_mem inRange))

/-- A table that is found has no NUL character in the name under which it is found. -/
theorem nul_notMem_of_findTable
    {tables : List Table}
    {name : String}
    {table : Table}
    (known : findTable tables name = .ok table)
    (sound : table.IsSound) :
    '\x00' ∉ name.toList := by
  unfold findTable at known
  split at known
  · rename_i found listed
    obtain rfl : found = table := Except.ok.inj known
    exact nul_notMem_of_sameName (by simpa using List.find?_some listed) sound.name
  · split at known
    · rename_i catalog found
      have catalogued : ∃ title ∈ Catalog.names ++ Catalog.temporaryNames, sameName title name := by
        unfold Catalog.find? at found
        split at found
        · rename_i own
          obtain ⟨title, member, same⟩ := List.any_eq_true.mp own
          exact ⟨title, List.mem_append_left _ member, same⟩
        · split at found
          · rename_i temporary
            obtain ⟨title, member, same⟩ := List.any_eq_true.mp temporary
            exact ⟨title, List.mem_append_right _ member, same⟩
          · cases found
      have plain : ∀ title ∈ Catalog.names ++ Catalog.temporaryNames, '\x00' ∉ title.toList := by
        decide
      obtain ⟨title, member, same⟩ := catalogued
      exact nul_notMem_of_sameName same (plain title member)
    · cases known

/-- No NUL character is written where the names of a specification hold none. -/
theorem nul_notMem_wholeStatement
    {spec : Spec}
    (plain : spec.IsPlain)
    (nulFree : ∀ name ∈ spec.names, name.IsNulFree)
    {filter : String}
    (compiled : (Sql.compileWhere spec Sql.doubleQuotes).outcome = .ok filter) :
    '\x00' ∉ (Sql.sectionStatement spec filter 0 0).toList := by
  have collected : ∃ fields, spec.searchFields = .list fields := by
    obtain ⟨fields, list, _⟩ := plain.fields
    exact ⟨fields, list⟩
  have filterFree := Sql.nul_notMem_compileWhere collected nulFree compiled
  have tableFree : '\x00' ∉ (Sql.quoteName spec.table).toList := by
    rw [Sql.nul_mem_quoteName]
    exact nulFree spec.table (by simp [Spec.names])
  have orderFree : '\x00' ∉ (Sql.orderClause spec).toList := by
    have name : '\x00' ∉ spec.sortColumn.display.toList :=
      nulFree spec.sortColumn (by simp [Spec.names])
    have keyword : '\x00' ∉ spec.sortDirection.keyword.toList := by
      cases spec.sortDirection <;> decide
    simp [Sql.orderClause, Sql.nul_mem_quoteName, name, keyword]
  simp [Sql.nul_mem_sectionStatement, tableFree, filterFree, orderFree]

/-- The engine answers the statement of a specification with the rows that it asks for. -/
theorem query_wholeStatement
    {tables : List Table}
    {table : Table}
    {spec : Spec}
    (plain : spec.IsPlain)
    (known : findTable tables spec.table.display = .ok table)
    (sound : table.IsSound)
    (inner : ∀ condition ∈ spec.conditions, condition.SeeksKey table →
      ∀ row ∈ table.rows, row.IsInner)
    (names : spec.NamesColumnsOf table)
    (short : spec.HasShortPatterns)
    (shallow : (Sql.filterOperand spec.conditions).height ≤ Sql.heightLimit)
    {filter : String}
    (compiled : (Sql.compileWhere spec Sql.doubleQuotes).outcome = .ok filter) :
    query tables (Sql.sectionStatement spec filter 0 0) =
      .ok ⟨table.columns.map Column.name, (spec.matching table).map Row.cells⟩ := by
  have nulFree : ∀ name ∈ spec.names, name.IsNulFree := by
    intro name member
    simp only [Spec.names, List.mem_cons, List.mem_append, List.mem_flatMap] at member
    rcases member with rfl | rfl | inFields | ⟨given, inPredicates, inColumns⟩
    · exact nul_notMem_of_findTable known sound
    · exact nulFree_of_declares sound names.sortColumn
    · exact nulFree_of_declares sound (names.fields name inFields)
    · exact nulFree_of_declares sound (names.predicates given inPredicates name inColumns)
  have tokens := Sql.tokenize_sectionStatement plain compiled (by decide : 0 < 2 ^ 63)
    (by decide : 0 < 2 ^ 63)
  have request : (spec.sectioned 0 0).request = whole spec.request := rfl
  have low : ¬ Sql.heightLimit < (Sql.filterOperand (whole spec.request).conditions).height :=
    shallow.not_gt
  have grammatical := Sql.grammatical_request (plain.sectioned 0 0)
  rw [request] at tokens grammatical
  have parsed : Sql.readTokens (Sql.tokenize (Sql.sectionStatement spec filter 0 0)) =
      .ok { query := (whole spec.request).query } := by
    rw [tokens, Sql.readTokens_request grammatical, if_neg low]
  have rows : ∀ row ∈ table.rows, table.IsSoundRow row := fun row member =>
    fun name declared => isSoundFor_placeOf sound declared member
  have fits : Fits spec.request table := Spec.fits_request names short
  have named : findTable tables spec.request.table = .ok table := known
  have answered := evaluate_whole named rows inner (Sql.grammatical_request plain).conditions fits
  rw [Spec.rowsFor_request] at answered
  exact query_of_evaluate (nul_notMem_wholeStatement plain nulFree compiled) parsed answered

end Database

/-! ## Runs -/

namespace Execution

/-- The statement of a section of the rows, or the fault that ends the compilation of the
conditions. -/
theorem statementOf_sectioned
    (spec : Spec)
    {limit offset : Nat}
    (smallLimit : limit < 2 ^ 63)
    (smallOffset : offset < 2 ^ 63) :
    statementOf (spec.sectioned limit offset) =
      (Sql.compileWhere spec Sql.doubleQuotes).outcome.map fun filter =>
        Sql.sectionStatement spec filter limit offset := by
  have counts := Sql.compile_natCast (spec.sectioned limit offset) Sql.doubleQuotes rfl rfl
    (Spec.lt_digitLimit smallLimit) (Spec.lt_digitLimit smallOffset)
  have same : Sql.compileWhere (spec.sectioned limit offset) Sql.doubleQuotes =
    Sql.compileWhere spec Sql.doubleQuotes := rfl
  rw [statementOf, counts, same]
  cases (Sql.compileWhere spec Sql.doubleQuotes).outcome <;> rfl

theorem map_window
    (f : α → β)
    (limit offset : Nat)
    (elements : List α) :
    (window limit offset elements).map f = window limit offset (elements.map f) := by
  unfold window
  split
  · exact List.map_drop
  · rw [List.map_take, List.map_drop]

/-- The instance of a row of a table. -/
def instanceOf (model : Model) (table : Table) (row : Row) : Except Fault Instance :=
  model.hydrate (Access.rowValue (table.columns.map Column.name) row.cells)

theorem instancesOf_rows
    (model : Model)
    (table : Table)
    (rows : List Row) :
    instancesOf model ⟨table.columns.map Column.name, rows.map Row.cells⟩ =
      rows.mapM (instanceOf model table) := by
  rw [instancesOf, List.map_map, List.mapM_map]
  rfl

/-- A specification that names the columns of a table on an open connection. -/
structure Asks (spec : Spec) (setting : Setting Access) (table : Table) : Prop where
  limit : ∃ limit : Nat, spec.limit = .int limit ∧ limit < 2 ^ 63
  offset : ∃ offset : Nat, spec.offset = .int offset ∧ offset < 2 ^ 63
  searchFields : ∃ fields, spec.searchFields = .list fields
  complete : ∀ given ∈ spec.predicates, given.IsComplete
  isOpen : setting.2.connection.isOpen
  found : findTable setting.2.tables spec.table.display = .ok table
  sound : table.IsSound
  names : spec.NamesColumnsOf table

/-- A specification asks for a section of its rows. -/
theorem Asks.sectioned
    {spec : Spec}
    {setting : Setting Access}
    {table : Table}
    (asks : Asks spec setting table) :
    ∃ limit offset : Nat, spec.limit = .int limit ∧ spec.offset = .int offset ∧
      limit < 2 ^ 63 ∧ offset < 2 ^ 63 ∧ spec.sectioned limit offset = spec := by
  obtain ⟨limit, limited, smallLimit⟩ := asks.limit
  obtain ⟨offset, skipped, smallOffset⟩ := asks.offset
  refine ⟨limit, offset, limited, skipped, smallLimit, smallOffset, ?_⟩
  rw [Spec.sectioned, ← limited, ← skipped]

/-- What a specification finds are the instances of the rows that it selects, in their order, and
nothing on the connection changes. -/
def FindsSelected (model : Model) (spec : Spec) (setting : Setting Access) (table : Table) : Prop :=
  ∃ world, (find Engine.driver model spec).runFrom setting =
    ((spec.selected table).mapM (instanceOf model table), (world, setting.2))

/-- The rows that a specification selects are found, whatever their numbers are if no filter asks
whether the key equals a value. -/
theorem Asks.findsSelected_of_inner
    {spec : Spec}
    {setting : Setting Access}
    {table : Table}
    (asks : Asks spec setting table)
    (plain : spec.HasPlainNames)
    (texts : spec.HasTexts)
    (inner : ∀ condition ∈ spec.conditions, condition.SeeksKey table →
      ∀ row ∈ table.rows, row.IsInner)
    (short : spec.HasShortPatterns)
    (shallow : (Sql.filterOperand spec.conditions).height ≤ Sql.heightLimit)
    (takes : TakesStatements setting.1)
    (model : Model) :
    FindsSelected model spec setting table := by
  obtain ⟨limit, offset, limited, skipped, smallLimit, smallOffset, same⟩ := asks.sectioned
  have isPlain := plain.isPlain asks.searchFields asks.complete texts
  obtain ⟨filter, compiled, _⟩ := Sql.spells_compileWhere isPlain
  have stated := statementOf_sectioned spec smallLimit smallOffset
  rw [same, compiled] at stated
  obtain ⟨world, announced⟩ := takes (Sql.sectionStatement spec filter limit offset)
  refine ⟨world, ?_⟩
  have queried := Sql.query_sectionStatement setting.2.tables isPlain compiled smallLimit smallOffset
  rw [query_wholeStatement isPlain asks.found asks.sound inner asks.names short shallow
    compiled] at queried
  have answered : answerTo setting.2 (Sql.sectionStatement spec filter limit offset) =
      .ok ⟨table.columns.map Column.name, (spec.selected table).map Row.cells⟩ := by
    have rows : spec.selected table = window limit offset (spec.matching table) := by
      rw [Spec.selected, limited, skipped]
      rfl
    rw [answerTo, if_pos asks.isOpen, queried, rows, map_window]
    rfl
  rw [runFrom_find_of_answered stated announced answered, instancesOf_rows]

/-- The rows that a specification selects are found, whatever their numbers are if no filter asks
whether a column equals a value. -/
theorem Asks.findsSelected
    {spec : Spec}
    {setting : Setting Access}
    {table : Table}
    (asks : Asks spec setting table)
    (plain : spec.HasPlainNames)
    (texts : spec.HasTexts)
    (inner : ∀ condition ∈ spec.conditions, condition.Equates → ∀ row ∈ table.rows, row.IsInner)
    (short : spec.HasShortPatterns)
    (shallow : (Sql.filterOperand spec.conditions).height ≤ Sql.heightLimit)
    (takes : TakesStatements setting.1)
    (model : Model) :
    FindsSelected model spec setting table :=
  asks.findsSelected_of_inner plain texts
    (fun condition member seeks => inner condition member seeks.1) short shallow takes model

/-- The engine finds from the text of a statement the rows that the specification selects.  No name
has a backtick, all values have texts, the number of no row is the least integer of 64 bits, the
engine can take the patterns and the height of the filter, and the log takes the statement. -/
theorem find_selected
    {spec : Spec}
    {setting : Setting Access}
    {table : Table}
    (asks : Asks spec setting table)
    (plain : spec.HasPlainNames)
    (texts : spec.HasTexts)
    (inner : ∀ row ∈ table.rows, row.IsInner)
    (short : spec.HasShortPatterns)
    (shallow : (Sql.filterOperand spec.conditions).height ≤ Sql.heightLimit)
    (takes : TakesStatements setting.1)
    (model : Model) :
    FindsSelected model spec setting table := by
  exact asks.findsSelected plain texts (fun _ _ _ => inner) short shallow takes model

/-- A query of staff whose predicates compare columns with values. -/
def comparing (limit : Nat) (pairs : List (String × Value)) : Spec where
  table := .text "staff"
  limit := .int limit
  predicates := pairs.map fun pair => .comparison .equal (.text pair.1) pair.2

/-- Such a query can be asked of a sound table of staff that declares the columns. -/
theorem asks_comparing
    (world : World)
    {table : Table}
    (found : findTable [table] "staff" = .ok table)
    (sound : table.IsSound)
    (key : table.Declares "id")
    {limit : Nat}
    (smallLimit : limit < 2 ^ 63)
    {pairs : List (String × Value)}
    (declared : ∀ pair ∈ pairs, table.Declares pair.1) :
    Asks (comparing limit pairs) (world, accessTo [table]) table where
  limit := ⟨limit, rfl, smallLimit⟩
  offset := ⟨0, rfl, by decide⟩
  searchFields := ⟨[], rfl⟩
  complete := by
    intro given member
    obtain ⟨pair, _, rfl⟩ := List.mem_map.mp member
    trivial
  isOpen := rfl
  found := found
  sound := sound
  names :=
    { sortColumn := key
      fields := by simp [Spec.fields, comparing]
      predicates := by
        intro given member column inColumns
        obtain ⟨pair, known, rfl⟩ := List.mem_map.mp member
        obtain rfl := List.mem_singleton.mp inColumns
        exact declared pair known }

/-- Such a query searches for nothing, so that only the values of its predicates need texts. -/
theorem hasTexts_comparing
    (limit : Nat)
    {pairs : List (String × Value)}
    (texts : ∀ pair ∈ pairs, pair.2.HasText) :
    (comparing limit pairs).HasTexts where
  term := fun searches => absurd searches Bool.false_ne_true
  values := by
    intro given member value inValues
    obtain ⟨pair, known, rfl⟩ := List.mem_map.mp member
    obtain rfl := List.mem_singleton.mp inValues
    exact texts pair known

theorem isSound_emptyTable : Table.IsSound { staffTable with rows := [] } := by
  have made : Access.newTable [] "staff"
      [("id", "INTEGER PRIMARY KEY"), ("name", "TEXT"), ("city", "TEXT"), ("age", "INTEGER")] =
      .ok { staffTable with rows := [] } := by
    rfl
  exact Access.isSound_newTable made

theorem isSound_staffTable : staffTable.IsSound := by
  have inserted : Table.insert { staffTable with rows := [] }
      [.integer 1, .text "Mary O'Neil", .text "Rome", .integer 30] = .ok staffTable := by
    rfl
  exact isSound_emptyTable.insert rfl inserted

theorem find_selected_romans :
    FindsSelected staffModel romans (quiet.1, accessTo [staffTable]) staffTable := by
  have asks : Asks (comparing 1 [("city", .text "Rome")]) (quiet.1, accessTo [staffTable])
      staffTable :=
    asks_comparing quiet.1 rfl isSound_staffTable (by decide) (by decide) (by decide)
  have announced : ∃ after, (announce "").runFrom quiet.1 = (.ok (), after) := ⟨_, rfl⟩
  obtain ⟨after, announced⟩ := announced
  have texts : Spec.HasTexts (comparing 1 [("city", .text "Rome")]) :=
    hasTexts_comparing 1 (by simp)
  exact find_selected asks hasPlainNames_romans texts (by decide) (by decide) (by decide)
    (takesStatements_of_announce announced).1 staffModel

/-- A table with a backtick in the name of a column. -/
def tickedTable : Table where
  name := "staff"
  columns := [.declare "id" "INTEGER PRIMARY KEY", .declare "first`last" "TEXT"]
  rows := [⟨1, [.integer 1, .text "Mary"]⟩]

/-- A table with a row of the least number. -/
def lowTable : Table where
  name := "staff"
  columns := [.declare "id" "INTEGER PRIMARY KEY"]
  rows := [⟨-(2 ^ 63), [.integer (-(2 ^ 63))]⟩]

/-- A world whose settings ask for a log of statements, with a memory that is too large. -/
def overfull : World :=
  { quiet.1 with
    environment := [("QUERY_LOG_SQL", "true"), ("LOG_MEMORY_SIZE", "9223372036854775808")] }

/-- What is found has as many instances as rows are selected. -/
theorem FindsSelected.length
    {model : Model}
    {spec : Spec}
    {setting : Setting Access}
    {table : Table}
    (finds : FindsSelected model spec setting table) :
    ((find Engine.driver model spec).runFrom setting).1.toOption.map List.length =
      ((spec.selected table).mapM (instanceOf model table)).toOption.map List.length := by
  obtain ⟨world, found⟩ := finds
  rw [found]

/-- A query is not answered if its filter makes an expression that is too high. -/
theorem not_findsSelected_of_tooHigh
    {model : Model}
    {spec : Spec}
    {setting : Setting Access}
    {table : Table}
    (asks : Asks spec setting table)
    (names : spec.HasPlainNames)
    (texts : spec.HasTexts)
    (high : Sql.heightLimit < (Sql.filterOperand spec.conditions).height)
    (none : table.rows = []) :
    ¬ FindsSelected model spec setting table := by
  rintro ⟨world, found⟩
  have nothing : spec.selected table = [] := by
    simp [Spec.selected, Spec.matching, none, window]
  rw [nothing] at found
  obtain ⟨limit, offset, _, _, smallLimit, smallOffset, same⟩ := asks.sectioned
  obtain ⟨statement, answer, stated, _, answered, _⟩ := runFrom_find_ok_iff.mp found
  have plain := names.isPlain asks.searchFields asks.complete texts
  obtain ⟨filter, compiled, _⟩ := Sql.spells_compileWhere plain
  have sectioned := statementOf_sectioned spec smallLimit smallOffset
  rw [same, stated, compiled] at sectioned
  obtain rfl := Except.ok.inj sectioned
  obtain ⟨_, queried⟩ := answerTo_eq_ok_iff.mp answered
  obtain ⟨_, _, parsed, _⟩ := evaluate_of_query queried
  rw [Sql.tokenize_sectionStatement plain compiled smallLimit smallOffset, same,
    Sql.readTokens_request (Sql.grammatical_request plain)] at parsed
  have conditions : spec.request.conditions = spec.conditions := rfl
  rw [conditions, if_pos high] at parsed
  cases parsed

/-- A query with a value that has no text has no statement. -/
theorem not_findsSelected_of_textless
    {model : Model}
    {spec : Spec}
    {setting : Setting Access}
    {table : Table}
    (asks : Asks spec setting table)
    (textless : ¬ spec.HasTexts)
    (none : table.rows = []) :
    ¬ FindsSelected model spec setting table := by
  rintro ⟨world, found⟩
  have nothing : spec.selected table = [] := by
    simp [Spec.selected, Spec.matching, none, window]
  rw [nothing] at found
  obtain ⟨limit, offset, _, _, smallLimit, smallOffset, same⟩ := asks.sectioned
  obtain ⟨statement, answer, stated, _⟩ := runFrom_find_ok_iff.mp found
  have sectioned := statementOf_sectioned spec smallLimit smallOffset
  rw [same, stated] at sectioned
  rcases compiled : (Sql.compileWhere spec Sql.doubleQuotes).outcome with fault | filter
  · cases sectioned.trans (congrArg _ compiled)
  · exact textless (Sql.hasTexts_of_compileWhere compiled)

/-- Rows that a specification selects are not found where a column has a backtick in its name, a row
has the least number of 64 bits, the filter is too high for the engine, the log has no memory, or a
value has no text. -/
theorem not_findsSelected :
    (Asks (comparing 0 [("first`last", .text "Mary")]) (quiet.1, accessTo [tickedTable])
        tickedTable ∧
      ¬ FindsSelected staffModel (comparing 0 [("first`last", .text "Mary")])
        (quiet.1, accessTo [tickedTable]) tickedTable) ∧
    (Asks (comparing 0 [("id", .text "-9223372036854775808.0")]) (quiet.1, accessTo [lowTable])
        lowTable ∧
      ¬ FindsSelected staffModel (comparing 0 [("id", .text "-9223372036854775808.0")])
        (quiet.1, accessTo [lowTable]) lowTable) ∧
    (Asks (comparing 0 []) (overfull, accessTo [staffTable]) staffTable ∧
      ¬ FindsSelected staffModel (comparing 0 []) (overfull, accessTo [staffTable]) staffTable) ∧
    (Asks (comparing 0 (List.replicate 1001 ("id", .int 1)))
        (quiet.1, accessTo [{ staffTable with rows := [] }]) { staffTable with rows := [] } ∧
      ¬ FindsSelected staffModel (comparing 0 (List.replicate 1001 ("id", .int 1)))
        (quiet.1, accessTo [{ staffTable with rows := [] }]) { staffTable with rows := [] }) ∧
    (Asks (comparing 0 [("age", .int (10 ^ Numeral.digitLimit : Nat))])
        (quiet.1, accessTo [{ staffTable with rows := [] }]) { staffTable with rows := [] } ∧
      ¬ FindsSelected staffModel (comparing 0 [("age", .int (10 ^ Numeral.digitLimit : Nat))])
        (quiet.1, accessTo [{ staffTable with rows := [] }]) { staffTable with rows := [] }) := by
  have ticked : tickedTable.IsSound := by
    have made : Access.newTable [] "staff"
        [("id", "INTEGER PRIMARY KEY"), ("first`last", "TEXT")] =
        .ok { tickedTable with rows := [] } := by
      rfl
    have inserted : Table.insert { tickedTable with rows := [] } [.integer 1, .text "Mary"] =
        .ok tickedTable := by
      rfl
    exact (Access.isSound_newTable made).insert rfl inserted
  have low : lowTable.IsSound := by
    have made : Access.newTable [] "staff" [("id", "INTEGER PRIMARY KEY")] =
        .ok { lowTable with rows := [] } := by
      rfl
    have inserted : Table.insert { lowTable with rows := [] } [.integer (-(2 ^ 63))] =
        .ok lowTable := by
      rfl
    exact (Access.isSound_newTable made).insert rfl inserted
  have declared : ∀ pair ∈ List.replicate 1001 ("id", Value.int 1),
      Table.Declares { staffTable with rows := [] } pair.1 := by
    intro pair member
    obtain rfl := List.eq_of_mem_replicate member
    decide
  have tall : Asks (comparing 0 (List.replicate 1001 ("id", .int 1)))
      (quiet.1, accessTo [{ staffTable with rows := [] }]) { staffTable with rows := [] } :=
    asks_comparing quiet.1 rfl isSound_emptyTable (by decide) (by decide) declared
  have names : (comparing 0 (List.replicate 1001 ("id", .int 1))).HasPlainNames := by
    refine ⟨by decide, by decide, fun field member => absurd member List.not_mem_nil, ?_⟩
    intro given member
    obtain ⟨pair, known, rfl⟩ := List.mem_map.mp member
    obtain rfl := List.eq_of_mem_replicate known
    exact (by decide : ∀ column ∈ [Value.text "id"], column.IsPlainName)
  have texts : (comparing 0 (List.replicate 1001 ("id", .int 1))).HasTexts := by
    refine hasTexts_comparing 0 fun pair member => ?_
    obtain rfl := List.eq_of_mem_replicate member
    exact Value.hasText_int_of_lt (by decide : (1 : Int).natAbs < 10 ^ 1) (by decide)
  have long : Asks (comparing 0 [("age", .int (10 ^ Numeral.digitLimit : Nat))])
      (quiet.1, accessTo [{ staffTable with rows := [] }]) { staffTable with rows := [] } :=
    asks_comparing quiet.1 rfl isSound_emptyTable (by decide) (by decide)
      (List.forall_mem_singleton.mpr (by decide))
  refine ⟨⟨?_, ?_⟩, ⟨?_, ?_⟩, ⟨?_, ?_⟩, ⟨tall, ?_⟩, long, ?_⟩
  · exact asks_comparing quiet.1 rfl ticked (by decide) (by decide) (by decide)
  · exact fun finds => absurd finds.length (by decide +kernel)
  · exact asks_comparing quiet.1 rfl low (by decide) (by decide) (by decide)
  · exact fun finds => absurd finds.length (by decide +kernel)
  · exact asks_comparing overfull rfl isSound_staffTable (by decide) (by decide) (by decide)
  · exact fun finds => absurd finds.length (by decide +kernel)
  · exact not_findsSelected_of_tooHigh tall names texts (by decide +kernel) rfl
  · refine not_findsSelected_of_textless long (fun texts => ?_) rfl
    have short := texts.values _ List.mem_cons_self _ List.mem_cons_self
    have lacks := Value.textFault?_int_of_long (10 ^ Numeral.digitLimit : Nat) le_rfl
    cases lacks.symm.trans short

end Execution

end TableQuery
