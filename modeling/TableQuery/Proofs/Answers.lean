import TableQuery.Proofs.Conditions

/-!
# Answers to requests

The engine answers a request for all rows of a sound table with the rows of which every condition is
true, in the order of the sort column.  Rows that the column does not tell apart keep their order.
-/

namespace TableQuery
namespace Database

/-! ## Plans -/

section Plans

variable {tables : List Table}
  {table : Table}
  {name : String}

/-- The scope of one table under its own name. -/
def scopeOf (table : Table) : Scope :=
  [{ table, label := table.name }]

/-- A declared column is resolved to its place. -/
theorem resolves_scopeOf (declared : table.Declares name) :
    (scopeOf table).Resolves (placeOf table) name := by
  obtain ⟨spot, known⟩ := Option.isSome_iff_exists.mp declared
  have candidates : (scopeOf table).candidates [] = [({ table, label := table.name }, 0)] := rfl
  simp only [Scope.Resolves, Scope.meaning, Sql.named, candidates, List.filterMap_cons,
    List.filterMap_nil, known, Option.map_some, placeOf, Option.getD_some]

/-- The position of a member is not changed by what stands beside the members. -/
theorem findIdx?_zipIdx
    (p : α → Bool)
    (elements : List α)
    (start : Nat) :
    (elements.zipIdx start).findIdx? (fun pair => p pair.1) = elements.findIdx? p := by
  induction elements generalizing start with
  | nil => rfl
  | cons first rest inductionHypothesis =>
      simp [List.zipIdx_cons, List.findIdx?_cons, inductionHypothesis]

theorem columns_scopeOf (table : Table) :
    (scopeOf table).columns = table.columns.zipIdx.map fun (column, position) =>
      (table.name, column, ⟨0, .column position column.affinity column.isKey⟩) := by
  simp [scopeOf, Scope.columns]

/-- A declared column is a column of the answer. -/
theorem columnNamed?_scopeOf (declared : table.Declares name) :
    (scopeOf table).columnNamed? name = some (placeOf table name) := by
  obtain ⟨spot, known⟩ := Option.isSome_iff_exists.mp declared
  obtain ⟨index, column, position, found, rfl⟩ := column?_eq_some_iff.mp known
  have positioned : (scopeOf table).positionNamed? name = some index := by
    have numbered := findIdx?_zipIdx (fun column => sameName column.name name) table.columns 0
    rw [Scope.positionNamed?, columns_scopeOf, List.findIdx?_map, ← position, ← numbered]
    rfl
  simp [Scope.columnNamed?, positioned, columns_scopeOf, found, placeOf, known]

theorem ofTerms_name
    (known : findTable tables name = .ok table) :
    Scope.ofTerms tables [{ name }] = .ok (scopeOf table) := by
  rw [Scope.ofTerms, List.mapM_cons, List.mapM_nil]
  simp only [known]
  rfl

variable {request : Sql.Request}

/-- The conditions of a request on the rows of a table, with their names resolved. -/
def filterOf (table : Table) (conditions : List Sql.Condition) : List (Sql.Expression Place) :=
  conditions.flatMap fun condition => (condition.expression (placeOf table)).conjuncts

/-- The part of a plan that selects rows of a table. -/
def partOf (table : Table) (conditions : List Sql.Condition) : Part where
  scope := scopeOf table
  projection := .rows
  conditions := filterOf table conditions

/-- What is joined is resolved one by one. -/
theorem Scope.resolve_chain_and
    (scope : Scope)
    {expressions : List (Sql.Expression Sql.Reference)}
    (nonempty : expressions ≠ []) :
    scope.resolve (.chain .and expressions) =
      (expressions.mapM scope.resolve).map (.chain .and) := by
  cases expressions with
  | nil => exact absurd rfl nonempty
  | cons first rest =>
      induction rest using List.reverseRecOn with
      | nil =>
          rw [List.mapM_cons, List.mapM_nil, Sql.Expression.chain_singleton]
          cases scope.resolve first <;> rfl
      | append_singleton others last inductionHypothesis =>
          have front := inductionHypothesis (List.cons_ne_nil first others)
          have resolved : scope.resolve (.binary .and (.chain .and (first :: others)) last) = (do
              let left ← scope.resolve (.chain .and (first :: others))
              return .binary .and left (← scope.resolve last)) := by
            rw [Scope.resolve]
            simp
          have single : [last].mapM scope.resolve =
              (scope.resolve last).map fun placed => [placed] := by
            rw [List.mapM_cons, List.mapM_nil]
            cases scope.resolve last <;> rfl
          rw [Sql.Expression.chain_concat, resolved, front, ← List.cons_append, List.mapM_append,
            single]
          cases known : (first :: others).mapM scope.resolve with
          | error problem => rfl
          | ok placed =>
              cases scope.resolve last with
              | error problem => rfl
              | ok final =>
                  obtain ⟨head, tail, rfl⟩ : ∃ head tail, placed = head :: tail := by
                    have paired := (Except.mapM_eq_ok_iff.mp known).length_eq
                    exact List.exists_cons_of_ne_nil (by rintro rfl; simp at paired)
                  simp [Sql.Expression.chain_concat, bind, Except.bind, pure, Except.pure,
                    Except.map]

/-- The filter of a part of one table is resolved there. -/
theorem Part.ofSelection_unjoined
    (table : Table)
    {selection : Sql.Selection}
    (unjoined : selection.joins = [])
    (filter : Option (Sql.Expression Sql.Reference)) :
    Part.ofSelection (scopeOf table) { selection with filter } =
      (filter.mapM (scopeOf table).resolve).map fun filter =>
        { scope := scopeOf table
          projection := selection.projection
          conditions := filter.toList.flatMap (·.conjuncts) } := by
  obtain ⟨projection, tables, joins, _⟩ := selection
  obtain rfl : joins = [] := unjoined
  have checked : (scopeOf table).checkColumns = .ok () := rfl
  cases projection <;>
    simp only [Part.ofSelection, checked, List.mapM_nil] <;>
    rcases filter.mapM (scopeOf table).resolve with _ | _ | _ <;> rfl

/-- The part of a selection on one table has the parts of all its conditions. -/
theorem Part.ofSelection_filter
    (table : Table)
    {selection : Sql.Selection}
    (unjoined : selection.joins = [])
    (conditions : List Sql.Condition) :
    Part.ofSelection (scopeOf table)
        { selection with filter := Sql.filterExpression? conditions } =
      (conditions.mapM fun condition =>
        (scopeOf table).resolve (condition.expression Sql.named)).map fun resolved =>
          { scope := scopeOf table
            projection := selection.projection
            conditions := resolved.flatMap (·.conjuncts) } := by
  rw [Part.ofSelection_unjoined table unjoined]
  by_cases empty : conditions = []
  · subst empty
    rfl
  · have nonempty : (conditions.map fun condition => condition.expression Sql.named) ≠ [] := by
      simpa using empty
    have filter : Sql.filterExpression? conditions =
        some (.chain .and (conditions.map fun condition => condition.expression Sql.named)) := by
      simp [Sql.filterExpression?, empty, Sql.tree_filterOperand]
    have resolved := (scopeOf table).resolve_chain_and nonempty
    rw [List.mapM_map] at resolved
    rw [filter, Option.mapM_some, resolved]
    have mapped : conditions.mapM ((scopeOf table).resolve ∘
        fun condition => condition.expression Sql.named) =
      conditions.mapM fun condition =>
        (scopeOf table).resolve (condition.expression Sql.named) := rfl
    rw [mapped]
    cases known : conditions.mapM fun condition =>
        (scopeOf table).resolve (condition.expression Sql.named) with
    | error problem => rfl
    | ok placed =>
        have remains : placed ≠ [] := by
          have paired := (Except.mapM_eq_ok_iff.mp known).length_eq
          rintro rfl
          exact empty (List.length_eq_zero_iff.mp paired)
        have parts := Sql.Expression.conjuncts_chain_and placed remains
        simp [Functor.map, Except.map, parts]

/-- Conditions on columns of a table are resolved to their places. -/
theorem mapM_resolve_declared
    {conditions : List Sql.Condition}
    (declared : ∀ condition ∈ conditions, ∀ column ∈ condition.columns, table.Declares column) :
    (conditions.mapM fun condition =>
        (scopeOf table).resolve (condition.expression Sql.named)) =
      .ok (conditions.map fun condition => condition.expression (placeOf table)) := by
  rw [Except.mapM_eq_ok_iff, List.forall₂_map_right_iff, List.forall₂_same]
  intro condition member
  exact Scope.resolve_condition fun column inCondition =>
    resolves_scopeOf (declared condition member column inCondition)

theorem ofSelection_filtered
    (name : String)
    {conditions : List Sql.Condition}
    (declared : ∀ condition ∈ conditions, ∀ column ∈ condition.columns, table.Declares column) :
    Part.ofSelection (scopeOf table)
        { tables := [{ name }], filter := Sql.filterExpression? conditions } =
      .ok (partOf table conditions) := by
  have made := Part.ofSelection_filter table (rfl : Sql.Selection.joins { tables := [{ name }] } = [])
    conditions
  rw [mapM_resolve_declared declared] at made
  simp only [Except.map, List.flatMap_map] at made
  exact made

/-- The plan for a request of one table. -/
theorem plan_request
    (known : findTable tables request.table = .ok table)
    (declaredSort : table.Declares request.sortColumn)
    (declared : ∀ condition ∈ request.conditions, ∀ column ∈ condition.columns,
      table.Declares column) :
    plan tables (whole request).query = .ok
      { earlier := []
        part := partOf table request.conditions
        order := .expressions
          [{ expression := .reference (placeOf table request.sortColumn)
             direction := request.direction }]
        limit := none
        offset := none } := by
  have scope := ofTerms_name known
  have part := ofSelection_filtered request.table declared
  have column := columnNamed?_scopeOf declaredSort
  have term : (scopeOf table).resolveTerm .rows 1
      (.reference { column := request.sortColumn, quote := some '`' }) =
      .ok (.reference (placeOf table request.sortColumn)) := by
    simp only [Scope.resolveTerm, column]
  have selection : (whole request).query.selection =
    { tables := [{ name := request.table }]
      filter := Sql.filterExpression? request.conditions } := rfl
  have order : (whole request).query.order.zipIdx =
    [({ expression := .reference { column := request.sortColumn, quote := some '`' }
        direction := request.direction }, 0)] := rfl
  have single : (whole request).query.earlier = [] := rfl
  have unbounded : (whole request).query.limit = none ∧ (whole request).query.offset = none :=
    ⟨rfl, rfl⟩
  simp only [plan, selection, order, scope, single, unbounded, scopesOf, Option.mapM_none]
  simp only [bind, Except.bind, pure, Except.pure, part]
  simp only [List.mapM_cons, List.mapM_nil, term]
  rfl

end Plans

/-! ## Rows -/

/-- What is kept depends only on the results of the test on the members. -/
theorem filterM_congr
    {test other : α → Except fault Bool}
    {elements : List α}
    (same : ∀ element ∈ elements, test element = other element) :
    elements.filterM test = elements.filterM other := by
  have kept : ∀ earlier : List α,
      List.filterAuxM test elements earlier = List.filterAuxM other elements earlier := by
    induction elements with
    | nil => exact fun _ => rfl
    | cons first rest inductionHypothesis =>
        intro earlier
        have following := inductionHypothesis fun element member =>
          same element (List.mem_cons_of_mem first member)
        simp only [List.filterAuxM, same first (by simp), following]
  rw [List.filterM, kept]
  rfl

/-- What is made from members is kept where a test has the result that it is true. -/
theorem filterM_map
    {make : α → β}
    {test : β → Except fault Bool}
    {truth : α → Bool}
    {elements : List α}
    (each : ∀ element ∈ elements, test (make element) = .ok (truth element)) :
    (elements.map make).filterM test = .ok ((elements.filter truth).map make) := by
  have kept : ∀ (rest : List α) (earlier : List β),
      (∀ element ∈ rest, test (make element) = .ok (truth element)) →
        List.filterAuxM test (rest.map make) earlier =
          .ok (((rest.filter truth).map make).reverse ++ earlier) := by
    intro rest
    induction rest with
    | nil => exact fun earlier _ => rfl
    | cons first others inductionHypothesis =>
        intro earlier known
        have following := inductionHypothesis
          (bif truth first then make first :: earlier else earlier)
          fun element member => known element (List.mem_cons_of_mem first member)
        rw [List.map_cons, List.filterAuxM, known first (by simp)]
        refine following.trans ?_
        cases holds : truth first <;> simp [holds]
  rw [List.filterM, kept elements [] each]
  simp [bind, Except.bind, pure, Except.pure]

section Rows

variable {table : Table}
  {conditions : List Sql.Condition}

theorem products_scopeOf (table : Table) :
    (scopeOf table).products = table.rows.map fun row => [row] := by
  simp [scopeOf, Scope.products, List.map_eq_flatMap]

/-- The rows that are kept are those of which every condition is true. -/
theorem kept_partOf
    (sound : ∀ row ∈ table.rows, table.IsSoundRow row)
    (inner : ∀ condition ∈ conditions, condition.SeeksKey table → ∀ row ∈ table.rows, row.IsInner)
    (grammatical : ∀ condition ∈ conditions, condition.Grammatical)
    (declared : ∀ condition ∈ conditions, ∀ column ∈ condition.columns, table.Declares column)
    (short : ∀ condition ∈ conditions, ∀ part ∈ condition.parts, part.IsShort) :
    (partOf table conditions).kept =
      .ok ((table.rows.filter fun row => conditions.all (·.isTrue table row)).map
        fun row => [row]) := by
  have each : ∀ row ∈ table.rows, holdAll [row] (filterOf table conditions) =
      .ok (conditions.all (·.isTrue table row)) := by
    intro row member
    apply holdAll_flatMap
    intro condition known
    exact holdAll_condition (sound row member)
      (fun seeks => inner condition known seeks row member)
      (grammatical condition known) (declared condition known) (short condition known)
  have scope : (partOf table conditions).scope = scopeOf table := rfl
  have filter : (partOf table conditions).conditions = filterOf table conditions := rfl
  rw [Part.kept, scope, filter, products_scopeOf]
  exact filterM_map each

/-- The key of a row in the order of a column. -/
def sortKeyOf (table : Table) (name : String) (direction : Direction) (row : Row) : SortKey :=
  { cell := table.cellOf row name, direction }

theorem precedes_sortKeyOf
    (name : String)
    (direction : Direction)
    (left right : Row) :
    precedes [sortKeyOf table name direction left] [sortKeyOf table name direction right] =
      table.mayPrecede name direction left right := by
  have ascending : (sortKeyOf table name .ascending left).order
      (sortKeyOf table name .ascending right) =
        (table.cellOf left name).order .binary (table.cellOf right name) := rfl
  have descending : (sortKeyOf table name .descending left).order
      (sortKeyOf table name .descending right) =
        ((table.cellOf left name).order .binary (table.cellOf right name)).swap := rfl
  cases direction
  · simp only [precedes, ascending, Table.mayPrecede]
    cases (table.cellOf left name).order .binary (table.cellOf right name) <;> rfl
  · simp only [precedes, descending, Table.mayPrecede]
    cases (table.cellOf left name).order .binary (table.cellOf right name) <;> rfl

/-- Rows are sorted by their cells in the sort column. -/
theorem sorted_rows
    {name : String}
    (declared : table.Declares name)
    (direction : Direction)
    (rows : List Row) :
    sorted [{ expression := .reference (placeOf table name), direction }]
        (rows.map fun row => [row]) =
      .ok ((rows.mergeSort (table.mayPrecede name direction)).map fun row => [row]) := by
  have keyed : (rows.map fun row => [row]).mapM (fun rows => (do
      return (← sortKeys rows [{ expression := .reference (placeOf table name), direction }],
        rows) : Except Problem (List SortKey × List Row))) =
      .ok (rows.map fun row => ([sortKeyOf table name direction row], [row])) := by
    rw [Except.mapM_eq_ok_iff, List.forall₂_map_left_iff, List.forall₂_map_right_iff,
      List.forall₂_same]
    intro row _
    have cell : eval [row] (.reference (placeOf table name)) = .ok (table.cellOf row name) :=
      congrArg Except.ok (cellAt_placeOf declared row)
    simp only [sortKeys, List.mapM_cons, List.mapM_nil, cell]
    rfl
  have merged : (rows.mergeSort (table.mayPrecede name direction)).map
      (fun row => ([sortKeyOf table name direction row], [row])) =
      (rows.map fun row => ([sortKeyOf table name direction row], [row])).mergeSort
        fun left right => precedes left.1 right.1 := by
    apply List.map_mergeSort
    intro left _ right _
    exact (precedes_sortKeyOf name direction left right).symm
  rw [sorted, keyed]
  simp only [bind, Except.bind, pure, Except.pure]
  rw [← merged, List.map_map]
  rfl

end Rows

/-! ## Answers -/

variable {tables : List Table}
  {table : Table}
  {request : Sql.Request}

/-- The rows of a table that a request asks for in order, whatever section of them. -/
def rowsFor (request : Sql.Request) (table : Table) : List Row :=
  (table.rows.filter fun row => request.conditions.all (·.isTrue table row)).mergeSort
    (table.mayPrecede request.sortColumn request.direction)

/-- A request that a table can be asked: its columns are there, and no pattern is too long. -/
structure Fits (request : Sql.Request) (table : Table) : Prop where
  sortColumn : table.Declares request.sortColumn
  columns : ∀ condition ∈ request.conditions, ∀ column ∈ condition.columns, table.Declares column
  patterns : ∀ condition ∈ request.conditions, ∀ part ∈ condition.parts, part.IsShort

/-- The answer to a request without bounds. -/
theorem evaluate_whole
    (known : findTable tables request.table = .ok table)
    (sound : ∀ row ∈ table.rows, table.IsSoundRow row)
    (inner : ∀ condition ∈ request.conditions, condition.SeeksKey table →
      ∀ row ∈ table.rows, row.IsInner)
    (grammatical : ∀ condition ∈ request.conditions, condition.Grammatical)
    (fits : Fits request table) :
    evaluate tables { query := (whole request).query } =
      .ok ⟨table.columns.map Column.name, (rowsFor request table).map Row.cells⟩ := by
  have planned := plan_request known fits.sortColumn fits.columns
  have kept := kept_partOf sound inner grammatical fits.columns fits.patterns
  have ordered := sorted_rows fits.sortColumn request.direction
    (table.rows.filter fun row => request.conditions.all (·.isTrue table row))
  have projection : (partOf table request.conditions).projection = .rows := rfl
  have columns : (partOf table request.conditions).columns = table.columns.map Column.name := by
    have shown : (partOf table request.conditions).columns =
      (scopeOf table).columns.map (·.2.1.name) := rfl
    rw [shown, columns_scopeOf, List.map_map]
    conv_rhs => rw [← List.zipIdx_map_fst 0 table.columns, List.map_map]
    rfl
  have rows : (partOf table request.conditions).rows
      [{ expression := .reference (placeOf table request.sortColumn)
         direction := request.direction }] = .ok ((rowsFor request table).map Row.cells) := by
    simp only [Part.rows, kept, projection, bind, Except.bind, ordered, pure, Except.pure]
    rw [List.map_map, rowsFor]
    simp
  simp only [evaluate, planned, bind, Except.bind]
  simp only [Plan.answer, Plan.rows, rows, Option.mapM_none, bind, Except.bind, pure, Except.pure,
    List.head?_nil, Option.map_none, Option.getD_none, columns]
  simp [sectionOf]

end Database
end TableQuery
