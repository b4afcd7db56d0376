import TableQuery.Proofs.Replacements

/-!
# Variants of filters

A filter can be built by one call or by several: both find the same rows in the same order and count
the same, wherever the calls stand among others.
-/

namespace TableQuery

open Database

/-! ## Calls in the place of others -/

namespace Call

/-- A call that adds a predicate and does nothing else. -/
def IsFilter : Call → Prop
  | .compare .. | .isMember .. | .group .. => True
  | _ => False

theorem IsFilter.silent
    {call : Call}
    (filter : call.IsFilter) :
    call.primaryKey? = none ∧ call.limit? = none ∧ call.offset? = none ∧
      call.sortColumn? = none ∧ call.direction? = none ∧ call.searchTerm? = none ∧
      call.searchFields? = none := by
  cases call <;> first | exact absurd filter id | simp

/-- Calls that write nothing of a kind leave what has been written. -/
theorem lastOf_silent
    {write : Call → Option α}
    (before after : List Call)
    {middle : List Call}
    (silent : ∀ call ∈ middle, write call = none) :
    lastOf write (before ++ middle ++ after) = lastOf write (before ++ after) := by
  have nothing : middle.filterMap write = [] := List.filterMap_eq_nil_iff.mpr silent
  rw [lastOf, List.filterMap_append, List.filterMap_append, nothing, List.append_nil,
    ← List.filterMap_append]
  rfl

end Call

namespace Spec

open Call

/-- Calls that only add predicates put them among those of the other calls. -/
theorem ofHistory_filters
    (table : Value)
    (before after : List Call)
    {middle : List Call}
    (filters : ∀ call ∈ middle, call.IsFilter) :
    ofHistory table (before ++ middle ++ after) =
      (ofHistory table (before ++ after)).having
        (before.filterMap predicate? ++ middle.filterMap predicate? ++
          after.filterMap predicate?) := by
  have silent {α : Type} {write : Call → Option α}
      (none : ∀ call ∈ middle, write call = none) :
      lastOf write (before ++ middle ++ after) = lastOf write (before ++ after) :=
    lastOf_silent before after none
  have quiet := fun call member => (filters call member).silent
  simp only [ofHistory, having, List.filterMap_append,
    silent fun call member => (quiet call member).1,
    silent fun call member => (quiet call member).2.1,
    silent fun call member => (quiet call member).2.2.1,
    silent fun call member => (quiet call member).2.2.2.1,
    silent fun call member => (quiet call member).2.2.2.2.1,
    silent fun call member => (quiet call member).2.2.2.2.2.1,
    silent fun call member => (quiet call member).2.2.2.2.2.2]

end Spec

/-! ## Variants -/

/-- A column of the table of a name, if there is one, with a plain name of its own. -/
def IsColumn (tables : List Table) (table column : Value) : Prop :=
  column.IsPlainName ∧
    ∀ found, findTable tables table.display = .ok found → found.Declares column.display

/-- Calls that add predicates to a query of a table, and other calls that say the same. -/
inductive Variants (tables : List Table) (table : Value) : List Call → List Call → Prop where
  /-- A column is one of some values if it is the first or the second and so on. -/
  | any {column : Value} {values : List Value} :
    IsColumn tables table column → values ≠ [] →
      Variants tables table
        [.isMember false column (.list values)]
        [.group .any (.list (values.map fun value => .tuple [column, value]))]
  /-- A column is none of some values, perhaps of none at all, if it differs from each. -/
  | none {column : Value} {values : List Value} :
    IsColumn tables table column →
      Variants tables table
        [.isMember true column (.list values)]
        (values.map fun value => .compare .notEqual column value)
  /-- Each of some columns is its value. -/
  | all {pairs : List (Value × Value)} :
    (∀ pair ∈ pairs, IsColumn tables table pair.1) → pairs ≠ [] →
      Variants tables table
        [.group .all (.list (pairs.map fun pair => .tuple [pair.1, pair.2]))]
        (pairs.map fun pair => .compare .equal pair.1 pair.2)

theorem pairs_list (pairs : List (Value × Value)) :
    (Value.list (pairs.map fun pair => .tuple [pair.1, pair.2])).pairs =
      .ok (pairs.map fun pair => (.text pair.1.display, pair.2)) := by
  rw [Value.pairs_eq_ok_iff (fun _ => Value.noConfusion) rfl, List.forall₂_map_left_iff,
    List.forall₂_map_right_iff, List.forall₂_same]
  exact fun pair _ => ⟨pair.1, rfl, rfl⟩

section Variants

variable {tables : List Table}
  {table column : Value}
  {values : List Value}

theorem display_text (content : String) : (Value.text content).display = content := rfl

theorem isPlain_of_mem_membership
    {negated : Bool}
    (known : IsColumn tables table column) :
    ∀ given ∈ [Predicate.membership negated column values], given.IsPlain := by
  intro given member
  obtain rfl := List.mem_singleton.mp member
  exact known.1

theorem swaps_any
    (known : IsColumn tables table column)
    (nonempty : values ≠ []) :
    Swaps tables table.display [.membership false column values]
      [.group .any (values.map fun value => (.text column.display, value))] where
  plainLeft := isPlain_of_mem_membership known
  plainRight := by
    intro given member
    obtain rfl := List.mem_singleton.mp member
    refine ⟨by simpa using nonempty, ?_⟩
    intro pair inPairs
    obtain ⟨value, _, rfl⟩ := List.mem_map.mp inPairs
    exact known.1
  values := by simp [Predicate.values, Function.comp_def]
  interchange := by
    intro found inTables
    have texts : values.map Value.sqlText ≠ [] := by simpa using nonempty
    have swapped := interchange_any (known.2 found inTables) texts
    simpa [Predicate.condition, nonempty, pairComparison, Function.comp_def, display_text]
      using swapped

theorem swaps_none (known : IsColumn tables table column) :
    Swaps tables table.display [.membership true column values]
      (values.map fun value => .comparison .notEqual column value) where
  plainLeft := isPlain_of_mem_membership known
  plainRight := by
    intro given member
    obtain ⟨value, _, rfl⟩ := List.mem_map.mp member
    exact known.1
  values := by simp [Predicate.values, List.flatMap_map]
  interchange := by
    intro found inTables
    by_cases empty : values = []
    · subst empty
      exact interchange_constant found
    · have texts : values.map Value.sqlText ≠ [] := by simpa using empty
      have swapped := interchange_notEqual (known.2 found inTables) texts
      simpa [Predicate.condition, empty, Function.comp_def] using swapped

theorem swaps_all
    {pairs : List (Value × Value)}
    (known : ∀ pair ∈ pairs, IsColumn tables table pair.1)
    (nonempty : pairs ≠ []) :
    Swaps tables table.display
      [.group .all (pairs.map fun pair => (.text pair.1.display, pair.2))]
      (pairs.map fun pair => .comparison .equal pair.1 pair.2) where
  plainLeft := by
    intro given member
    obtain rfl := List.mem_singleton.mp member
    refine ⟨by simpa using nonempty, ?_⟩
    intro named inPairs
    obtain ⟨pair, listed, rfl⟩ := List.mem_map.mp inPairs
    exact (known pair listed).1
  plainRight := by
    intro given member
    obtain ⟨pair, listed, rfl⟩ := List.mem_map.mp member
    exact (known pair listed).1
  values := by simp [Predicate.values, List.flatMap_map, Function.comp_def, ← List.map_eq_flatMap]
  interchange := by
    intro found inTables
    have declared : ∀ part ∈ pairs.map pairComparison, found.Declares part.column := by
      intro part member
      obtain ⟨pair, listed, rfl⟩ := List.mem_map.mp member
      exact (known pair listed).2 found inTables
    have swapped := interchange_all declared (by simpa using nonempty)
    have compared : pairComparison = fun pair => ⟨pair.1.display, .equal, pair.2.sqlText⟩ := rfl
    simpa [Predicate.condition, compared, Function.comp_def, display_text] using swapped

/-- Calls that say the same only add predicates, and those can take the place of each other. -/
theorem Variants.swaps
    {left right : List Call}
    (variants : Variants tables table left right) :
    (∀ call ∈ left, call.IsFilter) ∧ (∀ call ∈ right, call.IsFilter) ∧
      Swaps tables table.display (left.filterMap Call.predicate?)
        (right.filterMap Call.predicate?) := by
  cases variants with
  | @any column values known nonempty =>
      have paired := pairs_list (values.map fun value => (column, value))
      simp only [List.map_map, Function.comp_def] at paired
      refine ⟨by simp [Call.IsFilter], by simp [Call.IsFilter], ?_⟩
      have swapped := swaps_any known nonempty
      simpa [paired, Call.membersOf, Value.items, Except.toOption] using swapped
  | @none column values known =>
      refine ⟨by simp [Call.IsFilter], by simp [Call.IsFilter], ?_⟩
      have swapped : Swaps tables table.display [.membership true column values] _ :=
        swaps_none known
      simpa [Call.membersOf, Value.items, Except.toOption, List.filterMap_map, Function.comp_def]
        using swapped
  | @all pairs known nonempty =>
      have filters : ∀ call ∈ pairs.map (fun pair => Call.compare .equal pair.1 pair.2),
          call.IsFilter := by
        intro call member
        obtain ⟨pair, _, rfl⟩ := List.mem_map.mp member
        trivial
      refine ⟨by simp [Call.IsFilter], filters, ?_⟩
      have swapped := swaps_all known nonempty
      simpa [pairs_list, Except.toOption, List.filterMap_map, Function.comp_def] using swapped

end Variants

/-- What a query asks for after some calls. -/
def specAfter (builder : Builder) (start : Setting Access) (calls : List Call) : Spec :=
  (Builder.applyAll Engine.driver calls builder start).2.1.spec

theorem specAfter_of_history
    {builder : Builder}
    {table : Value}
    {before : List Call}
    (history : builder.spec = .ofHistory table before)
    (start : Setting Access)
    (calls : List Call) :
    specAfter builder start calls = .ofHistory table (before ++ calls) := by
  obtain ⟨model, spec⟩ := builder
  obtain rfl : spec = _ := history
  exact congrArg Builder.spec
    (Builder.applyAll_ofHistory Engine.driver model table before calls start).1

/-- Wherever calls stand among others, the same is found in the same order and counted with other
calls that say the same.  No name has a backtick, and not only one of the filters is too high for the
engine. -/
theorem findsAlike_of_variants
    {builder : Builder}
    (made : builder.IsMade)
    {start setting : Setting Access}
    {left right after : List Call}
    (variants : Variants setting.2.tables builder.spec.table left right)
    (names : (specAfter builder start after).HasPlainNames)
    (shallow : (specAfter builder start (left ++ after)).IsShallow ↔
      (specAfter builder start (right ++ after)).IsShallow) :
    FindsAlike setting (specAfter builder start (left ++ after))
      (specAfter builder start (right ++ after)) := by
  obtain ⟨world, access⟩ := setting
  obtain ⟨table, before, history⟩ := made.history
  rw [history] at variants
  obtain ⟨filtersLeft, filtersRight, swaps⟩ := variants.swaps
  simp only [specAfter_of_history history, ← List.append_assoc] at names shallow ⊢
  rw [Spec.ofHistory_filters table before after filtersLeft,
    Spec.ofHistory_filters table before after filtersRight] at shallow ⊢
  have others : (Spec.ofHistory table (before ++ after)).having
      (before.filterMap Call.predicate? ++ after.filterMap Call.predicate?) =
      Spec.ofHistory table (before ++ after) := by
    rw [← List.filterMap_append]
    rfl
  rw [← others] at names
  have swapped : Swaps access.tables (Spec.ofHistory table (before ++ after)).table.display
    (left.filterMap Call.predicate?) (right.filterMap Call.predicate?) := swaps
  exact swapped.findsAlike rfl rfl ⟨_, rfl⟩ names shallow

namespace Execution

/-- A new query of the staff. -/
def staffQuery : Builder where
  model := staffModel
  spec := { table := .text "staff" }

theorem isMade_staffQuery : staffQuery.IsMade := by
  have known : Builder.new staffModel = .ok staffQuery := rfl
  exact .new known

/-- A declared column of a found table. -/
theorem isColumn_of_declares
    {tables : List Table}
    {table column : Value}
    {found : Table}
    (known : findTable tables table.display = .ok found)
    (plain : column.IsPlainName)
    (declared : found.Declares column.display) :
    IsColumn tables table column := by
  refine ⟨plain, ?_⟩
  intro other same
  obtain rfl : found = other := Except.ok.inj (known.symm.trans same)
  exact declared

theorem findsAlike_of_variants_staff :
    FindsAlike (quiet.1, accessTo [staffTable])
        (specAfter staffQuery quiet
          ([.isMember false (.text "city") (.list [.text "Rome", .text "Oslo"])] ++
            [.search (.text "Mary"), .bindSearchFields (.list [.text "name"])]))
        (specAfter staffQuery quiet
          ([.group .any (.list [.tuple [.text "city", .text "Rome"],
              .tuple [.text "city", .text "Oslo"]])] ++
            [.search (.text "Mary"), .bindSearchFields (.list [.text "name"])])) ∧
      FindsAlike (quiet.1, accessTo [staffTable])
        (specAfter staffQuery quiet ([.isMember true (.text "city") (.list [])] ++ []))
        (specAfter staffQuery quiet ([] ++ [])) ∧
      FindsAlike (quiet.1, accessTo [staffTable])
        (specAfter staffQuery quiet
          ([.group .all (.list [.tuple [.text "city", .text "Rome"],
              .tuple [.text "age", .int 30]])] ++ []))
        (specAfter staffQuery quiet
          ([.compare .equal (.text "city") (.text "Rome"),
            .compare .equal (.text "age") (.int 30)] ++ [])) := by
  have city : IsColumn [staffTable] (.text "staff") (.text "city") :=
    isColumn_of_declares rfl (by decide) (by decide)
  have age : IsColumn [staffTable] (.text "staff") (.text "age") :=
    isColumn_of_declares rfl (by decide) (by decide)
  have searching : (specAfter staffQuery quiet
      [.search (.text "Mary"), .bindSearchFields (.list [.text "name"])]).HasPlainNames :=
    ⟨by decide, by decide, by decide, by decide⟩
  have bare : (specAfter staffQuery quiet []).HasPlainNames :=
    ⟨by decide, by decide, by decide, by decide⟩
  have any : Variants [staffTable] (.text "staff")
      [.isMember false (.text "city") (.list [.text "Rome", .text "Oslo"])]
      [.group .any (.list [.tuple [.text "city", .text "Rome"],
        .tuple [.text "city", .text "Oslo"]])] :=
    .any city (List.cons_ne_nil (Value.text "Rome") [.text "Oslo"])
  have none : Variants [staffTable] (.text "staff")
      [.isMember true (.text "city") (.list [])] [] :=
    .none city
  have all : Variants [staffTable] (.text "staff")
      [.group .all (.list [.tuple [.text "city", .text "Rome"], .tuple [.text "age", .int 30]])]
      [.compare .equal (.text "city") (.text "Rome"), .compare .equal (.text "age") (.int 30)] := by
    have known : ∀ pair ∈ [(Value.text "city", Value.text "Rome"), (Value.text "age", Value.int 30)],
        IsColumn [staffTable] (.text "staff") pair.1 := by
      simp only [List.mem_cons, List.not_mem_nil, or_false, forall_eq_or_imp, forall_eq]
      exact ⟨city, age⟩
    exact .all known (List.cons_ne_nil _ _)
  exact ⟨findsAlike_of_variants isMade_staffQuery any searching (by decide +kernel),
    findsAlike_of_variants isMade_staffQuery none bare (by decide +kernel),
    findsAlike_of_variants isMade_staffQuery all bare (by decide +kernel)⟩

/-- A table with a column whose name is a condition on another column once a backtick ends it. -/
def orTable : Table where
  name := "staff"
  columns :=
    [.declare "id" "INTEGER PRIMARY KEY", .declare "city" "TEXT",
      .declare "city` = `city` OR `city" "TEXT"]
  rows := [⟨1, [.integer 1, .text "Rome", .text "Oslo"]⟩]

/-- Nothing is found in a table without rows, where the engine can take the filter. -/
theorem find_of_noRows
    {spec : Spec}
    {setting : Setting Access}
    {table : Table}
    (asks : Asks spec setting table)
    (plain : spec.HasPlainNames)
    (texts : spec.HasTexts)
    (empty : table.rows = [])
    (short : spec.HasShortPatterns)
    (shallow : spec.IsShallow)
    (takes : TakesStatements setting.1)
    (model : Model) :
    ((find Engine.driver model spec).runFrom setting).1 = .ok [] := by
  have inner : ∀ condition ∈ spec.conditions, condition.Equates →
      ∀ row ∈ table.rows, row.IsInner := by simp [empty]
  have nothing : spec.selected table = [] := by simp [Spec.selected, Spec.matching, empty, window]
  obtain ⟨world, found⟩ := asks.findsSelected plain texts inner short shallow takes model
  rw [found, nothing]
  rfl

/-- A query of the staff with one predicate about the city. -/
theorem hasPlainNames_city
    {given : Predicate}
    (about : ∀ column ∈ given.columns, column = .text "city") :
    Spec.HasPlainNames { table := .text "staff", predicates := [given] } := by
  have plain : (Value.text "staff").IsPlainName ∧ (Value.text "id").IsPlainName ∧
      (Value.text "city").IsPlainName := by decide
  refine ⟨plain.1, plain.2.1, by simp [Spec.fields], ?_⟩
  intro other member column inColumns
  obtain rfl := List.mem_singleton.mp member
  rw [about column inColumns]
  exact plain.2.2

/-- What is asked for with a group of pairs. -/
theorem specAfter_group (values : List Value) :
    specAfter staffQuery quiet
        [.group .any (.list (values.map fun value => .tuple [.text "city", value]))] =
      { table := .text "staff"
        predicates := [.group .any (values.map fun value => (.text "city", value))] } := by
  have history : staffQuery.spec = .ofHistory (.text "staff") [] := rfl
  have paired := pairs_list (values.map fun value => (.text "city", value))
  simp only [List.map_map, Function.comp_def, display_text] at paired
  rw [specAfter_of_history history]
  simp [Spec.ofHistory, Call.lastOf, paired, Except.toOption]

section NoRows

variable {table : Table}
  {values : List Value}

/-- Nothing is found by a list of values among no rows, where the engine can take the list. -/
theorem find_isMember_of_noRows
    (found : findTable [table] "staff" = .ok table)
    (sound : table.IsSound)
    (key : table.Declares "id")
    (declared : table.Declares "city")
    (empty : table.rows = [])
    (texts : ∀ value ∈ values, value.HasText)
    (shallow : (specAfter staffQuery quiet
      [.isMember false (.text "city") (.list values)]).IsShallow) :
    ((find Engine.driver staffModel
      (specAfter staffQuery quiet [.isMember false (.text "city") (.list values)])).runFrom
        (quiet.1, accessTo [table])).1 = .ok [] := by
  have same : specAfter staffQuery quiet [.isMember false (.text "city") (.list values)] =
      { table := .text "staff", predicates := [.membership false (.text "city") values] } := rfl
  rw [same] at shallow ⊢
  have asks : Asks { table := .text "staff", predicates := [.membership false (.text "city") values] }
      (quiet.1, accessTo [table]) table :=
    { limit := ⟨0, rfl, by decide⟩
      offset := ⟨0, rfl, by decide⟩
      searchFields := ⟨[], rfl⟩
      complete := by simp [Predicate.IsComplete]
      isOpen := rfl
      found := found
      sound := sound
      names :=
        { sortColumn := key
          fields := by simp [Spec.fields]
          predicates := by
            intro given member column inColumns
            obtain rfl := List.mem_singleton.mp member
            obtain rfl := List.mem_singleton.mp inColumns
            exact declared } }
  have about : ∀ column ∈ (Predicate.membership false (.text "city") values).columns,
    column = .text "city" := fun column member => List.mem_singleton.mp member
  have short : Spec.HasShortPatterns
      { table := .text "staff", predicates := [.membership false (.text "city") values] } := by
    intro pattern member
    cases member
  have hasTexts : Spec.HasTexts
      { table := .text "staff", predicates := [.membership false (.text "city") values] } :=
    ⟨fun searches => absurd searches Bool.false_ne_true, List.forall_mem_singleton.mpr texts⟩
  have announced : ∃ after, (announce "").runFrom quiet.1 = (.ok (), after) := ⟨_, rfl⟩
  obtain ⟨after, announced⟩ := announced
  exact find_of_noRows asks (hasPlainNames_city about) hasTexts empty short shallow
    (takesStatements_of_announce announced).1 staffModel

/-- A list of values finds something else than a group of pairs that is too high for the engine. -/
theorem not_findsAlike_of_high
    (found : findTable [table] "staff" = .ok table)
    (sound : table.IsSound)
    (key : table.Declares "id")
    (declared : table.Declares "city")
    (empty : table.rows = [])
    (texts : ∀ value ∈ values, value.HasText)
    (shallow : (specAfter staffQuery quiet
      [.isMember false (.text "city") (.list values)]).IsShallow)
    (high : ¬ (specAfter staffQuery quiet
      [.group .any (.list (values.map fun value => .tuple [.text "city", value]))]).IsShallow) :
    ¬ FindsAlike (quiet.1, accessTo [table])
      (specAfter staffQuery quiet [.isMember false (.text "city") (.list values)])
      (specAfter staffQuery quiet
        [.group .any (.list (values.map fun value => .tuple [.text "city", value]))]) := by
  rintro ⟨alike, _⟩
  have lengths := congrArg (Option.map List.length) (alike staffModel)
  rw [find_isMember_of_noRows found sound key declared empty texts shallow] at lengths
  obtain ⟨_, finds, _⟩ := Except.exists_of_map_toOption lengths.symm
  have about : ∀ column ∈ (Predicate.group .any
      (values.map fun value => (.text "city", value))).columns, column = .text "city" := by
    intro column member
    obtain ⟨pair, inPairs, rfl⟩ := List.mem_map.mp member
    obtain ⟨value, _, rfl⟩ := List.mem_map.mp inPairs
    rfl
  rw [specAfter_group] at finds high
  exact high (isShallow_of_find rfl rfl ⟨[], rfl⟩ (hasPlainNames_city about)
    (ExceptT.runFrom_eq_of_fst finds))

end NoRows

/-- More values than the engine compares in one expression. -/
def manyValues : List Value :=
  List.replicate 1001 (.text "Rome")

/-- Calls that say the same do not always find the same: a backtick ends the name of a column and
what follows is read as a condition, and a list can be longer than a chain of comparisons. -/
theorem not_findsAlike :
    (orTable.Declares "city` = `city` OR `city" ∧
      ¬ FindsAlike (quiet.1, accessTo [orTable])
        (specAfter staffQuery quiet
          [.isMember false (.text "city` = `city` OR `city") (.list [.text "Oslo"]),
            .compare .equal (.text "id") (.int 2)])
        (specAfter staffQuery quiet
          [.group .any (.list [.tuple [.text "city` = `city` OR `city", .text "Oslo"]]),
            .compare .equal (.text "id") (.int 2)])) ∧
    (Variants [{ staffTable with rows := [] }] (.text "staff")
        [.isMember false (.text "city") (.list manyValues)]
        [.group .any (.list (manyValues.map fun value => .tuple [.text "city", value]))] ∧
      ¬ FindsAlike (quiet.1, accessTo [{ staffTable with rows := [] }])
        (specAfter staffQuery quiet [.isMember false (.text "city") (.list manyValues)])
        (specAfter staffQuery quiet
          [.group .any (.list (manyValues.map fun value => .tuple [.text "city", value]))])) := by
  refine ⟨⟨by decide, ?_⟩, ?_, ?_⟩
  · rintro ⟨alike, _⟩
    have lengths := congrArg (Option.map List.length) (alike staffModel)
    exact absurd lengths (by decide +kernel)
  · have city : IsColumn [{ staffTable with rows := [] }] (.text "staff") (.text "city") :=
      isColumn_of_declares rfl (by decide) (by decide)
    refine .any city fun empty => ?_
    have length : manyValues.length = 1001 := List.length_replicate
    rw [empty] at length
    cases length
  · have texts : ∀ value ∈ manyValues, value.HasText := by
      intro value member
      obtain rfl := List.eq_of_mem_replicate member
      exact Value.hasText_text _
    exact not_findsAlike_of_high rfl isSound_emptyTable (by decide) (by decide) rfl texts
      (by decide +kernel) (by decide +kernel)

end Execution

end TableQuery
