import TableQuery.Proofs.Bounds
import TableQuery.Proofs.Hydration
import TableQuery.Proofs.Insertions

/-!
# Retrieving what was inserted

A statement that inserts a row is given the values with their types, and a column stores them by its
affinity.  A query has every value as a text between quotes.  The two agree: a row is found by the
value that was inserted, among the rows whose cells equal the stored one.
-/

namespace TableQuery

open Database

/-! ## Stored values -/

/-- A value for which a column of an affinity can be asked once it has stored it: a truth value, an
integer of 64 bits and, in a column of texts, a text without NUL characters. -/
def Value.IsStorable (affinity : Affinity) : Value → Prop
  | .bool _ => affinity = .text ∨ affinity = .integer
  | .int number => (affinity = .text ∨ affinity = .integer) ∧ fitsWord number
  | .text content => affinity = .text ∧ '\x00' ∉ content.toList
  | _ => False

/-- A value that can be asked for has a text: an integer of 64 bits has few digits. -/
theorem Value.IsStorable.hasText
    {affinity : Affinity}
    {value : Value}
    (storable : value.IsStorable affinity) :
    value.HasText := by
  cases value with
  | bool truth => exact hasText_bool truth
  | int number =>
      have inWord : -(2 ^ 63) ≤ number ∧ number < 2 ^ 63 := by
        simpa [fitsWord] using storable.2
      have short : number.natAbs < 10 ^ 19 := by omega
      exact hasText_int_of_lt short (by decide)
  | text content => exact hasText_text content
  | _ => exact storable.elim

namespace Database

theorem Cell.equal?_text (content : String) :
    (Cell.text content).equal? .text .binary (.text content) = some true := by
  simp [equal?, compareAs, adapt, numberText?, order?, order, compareOfLessAndEq]

theorem Cell.equal?_integer (number : Int) :
    (Cell.integer number).equal? .integer .binary (.integer number) = some true := by
  simp [equal?, compareAs, adapt, asNumber, order?, order]

/-- What a column stores of an integer of 64 bits is compared as its decimal text is, and equals
itself. -/
theorem Cell.stored_integer
    {affinity : Affinity}
    (kind : affinity = .text ∨ affinity = .integer)
    {number : Int}
    (fits : fitsWord number) :
    let stored := (Cell.integer number).store affinity
    stored.adapt affinity = (Cell.text (Numeral.integerText number)).adapt affinity ∧
      stored.equal? affinity .binary stored = some true := by
  rcases kind with rfl | rfl
  · exact ⟨rfl, equal?_text _⟩
  · refine ⟨?_, equal?_integer number⟩
    simp [store, adapt, asNumber, numberOf?_integerText fits]

end Database

/-- What a column stores of a value is compared as the text of the value is, and equals itself. -/
theorem Value.IsStorable.stored
    {affinity : Affinity}
    {value : Value}
    (storable : value.IsStorable affinity)
    {position : Nat}
    {cell : Cell}
    (known : Cell.ofValue position value = .ok cell) :
    (cell.store affinity).adapt affinity = (Cell.text value.sqlText).adapt affinity ∧
      (cell.store affinity).equal? affinity .binary (cell.store affinity) = some true := by
  cases value with
  | bool truth =>
      obtain rfl := Except.ok.inj known
      cases truth
      · exact Cell.stored_integer storable (by decide)
      · exact Cell.stored_integer storable (by decide)
  | int number =>
      obtain ⟨kind, fits⟩ := storable
      rw [Cell.ofValue, if_pos fits] at known
      obtain rfl := Except.ok.inj known
      have text : (Value.int number).sqlText = Numeral.integerText number :=
        sqlText_eq (Numeral.nul_notMem_integerText number)
      rw [text]
      exact Cell.stored_integer kind fits
  | text content =>
      obtain ⟨rfl, free⟩ := storable
      obtain rfl := Except.ok.inj known
      have text : (Value.text content).sqlText = content := sqlText_eq free
      rw [text]
      exact ⟨rfl, Cell.equal?_text content⟩
  | _ => exact storable.elim

/-! ## Instances -/

namespace Execution

/-- A row of an answer is a dictionary of named columns, all of them columns of the answer. -/
theorem exists_rowValue_ofColumns
    (names : List String)
    (cells : List Cell) :
    ∃ kept, Access.rowValue names cells = .dict (Value.ofColumns kept) ∧
      kept.map Prod.fst ⊆ names := by
  have shown : ∃ columns : List (String × Value),
      Access.rowValue names cells = .dict (Value.ofPairs (Value.ofColumns columns)) ∧
        columns.map Prod.fst ⊆ names := by
    refine ⟨(names.zip cells).map fun pair => (pair.1, ((((names.zip cells).find? fun other =>
      sameName other.1 pair.1).map (·.2)).getD pair.2).toValue), ?_, ?_⟩
    · rw [Value.ofColumns, List.map_map]
      rfl
    · intro name member
      simp only [List.map_map, List.mem_map, Function.comp_apply] at member
      obtain ⟨pair, known, rfl⟩ := member
      exact (List.of_mem_zip known).1
  obtain ⟨columns, shown, listed⟩ := shown
  obtain ⟨kept, made, within⟩ := Value.exists_ofPairs_ofColumns columns
  exact ⟨kept, by rw [shown, made], List.Subset.trans within listed⟩

/-- Without casts every row of a table has an instance, unless a column has the name that no
attribute can have. -/
theorem exists_instanceOf
    {model : Model}
    (uncast : model.casts = [])
    {table : Table}
    (free : ∀ column ∈ table.columns, column.name ≠ "self")
    (row : Row) :
    ∃ found, instanceOf model table row = .ok found := by
  obtain ⟨kept, shown, within⟩ :=
    exists_rowValue_ofColumns (table.columns.map Column.name) row.cells
  have allowed : "self" ∉ kept.map Prod.fst := by
    intro member
    obtain ⟨column, declared, named⟩ := List.mem_map.mp (within member)
    exact free column declared named
  have checked := Model.checkAttributes_ofColumns kept
  rw [if_neg allowed] at checked
  refine ⟨⟨model, Value.ofColumns kept⟩, ?_⟩
  rw [instanceOf, shown]
  unfold Model.hydrate
  simp only [Value.toDict, uncast, Model.applyCasts, bind, Except.bind, pure, Except.pure, checked]

/-! ## Queries -/

/-- A new query of a model without casts for a table.  The table declares the sort column, neither
has a backtick in its name, and no column has the name that no attribute can have. -/
structure Queries (builder : Builder) (tables : List Table) (table : Table) : Prop where
  made : Builder.ofModel builder.model = .ok builder
  uncast : builder.model.casts = []
  found : findTable tables builder.spec.table.display = .ok table
  sorts : table.Declares builder.spec.sortColumn.display
  tableName : builder.spec.table.IsPlainName
  sortName : builder.spec.sortColumn.IsPlainName
  attributes : ∀ column ∈ table.columns, column.name ≠ "self"

/-- A new query of a model asks for nothing but the order of the key. -/
theorem spec_of_ofModel
    {model : Model}
    {builder : Builder}
    (made : Builder.ofModel model = .ok builder) :
    ∃ table fields, builder =
      ⟨model, { table, primaryKey := model.primaryKey, sortColumn := model.primaryKey,
                searchFields := .list fields }⟩ := by
  obtain ⟨spec, known, same⟩ := Except.bind_eq_ok_iff.mp made
  obtain ⟨fresh, new, rest⟩ := Except.bind_eq_ok_iff.mp known
  obtain ⟨searching, bound, keyed⟩ := Except.bind_eq_ok_iff.mp rest
  obtain ⟨fields, _, listed⟩ := Except.bind_eq_ok_iff.mp bound
  obtain rfl := Except.ok.inj same
  obtain rfl := Except.ok.inj keyed
  obtain rfl := Except.ok.inj listed
  rw [Builder.ofHistory_of_newSpec new]
  exact ⟨fresh.table, fields, rfl⟩

/-- A query for the rows of which one predicate is true. -/
def onlyWith (given : Predicate) (spec : Spec) : Spec where
  table := spec.table
  sortColumn := spec.sortColumn
  predicates := [given]

/-- The search fields of a new query do not matter, since nothing is searched. -/
theorem find_addPredicate
    {builder : Builder}
    (made : Builder.ofModel builder.model = .ok builder)
    (given : Predicate) :
    find Engine.driver builder.model (builder.spec.addPredicate given) =
      find Engine.driver builder.model (onlyWith given builder.spec) := by
  obtain ⟨table, fields, fresh⟩ := spec_of_ofModel made
  rw [fresh]
  rfl

/-- A row is selected if the predicate is true of it. -/
theorem mem_selected_onlyWith
    {given : Predicate}
    {spec : Spec}
    {table : Table}
    {row : Row} :
    row ∈ (onlyWith given spec).selected table ↔ row ∈ table.rows ∧ given.isTrue table row := by
  have whole : (onlyWith given spec).selected table = (onlyWith given spec).matching table := rfl
  have keeps : (onlyWith given spec).keeps table row = given.isTrue table row := by
    simp [Spec.keeps, onlyWith, Spec.hasSearch, Value.truthy]
  rw [whole, Spec.matching, List.mem_mergeSort, List.mem_filter, keeps]

/-- A predicate without patterns about one column, which is no key and has a plain name.  Its values
have texts, and the engine can take its height. -/
structure IsAbout (given : Predicate) (table : Table) (column : Value) : Prop where
  columns : given.columns = [column]
  complete : given.IsComplete
  texts : ∀ value ∈ given.values, value.HasText
  patterns : given.patterns = []
  low : given.condition.operand.height ≤ Sql.heightLimit
  plain : column.IsPlainName
  spot : ∃ index affinity, table.column? column.display = some (.column index affinity false)

/-- A call with a fetch after it finds the instances of some rows of a table, among them one row,
and all of them with a property. -/
def Retrieves (builder : Builder) (setting : Setting Access) (table : Table) (call : Call)
    (row : Row) (property : Row → Prop) : Prop :=
  ∃ (rows : List Row) (found : List Instance),
    (builder.applyAll Engine.driver [call, .find] setting).1 =
      [.ok .query, .ok (.instances found)] ∧
    rows.mapM (instanceOf builder.model table) = .ok found ∧
    row ∈ rows ∧ ∀ other ∈ rows, other ∈ table.rows ∧ property other

theorem Retrieves.mono
    {builder : Builder}
    {setting : Setting Access}
    {table : Table}
    {call : Call}
    {row : Row}
    {property weaker : Row → Prop}
    (retrieves : Retrieves builder setting table call row property)
    (follows : ∀ other, property other → weaker other) :
    Retrieves builder setting table call row weaker := by
  obtain ⟨rows, found, answers, hydrated, member, others⟩ := retrieves
  refine ⟨rows, found, answers, hydrated, member, fun other selected => ?_⟩
  exact ⟨(others other selected).1, follows other (others other selected).2⟩

/-- Where a row is retrieved, both calls have an answer. -/
theorem Retrieves.answered
    {builder : Builder}
    {setting : Setting Access}
    {table : Table}
    {call : Call}
    {row : Row}
    {property : Row → Prop}
    (retrieves : Retrieves builder setting table call row property) :
    (builder.applyAll Engine.driver [call, .find] setting).1.map (·.toOption.isSome) =
      [true, true] := by
  obtain ⟨_, _, answers, _⟩ := retrieves
  rw [answers]
  rfl

section Queries

variable {builder : Builder}
  {access : Access}
  {table : Table}
  {given : Predicate}
  {column : Value}

theorem IsAbout.of_mem_columns
    (about : IsAbout given table column)
    {name : Value}
    (member : name ∈ given.columns) :
    name = column := by
  rw [about.columns] at member
  exact List.mem_singleton.mp member

theorem asks_onlyWith
    (queries : Queries builder access.tables table)
    (isOpen : access.connection.isOpen)
    (sound : table.IsSound)
    (about : IsAbout given table column)
    (world : World) :
    Asks (onlyWith given builder.spec) (world, access) table where
  limit := ⟨0, rfl, by decide⟩
  offset := ⟨0, rfl, by decide⟩
  searchFields := ⟨[], rfl⟩
  complete := by simpa [onlyWith] using about.complete
  isOpen := isOpen
  found := queries.found
  sound := sound
  names :=
    { sortColumn := queries.sorts
      fields := by simp [onlyWith, Spec.fields]
      predicates := by
        simp only [onlyWith, List.mem_singleton, forall_eq]
        intro name member
        obtain ⟨index, affinity, spot⟩ := about.spot
        obtain rfl := about.of_mem_columns member
        exact Option.isSome_iff_exists.mpr ⟨_, spot⟩ }

theorem hasPlainNames_onlyWith
    (queries : Queries builder access.tables table)
    (about : IsAbout given table column) :
    (onlyWith given builder.spec).HasPlainNames where
  table := queries.tableName
  sortColumn := queries.sortName
  fields := by simp [onlyWith, Spec.fields]
  columns := by
    simp only [onlyWith, List.mem_singleton, forall_eq]
    exact fun name member => about.of_mem_columns member ▸ about.plain

/-- Nothing is searched, so that only the values of the predicate need texts. -/
theorem IsAbout.hasTexts
    (about : IsAbout given table column)
    (spec : Spec) :
    (onlyWith given spec).HasTexts where
  term := fun searches => absurd searches Bool.false_ne_true
  values := List.forall_mem_singleton.mpr about.texts

/-- The column is no key, so no key is sought and any number of a row will do. -/
theorem IsAbout.not_seeksKey (about : IsAbout given table column) :
    ¬ given.condition.SeeksKey table := by
  rintro ⟨_, name, inCondition, isKey⟩
  obtain ⟨value, inGiven, rfl⟩ := Predicate.columns_condition inCondition
  obtain rfl := about.of_mem_columns inGiven
  obtain ⟨index, affinity, spot⟩ := about.spot
  simp [placeOf, spot, Spot.isKey] at isKey

/-- A query with such a predicate finds the rows of which it is true. -/
theorem findsSelected_onlyWith
    (queries : Queries builder access.tables table)
    (isOpen : access.connection.isOpen)
    (sound : table.IsSound)
    (about : IsAbout given table column)
    {world : World}
    (takes : TakesStatements world) :
    FindsSelected builder.model (onlyWith given builder.spec) (world, access) table := by
  have conditions : (onlyWith given builder.spec).conditions = [given.condition] := rfl
  have patterns : (onlyWith given builder.spec).patterns = [] := by
    simp [Spec.patterns, onlyWith, Spec.hasSearch, Value.truthy, about.patterns]
  have inner : ∀ condition ∈ (onlyWith given builder.spec).conditions,
      condition.SeeksKey table → ∀ row ∈ table.rows, row.IsInner := by
    rw [conditions]
    intro condition member seeks
    obtain rfl := List.mem_singleton.mp member
    exact absurd seeks about.not_seeksKey
  exact (asks_onlyWith queries isOpen sound about world).findsSelected_of_inner
    (hasPlainNames_onlyWith queries about) (about.hasTexts builder.spec) inner (by simp [Spec.HasShortPatterns, patterns])
    about.low takes builder.model

/-- A call that adds such a predicate retrieves every row of which it is true. -/
theorem retrieves_of_isAbout
    (queries : Queries builder access.tables table)
    (isOpen : access.connection.isOpen)
    (sound : table.IsSound)
    (about : IsAbout given table column)
    {world : World}
    (takes : TakesStatements world)
    {call : Call}
    (edited : call.edit builder.spec = .ok (builder.spec.addPredicate given))
    (silent : ∀ spec, call.answer Engine.driver builder.model spec = pure .query)
    {row : Row}
    (member : row ∈ table.rows)
    (holds : given.isTrue table row) :
    Retrieves builder (world, access) table call row fun other => given.isTrue table other := by
  obtain ⟨last, ran⟩ := findsSelected_onlyWith queries isOpen sound about takes
  have each : ∀ other ∈ (onlyWith given builder.spec).selected table,
      ∃ found, instanceOf builder.model table other = .ok found :=
    fun other _ => exists_instanceOf queries.uncast queries.attributes other
  obtain ⟨found, hydrated⟩ := Except.exists_mapM_eq_ok each
  refine ⟨(onlyWith given builder.spec).selected table, found, ?_, hydrated, ?_, ?_⟩
  · rw [hydrated] at ran
    simp only [Builder.applyAll, Builder.apply_of_edit Engine.driver edited, silent,
      Builder.apply_find, find_addPredicate queries.made, ExceptT.runFrom_pure, ran]
    rfl
  · exact mem_selected_onlyWith.mpr ⟨member, holds⟩
  · exact fun other selected => mem_selected_onlyWith.mp selected

/-- A query for a table is one for the table with rows that were added to it. -/
theorem Queries.of_adds
    {before : Access}
    {changed : Table}
    {given : List (List Value)}
    {added : List Row}
    (queries : Queries builder before.tables table)
    (adds : Access.Adds before access table changed given added) :
    Queries builder access.tables changed where
  made := queries.made
  uncast := queries.uncast
  found := adds.found _ queries.found
  sorts := by
    rw [Table.Declares, column?_of_columns adds.columns]
    exact queries.sorts
  tableName := queries.tableName
  sortName := queries.sortName
  attributes := by
    rw [adds.columns]
    exact queries.attributes

/-- A column that is no key has for a row what it stores of the value that was inserted. -/
theorem cellOf_of_holds
    {items : List Value}
    {row : Row}
    (holds : Access.Holds table.columns items row)
    {name : String}
    {index : Nat}
    {affinity : Affinity}
    (spot : table.column? name = some (.column index affinity false))
    {value : Value}
    (inserted : items[index]? = some value) :
    ∃ cell, Cell.ofValue (index + 1) value = .ok cell ∧
      table.cellOf row name = cell.store affinity := by
  obtain ⟨place, declared, _, listed, same⟩ := column?_eq_some_iff.mp spot
  obtain ⟨rfl, rfl, bare⟩ := Spot.column.inj same
  obtain ⟨cell, known, stored⟩ := holds.getElem?_cells listed bare.symm inserted
  refine ⟨cell, known, ?_⟩
  rw [Table.cellOf, spot, Option.map_some, Option.getD_some, Row.cell, stored, Option.getD_some]

/-- The text of a value that was inserted compares with every cell as the stored cell does, and the
stored cell equals it. -/
theorem compare?_of_holds
    {items : List Value}
    {row : Row}
    (holds : Access.Holds table.columns items row)
    {name : String}
    {index : Nat}
    {affinity : Affinity}
    (spot : table.column? name = some (.column index affinity false))
    {value : Value}
    (inserted : items[index]? = some value)
    (storable : value.IsStorable affinity) :
    (∀ other, table.compare? other name .equal value.sqlText =
        (table.cellOf other name).equal? affinity .binary (table.cellOf row name)) ∧
      table.compare? row name .equal value.sqlText = some true := by
  obtain ⟨cell, known, stored⟩ := cellOf_of_holds holds spot inserted
  obtain ⟨adapted, itself⟩ := storable.stored known
  have affine : table.affinityOf name = affinity := by
    rw [Table.affinityOf, spot]
    rfl
  have compared : ∀ other, table.compare? other name .equal value.sqlText =
      (table.cellOf other name).equal? affinity .binary (table.cellOf row name) := by
    intro other
    rw [Table.compare?, Cell.compare?, affine, Cell.equal?, Cell.equal?, Cell.compareAs,
      Cell.compareAs, stored, adapted]
  refine ⟨compared, ?_⟩
  rw [compared, stored]
  exact itself

/-- A comparison with a value that has a text retrieves a row of which it is true. -/
theorem retrieves_compare
    (queries : Queries builder access.tables table)
    (isOpen : access.connection.isOpen)
    (sound : table.IsSound)
    {world : World}
    (takes : TakesStatements world)
    {index : Nat}
    {affinity : Affinity}
    (spot : table.column? column.display = some (.column index affinity false))
    (plain : column.IsPlainName)
    {row : Row}
    (member : row ∈ table.rows)
    {value : Value}
    (text : value.HasText)
    (equal : table.compare? row column.display .equal value.sqlText = some true) :
    Retrieves builder (world, access) table (.compare .equal column value) row
      fun other => (Predicate.comparison .equal column value).isTrue table other := by
  have about : IsAbout (.comparison .equal column value) table column :=
    { columns := rfl
      complete := trivial
      texts := List.forall_mem_singleton.mpr text
      patterns := rfl
      low := (by decide : 2 ≤ Sql.heightLimit)
      plain
      spot := ⟨index, affinity, spot⟩ }
  have edited : Call.edit builder.spec (.compare .equal column value) =
    .ok (builder.spec.addPredicate (.comparison .equal column value)) := rfl
  exact retrieves_of_isAbout queries isOpen sound about takes edited (fun _ => rfl) member
    (beq_iff_eq.mpr equal)

/-- A list of members with texts retrieves a row of which one of the comparisons with them is
true. -/
theorem retrieves_isMember
    (queries : Queries builder access.tables table)
    (isOpen : access.connection.isOpen)
    (sound : table.IsSound)
    {world : World}
    (takes : TakesStatements world)
    {index : Nat}
    {affinity : Affinity}
    (spot : table.column? column.display = some (.column index affinity false))
    (plain : column.IsPlainName)
    {row : Row}
    (member : row ∈ table.rows)
    {value : Value}
    {members : List Value}
    (listed : value ∈ members)
    (texts : ∀ other ∈ members, other.HasText)
    (equal : table.compare? row column.display .equal value.sqlText = some true) :
    Retrieves builder (world, access) table (.isMember false column (.list members)) row
      fun other => (Predicate.membership false column members).isTrue table other := by
  have nonempty : members.isEmpty = false := by
    cases members with
    | nil => cases listed
    | cons first rest => rfl
  have low : (Predicate.membership false column members).condition.operand.height ≤
      Sql.heightLimit := by
    simp only [Predicate.condition, nonempty]
    exact (by decide : 2 ≤ Sql.heightLimit)
  have about : IsAbout (.membership false column members) table column :=
    { columns := rfl
      complete := trivial
      texts
      patterns := rfl
      low
      plain
      spot := ⟨index, affinity, spot⟩ }
  have edited : Call.edit builder.spec (.isMember false column (.list members)) =
    .ok (builder.spec.addPredicate (.membership false column members)) := rfl
  exact retrieves_of_isAbout queries isOpen sound about takes edited (fun _ => rfl) member
    (List.any_eq_true.mpr ⟨value, listed, beq_iff_eq.mpr equal⟩)

end Queries

end Execution

namespace Builder

open Execution

/-- A statement that inserts rows adds one to the table for each of those that are given, and a
query retrieves such a row by the value that was inserted in a column, be it alone or among others
that have texts: by the value alone it finds only rows whose cells equal the stored one. -/
theorem retrieves_inserted
    {before access : Access}
    {name : String}
    {places count : Nat}
    {rows : List Value}
    (inserted : (Access.insert name places rows).runFrom before = (.ok count, access))
    {table : Table}
    (found : findTable before.tables name = .ok table)
    (sound : table.IsSound)
    {builder : Builder}
    (queries : Queries builder before.tables table)
    {column : Value}
    {index : Nat}
    {affinity : Affinity}
    (spot : table.column? column.display = some (.column index affinity false))
    (plain : column.IsPlainName)
    {world : World}
    (takes : TakesStatements world) :
    ∃ given changed added, rows.mapM Value.items = .ok given ∧
      Access.Adds before access table changed given added ∧
      List.Forall₂
        (fun items row => ∀ value, items[index]? = some value → value.IsStorable affinity →
          Retrieves builder (world, access) changed (.compare .equal column value) row
              (fun other => (changed.cellOf other column.display).equal? affinity .binary
                (changed.cellOf row column.display) = some true) ∧
            ∀ members, value ∈ members → (∀ other ∈ members, other.HasText) →
              Retrieves builder (world, access) changed (.isMember false column (.list members)) row
                fun other => (Predicate.membership false column members).isTrue changed other)
        given added := by
  obtain ⟨isOpen, given, changed, added, walked, adds⟩ := Access.adds_of_insert found inserted
  refine ⟨given, changed, added, walked, adds, ?_⟩
  obtain ⟨length, holds⟩ := List.forall₂_iff_zip.mp adds.holds
  refine List.forall₂_iff_zip.mpr ⟨length, fun {items row} paired value item storable => ?_⟩
  have member : row ∈ changed.rows :=
    adds.rows.mem_iff.mpr (List.mem_append_right _ (List.of_mem_zip paired).2)
  have asked := queries.of_adds adds
  have stays : access.connection.isOpen = true := adds.isOpen.trans isOpen
  rw [← column?_of_columns adds.columns] at spot
  have held : Access.Holds changed.columns items row := adds.columns ▸ holds paired
  obtain ⟨compared, equal⟩ := compare?_of_holds held spot item storable
  constructor
  · refine (retrieves_compare asked stays (adds.sound sound) takes spot plain member
      storable.hasText equal).mono ?_
    intro other isTrue
    exact (compared other).symm.trans (beq_iff_eq.mp isTrue)
  · intro members listed texts
    exact retrieves_isMember asked stays (adds.sound sound) takes spot plain member listed texts
      equal

/-- The table of staff with a row whose city is the least integer of 64 bits. -/
def farTable : Table :=
  { staffTable with
    rows := staffTable.rows ++
      [⟨2, [.integer 2, .text "Mary O'Neil", .text "-9223372036854775808", .integer 1]⟩] }

/-- An integer in a column of texts is found by its own value and by a list that has it. -/
theorem retrieves_inserted_staff :
    let row : Row :=
      ⟨2, [.integer 2, .text "Mary O'Neil", .text "-9223372036854775808", .integer 1]⟩
    (Access.insert "staff" 4
        [.list [.none, .text "Mary O'Neil", .int (-(2 ^ 63)), .bool true]]).runFrom
          (accessTo [staffTable]) = (.ok 1, accessTo [farTable]) ∧
      Retrieves ⟨staffModel, { table := .text "staff" }⟩ (quiet.1, accessTo [farTable]) farTable
        (.compare .equal (.text "city") (.int (-(2 ^ 63)))) row
        (fun other => (farTable.cellOf other "city").equal? .text .binary
          (farTable.cellOf row "city") = some true) ∧
      Retrieves ⟨staffModel, { table := .text "staff" }⟩ (quiet.1, accessTo [farTable]) farTable
        (.isMember false (.text "city") (.list [.text "Rome", .int (-(2 ^ 63))])) row
        fun other => (Predicate.membership false (.text "city")
          [.text "Rome", .int (-(2 ^ 63))]).isTrue farTable other := by
  intro row
  have inserted : (Access.insert "staff" 4
      [.list [.none, .text "Mary O'Neil", .int (-(2 ^ 63)), .bool true]]).runFrom
        (accessTo [staffTable]) = (.ok 1, accessTo [farTable]) := by
    rfl
  have queries : Queries ⟨staffModel, { table := .text "staff" }⟩ (accessTo [staffTable]).tables
      staffTable :=
    { made := rfl
      uncast := rfl
      found := rfl
      sorts := by decide
      tableName := by decide
      sortName := by decide
      attributes := by decide }
  obtain ⟨last, announced⟩ : ∃ last, (announce "").runFrom quiet.1 = (.ok (), last) := ⟨_, rfl⟩
  obtain ⟨given, changed, added, walked, adds, retrieves⟩ :=
    @retrieves_inserted _ _ _ _ _ _ inserted _ rfl isSound_staffTable _ queries (.text "city") 2
      .text (by decide) (by decide) _ (takesStatements_of_announce announced).1
  obtain rfl : changed = farTable := (Except.ok.inj (adds.found "staff" rfl)).symm
  obtain rfl := Except.ok.inj walked
  have only : added = [row] := by
    have rows : (staffTable.rows ++ [row]).Perm (staffTable.rows ++ added) := adds.rows
    exact (List.singleton_perm.mp ((List.perm_append_left_iff _).mp rows)).symm
  subst only
  have storable : (Value.int (-(2 ^ 63))).IsStorable .text := ⟨.inl rfl, by decide⟩
  obtain ⟨alone, among⟩ := (List.forall₂_cons.mp retrieves).1 _ rfl storable
  have texts : ∀ other ∈ [Value.text "Rome", .int (-(2 ^ 63))], other.HasText := by
    simpa using storable.hasText
  exact ⟨inserted, alone, among _ (by simp) texts⟩

/-- A table with a column whose name no attribute can have. -/
def selfTable : Table where
  name := "staff"
  columns := [.declare "id" "INTEGER PRIMARY KEY", .declare "self" "TEXT"]
  rows := [⟨1, [.integer 1, .text "Mary"]⟩]

/-- A row that was inserted is not retrieved by its value where a column has a backtick in its name,
the log has no memory for the statement, no instance can have a column, or the value is listed with
one that has no text. -/
theorem not_retrieves_inserted :
    let builder : Builder := ⟨staffModel, { table := .text "staff" }⟩
    Builder.ofModel staffModel = .ok builder ∧
    ((Access.insert "staff" 2 [.list [.int 1, .text "Mary"]]).runFrom
        (accessTo [{ tickedTable with rows := [] }]) = (.ok 1, accessTo [tickedTable]) ∧
      tickedTable.column? "first`last" = some (.column 1 .text false) ∧
      ¬ Retrieves builder (quiet.1, accessTo [tickedTable]) tickedTable
        (.compare .equal (.text "first`last") (.text "Mary")) ⟨1, [.integer 1, .text "Mary"]⟩
        fun _ => True) ∧
    ((Access.insert "staff" 2 [.list [.int 1, .text "Mary"]]).runFrom
        (accessTo [{ selfTable with rows := [] }]) = (.ok 1, accessTo [selfTable]) ∧
      selfTable.column? "self" = some (.column 1 .text false) ∧
      ¬ Retrieves builder (quiet.1, accessTo [selfTable]) selfTable
        (.compare .equal (.text "self") (.text "Mary")) ⟨1, [.integer 1, .text "Mary"]⟩
        fun _ => True) ∧
    ((Access.insert "staff" 4 [.list [.int 1, .text "Mary O'Neil", .text "Rome", .int 30]]).runFrom
        (accessTo [{ staffTable with rows := [] }]) = (.ok 1, accessTo [staffTable]) ∧
      staffTable.column? "city" = some (.column 2 .text false) ∧
      ¬ Retrieves builder (overfull, accessTo [staffTable]) staffTable
        (.compare .equal (.text "city") (.text "Rome"))
        ⟨1, [.integer 1, .text "Mary O'Neil", .text "Rome", .integer 30]⟩ fun _ => True) ∧
    ¬ Retrieves builder (quiet.1, accessTo [staffTable]) staffTable
      (.isMember false (.text "city")
        (.list [.text "Rome", .int (10 ^ Numeral.digitLimit : Nat)]))
      ⟨1, [.integer 1, .text "Mary O'Neil", .text "Rome", .integer 30]⟩ fun _ => True := by
  refine ⟨rfl, ⟨rfl, by decide, ?_⟩, ⟨rfl, by decide, ?_⟩, ⟨rfl, by decide, ?_⟩, ?_⟩
  · exact fun retrieves => absurd retrieves.answered (by decide +kernel)
  · exact fun retrieves => absurd retrieves.answered (by decide +kernel)
  · exact fun retrieves => absurd retrieves.answered (by decide +kernel)
  · exact fun retrieves => absurd retrieves.answered (by decide +kernel)

end Builder
end TableQuery
