import TableQuery.Proofs.Tables

/-!
# Insertions

A statement that inserts rows adds to its table a row for each of those that are given, with the
cells that the columns store.  Under every name by which the table was found the longer one is found
after that.
-/

namespace TableQuery
namespace Database

/-! ## Tables of connections -/

/-- Names are the same where each of them is the same as a third one. -/
theorem sameName_congr
    {left right : String}
    (same : sameName left right)
    (name : String) :
    sameName left name = sameName right name := by
  rw [sameName, sameName, eq_of_beq same]

theorem isReserved_of_find?
    {tables : List Table}
    {name : String}
    {catalog : Table}
    (found : Catalog.find? tables name = some catalog) :
    Catalog.isReserved catalog.name := by
  unfold Catalog.find? at found
  split at found
  · obtain rfl := Option.some.inj found
    exact (by decide : Catalog.isReserved "sqlite_master" = true)
  · split at found
    · obtain rfl := Option.some.inj found
      exact (by decide : Catalog.isReserved "sqlite_temp_master" = true)
    · cases found

/-- A table that is no catalog is found among the tables. -/
theorem findTable_eq_ok_iff
    {tables : List Table}
    {name : String}
    {table : Table}
    (unreserved : Catalog.isReserved table.name = false) :
    findTable tables name = .ok table ↔
      (tables.find? fun table => sameName table.name name) = some table := by
  unfold findTable
  split
  · rename_i listed found
    rw [found, Except.ok.injEq, Option.some_inj]
  · rename_i missing
    rw [missing]
    refine iff_of_false ?_ (by simp)
    intro known
    split at known
    · rename_i catalog found
      obtain rfl := Except.ok.inj known
      rw [isReserved_of_find? found] at unreserved
      cases unreserved
    · cases known

namespace Storage

theorem find_modify
    (storage : Storage)
    (place : List String)
    (change : Stored → Stored) :
    (storage.modify place change).find place = change (storage.find place) := by
  simp [find, modify]

end Storage

namespace Access

/-- The tables of a database are those that were set. -/
@[simp] theorem tables_setTables
    (access : Access)
    (tables : List Table) :
    (access.setTables tables).tables = tables := by
  unfold setTables
  split
  · rfl
  · rename_i place located
    unfold Access.tables
    rw [located]
    simp only [Storage.find_modify]

@[simp] theorem isOpen_setTables
    (access : Access)
    (tables : List Table) :
    (access.setTables tables).connection.isOpen = access.connection.isOpen := by
  unfold setTables
  split <;> rfl

/-- Where a table was found, the one that replaces it is found. -/
theorem findTable_replaceTable
    {access : Access}
    {name : String}
    {table changed : Table}
    (found : findTable access.tables name = .ok table)
    (unreserved : Catalog.isReserved table.name = false)
    (renamed : changed.name = table.name) :
    findTable (access.replaceTable changed).tables name = .ok changed := by
  have listed := (findTable_eq_ok_iff unreserved).mp found
  have names : ((fun table => sameName table.name name) ∘ fun table =>
      if sameName table.name changed.name then changed else table) =
      fun table => sameName table.name name := by
    funext other
    simp only [Function.comp_apply]
    split
    · rename_i same
      exact (sameName_congr same name).symm
    · rfl
  have self : sameName table.name changed.name := by
    rw [renamed]
    exact beq_self_eq_true _
  rw [findTable_eq_ok_iff (by rw [renamed]; exact unreserved), replaceTable, tables_setTables,
    List.find?_map, names, listed, Option.map_some, if_pos self]

/-! ## Rows that are added -/

/-- A row that holds given values as the columns of its table store them. -/
def Holds (columns : List Column) (items : List Value) (row : Row) : Prop :=
  ∃ cells, bind columns.length items = .ok cells ∧
    row.cells = Table.storedCells columns row.number cells

/-- The places of a statement are filled with the cells of the values, one after the other. -/
theorem bind_eq_ok_iff
    {places : Nat}
    {values : List Value}
    {cells : List Cell} :
    bind places values = .ok cells ↔
      values.length = places ∧
        List.Forall₂ (fun pair cell => Cell.ofValue (pair.2 + 1) pair.1 = .ok cell)
          values.zipIdx cells := by
  unfold bind
  by_cases fits : values.length = places
  · rw [if_neg (not_not.mpr fits), Except.mapM_eq_ok_iff]
    simp [fits]
  · rw [if_pos fits]
    exact iff_of_false nofun fun filled => fits filled.1

theorem length_of_bind
    {places : Nat}
    {values : List Value}
    {cells : List Cell}
    (bound : bind places values = .ok cells) :
    cells.length = places := by
  obtain ⟨fits, filled⟩ := bind_eq_ok_iff.mp bound
  rw [← filled.length_eq, List.length_zipIdx, fits]

/-- A column that is no key holds what it stores of the value that was given for it. -/
theorem Holds.getElem?_cells
    {columns : List Column}
    {items : List Value}
    {row : Row}
    (holds : Holds columns items row)
    {index : Nat}
    {column : Column}
    (declared : columns[index]? = some column)
    (bare : column.isKey = false)
    {value : Value}
    (given : items[index]? = some value) :
    ∃ cell, Cell.ofValue (index + 1) value = .ok cell ∧
      row.cells[index]? = some (cell.store column.affinity) := by
  obtain ⟨cells, bound, stored⟩ := holds
  obtain ⟨_, filled⟩ := bind_eq_ok_iff.mp bound
  have numbered : items.zipIdx[index]? = some (value, index) := by
    simp [List.getElem?_zipIdx, given]
  obtain ⟨inItems, atIndex⟩ := List.getElem?_eq_some_iff.mp numbered
  have inCells : index < cells.length := filled.length_eq ▸ inItems
  have taken := List.forall₂_iff_get.mp filled |>.2 index inItems inCells
  simp only [List.get_eq_getElem, atIndex] at taken
  refine ⟨cells[index], taken, ?_⟩
  have paired : (columns.zip cells)[index]? = some (column, cells[index]) :=
    List.getElem?_zip_eq_some.mpr ⟨declared, List.getElem?_eq_getElem inCells⟩
  rw [stored, Table.storedCells, List.getElem?_map, paired]
  simp [bare]

/-- A change by which a table gains rows for given ones, each with the values of one of them. -/
structure Adds (before after : Access) (table changed : Table) (given : List (List Value))
    (added : List Row) : Prop where
  isOpen : after.connection.isOpen = before.connection.isOpen
  found : ∀ name, findTable before.tables name = .ok table →
    findTable after.tables name = .ok changed
  name : changed.name = table.name
  columns : changed.columns = table.columns
  sound : table.IsSound → changed.IsSound
  rows : changed.rows.Perm (table.rows ++ added)
  holds : List.Forall₂ (Holds table.columns) given added

theorem Adds.refl
    (access : Access)
    (table : Table) :
    Adds access access table table [] [] where
  isOpen := rfl
  found := fun _ known => known
  name := rfl
  columns := rfl
  sound := id
  rows := by rw [List.append_nil]
  holds := .nil

theorem Adds.trans
    {before middle after : Access}
    {table next changed : Table}
    {given others : List (List Value)}
    {added more : List Row}
    (first : Adds before middle table next given added)
    (second : Adds middle after next changed others more) :
    Adds before after table changed (given ++ others) (added ++ more) where
  isOpen := second.isOpen.trans first.isOpen
  found := fun name known => second.found name (first.found name known)
  name := second.name.trans first.name
  columns := second.columns.trans first.columns
  sound := fun sound => second.sound (first.sound sound)
  rows := by
    rw [← List.append_assoc]
    exact second.rows.trans (first.rows.append_right more)
  holds := by
    have later := second.holds
    rw [first.columns] at later
    exact List.rel_append first.holds later

/-- The rows of a table that has gained one are the earlier rows and the new one. -/
theorem perm_insertSorted
    (row : Row)
    (rows : List Row) :
    (Table.insertSorted row rows).Perm (rows ++ [row]) := by
  induction rows with
  | nil => exact .refl _
  | cons first rest inductionHypothesis =>
      rw [Table.insertSorted]
      split
      · exact (List.perm_append_singleton row (first :: rest)).symm
      · exact inductionHypothesis.cons first

/-- A row that is inserted is added to the table. -/
theorem adds_replaceTable
    {access : Access}
    {table changed : Table}
    (unreserved : Catalog.isReserved table.name = false)
    {items : List Value}
    {cells : List Cell}
    (bound : bind table.columns.length items = .ok cells)
    (inserted : table.insert cells = .ok changed) :
    ∃ row, Adds access (access.replaceTable changed) table changed [items] [row] := by
  have sound : table.IsSound → changed.IsSound := fun sound =>
    sound.insert (length_of_bind bound) inserted
  obtain ⟨number, rfl⟩ := Table.insert_eq inserted
  exact ⟨⟨number, Table.storedCells table.columns number cells⟩,
    { isOpen := isOpen_setTables _ _
      found := fun name known => findTable_replaceTable known unreserved rfl
      name := rfl
      columns := rfl
      sound
      rows := perm_insertSorted _ _
      holds := .cons ⟨cells, bound, rfl⟩ .nil }⟩

@[simp] theorem orProblem_eq_ok_iff
    {result : Except Problem α}
    {value : α} :
    orProblem result = .ok value ↔ result = .ok value := by
  cases result <;> simp [orProblem]

/-- Rows that are inserted one after the other are added to the table. -/
theorem adds_of_insertRows
    {name : String}
    {given : List (List Value)}
    {before after : Access}
    {table : Table}
    (found : findTable before.tables name = .ok table)
    (unreserved : Catalog.isReserved table.name = false)
    (ran : (insertRows name table.columns.length given).runFrom before = (.ok (), after)) :
    ∃ changed added, Adds before after table changed given added := by
  induction given generalizing before table with
  | nil =>
      obtain rfl : before = after := congrArg Prod.snd ran
      exact ⟨table, [], .refl before table⟩
  | cons items rest inductionHypothesis =>
      unfold insertRows at ran
      simp only [ExceptT.runFrom_bind_eq_ok_iff, ExceptT.runFrom_lift, ExceptT.runFrom_get,
        ExceptT.runFrom_set, Prod.mk.injEq, orProblem_eq_ok_iff] at ran
      obtain ⟨cells, _, ⟨bound, rfl⟩, _, _, ⟨same, rfl⟩, listed, _, ⟨known, rfl⟩, next, _,
        ⟨inserted, rfl⟩, _, _, ⟨_, rfl⟩, _, _, ⟨_, rfl⟩, following⟩ := ran
      obtain rfl := Except.ok.inj same
      obtain rfl : table = listed := Except.ok.inj (found.symm.trans known)
      obtain ⟨row, step⟩ := @adds_replaceTable before _ _ unreserved _ _ bound inserted
      rw [← step.columns] at following
      obtain ⟨changed, added, run⟩ := inductionHypothesis (step.found name found)
        (by rw [step.name]; exact unreserved) following
      exact ⟨changed, row :: added, step.trans run⟩

theorem ensureOpen_eq_ok_iff
    {before after : Access}
    {result : Unit} :
    ensureOpen.runFrom before = (.ok result, after) ↔
      before.connection.isOpen ∧ before = after := by
  unfold ensureOpen
  rw [ExceptT.runFrom_bind, ExceptT.runFrom_get]
  by_cases isOpen : before.connection.isOpen
  · simp [isOpen]
  · simp [isOpen]

/-- Rows can be inserted into a table that is no catalog, and their places are its columns. -/
theorem fits_of_checkPlaces
    {tables : List Table}
    {name : String}
    {places : Nat}
    {table : Table}
    (found : findTable tables name = .ok table)
    (checked : checkPlaces tables name places = .ok ()) :
    Catalog.isReserved table.name = false ∧ places = table.columns.length := by
  unfold checkPlaces at checked
  obtain ⟨_, _, rest⟩ := Except.bind_eq_ok_iff.mp checked
  by_cases empty : places = 0
  · rw [if_pos empty] at rest
    cases rest
  · rw [if_neg empty] at rest
    obtain ⟨listed, known, rest⟩ := Except.bind_eq_ok_iff.mp rest
    obtain rfl : table = listed := Except.ok.inj (found.symm.trans known)
    cases reserved : Catalog.isReserved table.name with
    | true =>
        rw [if_pos reserved] at rest
        cases rest
    | false =>
        simp only [reserved] at rest
        refine ⟨rfl, ?_⟩
        by_contra other
        simp [other] at rest

/-- A statement that inserts rows adds them to its table, on a connection that is open. -/
theorem adds_of_insert
    {name : String}
    {places count : Nat}
    {rows : List Value}
    {before after : Access}
    {table : Table}
    (found : findTable before.tables name = .ok table)
    (ran : (insert name places rows).runFrom before = (.ok count, after)) :
    before.connection.isOpen ∧ ∃ given changed added, rows.mapM Value.items = .ok given ∧
      Adds before after table changed given added := by
  unfold insert at ran
  simp only [ExceptT.runFrom_bind_eq_ok_iff, ExceptT.runFrom_lift, ExceptT.runFrom_get,
    ExceptT.runFrom_pure, Prod.mk.injEq, orProblem_eq_ok_iff, ensureOpen_eq_ok_iff] at ran
  obtain ⟨_, _, ⟨isOpen, rfl⟩, given, _, ⟨walked, rfl⟩, _, _, ⟨same, rfl⟩, _, _, ⟨checked, rfl⟩,
    _, _, inserted, _, rfl⟩ := ran
  obtain rfl := Except.ok.inj same
  obtain ⟨unreserved, rfl⟩ := fits_of_checkPlaces found checked
  obtain ⟨changed, added, adds⟩ := adds_of_insertRows found unreserved inserted
  exact ⟨isOpen, given, changed, added, walked, adds⟩

end Access

end Database
end TableQuery
