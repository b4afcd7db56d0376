import Mathlib.Tactic.IntervalCases
import TableQuery.Database.Connection
import TableQuery.Proofs.Actions

/-!
# Sound tables

In a sound table every row has a cell for each column, and the key holds the number of its row.  A
new table is sound, and a sound table stays so with every row that is inserted.
-/

namespace TableQuery
namespace Database

/-! ## Names and keys -/

/-- A fact about every upper case letter holds of a character that is one. -/
theorem of_isUpper
    {motive : Char → Prop}
    (all : ∀ code, 65 ≤ code → code ≤ 90 → motive (Char.ofNat code))
    {c : Char}
    (upper : 65 ≤ c.toNat ∧ c.toNat ≤ 90) :
    motive c := by
  have found := all c.toNat upper.1 upper.2
  rwa [Char.ofNat_toNat] at found

/-- No letter has the lower case of the NUL character. -/
theorem lowerAscii_eq_nul_iff {c : Char} : Text.lowerAscii c = '\x00' ↔ c = '\x00' := by
  by_cases upper : 65 ≤ c.toNat ∧ c.toNat ≤ 90
  · refine of_isUpper (motive := fun c => Text.lowerAscii c = '\x00' ↔ c = '\x00') ?_ upper
    intro code least greatest
    interval_cases code <;> decide
  · rw [Text.lowerAscii, if_neg upper]

/-- The same names have the same NUL characters. -/
theorem nul_notMem_of_sameName
    {left right : String}
    (same : sameName left right)
    (plain : '\x00' ∉ left.toList) :
    '\x00' ∉ right.toList := by
  intro member
  have lowered : '\x00' ∈ left.toList.map Text.lowerAscii := by
    rw [eq_of_beq same]
    exact List.mem_map.mpr ⟨_, member, rfl⟩
  obtain ⟨c, inLeft, isNul⟩ := List.mem_map.mp lowered
  rw [lowerAscii_eq_nul_iff.mp isNul] at inLeft
  exact plain inLeft

/-- The upper case of a character is that of its lower case. -/
theorem upperAscii_lowerAscii (c : Char) :
    Text.upperAscii (Text.lowerAscii c) = Text.upperAscii c := by
  by_cases upper : 65 ≤ c.toNat ∧ c.toNat ≤ 90
  · refine of_isUpper (motive := fun c =>
      Text.upperAscii (Text.lowerAscii c) = Text.upperAscii c) ?_ upper
    intro code least greatest
    interval_cases code <;> decide
  · rw [Text.lowerAscii, if_neg upper]

/-- Types that are the same but for the case of their letters have one affinity. -/
theorem affinityOf_of_sameName
    {left right : String}
    (same : sameName left right) :
    affinityOf left = affinityOf right := by
  have raised := congrArg (List.map Text.upperAscii) (eq_of_beq same)
  simp only [List.map_map, Function.comp_def, upperAscii_lowerAscii] at raised
  rw [affinityOf, raised]
  rfl

/-- A key holds integers. -/
theorem Column.affinity_declare
    {name declared : String}
    (isKey : (Column.declare name declared).isKey) :
    (Column.declare name declared).affinity = Affinity.integer :=
  (affinityOf_of_sameName isKey).trans (by decide)

/-! ## Soundness -/

/-- A table whose names can stand in statements and whose rows fit its columns. -/
structure Table.IsSound (table : Table) : Prop where
  name : '\x00' ∉ table.name.toList
  columnNames : ∀ column ∈ table.columns, '\x00' ∉ column.name.toList
  keyAffinity : ∀ column ∈ table.columns, column.isKey → column.affinity = .integer
  cells : ∀ row ∈ table.rows, row.cells.length = table.columns.length
  keys : ∀ row ∈ table.rows, ∀ (position : Nat) (column : Column),
    table.columns[position]? = some column → column.isKey →
      row.cells[position]? = some (.integer row.number)

/-- A change by which the rows of a table gain one. -/
theorem Table.insert_eq
    {table changed : Table}
    {cells : List Cell}
    (inserted : table.insert cells = .ok changed) :
    ∃ number, changed =
      { table with
        rows := insertSorted ⟨number, storedCells table.columns number cells⟩ table.rows } := by
  unfold Table.insert at inserted
  cases found : table.keyCell? cells with
  | none =>
      rw [found] at inserted
      exact ⟨_, (Except.ok.inj inserted).symm⟩
  | some keyed =>
      simp only [found] at inserted
      obtain ⟨number, _, made⟩ := Except.bind_eq_ok_iff.mp inserted
      by_cases taken : table.rows.any (·.number == number)
      · rw [if_pos taken] at made
        cases made
      · rw [if_neg taken] at made
        exact ⟨number, (Except.ok.inj made).symm⟩

theorem Table.mem_insertSorted
    {row other : Row}
    {rows : List Row} :
    other ∈ insertSorted row rows ↔ other = row ∨ other ∈ rows := by
  induction rows with
  | nil => simp [insertSorted]
  | cons first rest inductionHypothesis =>
      rw [insertSorted]
      split
      · simp
      · simp only [List.mem_cons, inductionHypothesis]
        exact or_left_comm

/-- A row has as many cells as it was given, if these fit the columns. -/
theorem Table.length_storedCells
    {columns : List Column}
    {cells : List Cell}
    (fits : cells.length = columns.length)
    (number : Int) :
    (storedCells columns number cells).length = columns.length := by
  simp [storedCells, fits]

/-- The key of a new row holds its number. -/
theorem Table.storedCells_key
    {columns : List Column}
    {cells : List Cell}
    (fits : cells.length = columns.length)
    (number : Int)
    {position : Nat}
    {column : Column}
    (found : columns[position]? = some column)
    (isKey : column.isKey) :
    (storedCells columns number cells)[position]? = some (.integer number) := by
  obtain ⟨inRange, _⟩ := List.getElem?_eq_some_iff.mp found
  have paired : (columns.zip cells)[position]? =
      some (column, cells.get ⟨position, fits ▸ inRange⟩) :=
    List.getElem?_zip_eq_some.mpr ⟨found, List.getElem?_eq_getElem (fits ▸ inRange)⟩
  rw [storedCells, List.getElem?_map, paired]
  simp [isKey]

/-- A table stays sound with every row that is inserted. -/
theorem Table.IsSound.insert
    {table changed : Table}
    (sound : table.IsSound)
    {cells : List Cell}
    (fits : cells.length = table.columns.length)
    (inserted : table.insert cells = .ok changed) :
    changed.IsSound := by
  obtain ⟨number, rfl⟩ := insert_eq inserted
  refine ⟨sound.name, sound.columnNames, sound.keyAffinity, ?_, ?_⟩
  · intro row member
    rcases mem_insertSorted.mp member with rfl | earlier
    · exact length_storedCells fits number
    · exact sound.cells row earlier
  · intro row member position column found isKey
    rcases mem_insertSorted.mp member with rfl | earlier
    · exact storedCells_key fits number found isKey
    · exact sound.keys row earlier position column found isKey

/-! ## New tables -/

namespace Access

/-- A step adds one declared column to the columns so far. -/
theorem declared_of_foldlM
    {step : List Column → String × String → Except Problem (List Column)}
    (adds : ∀ before given after, step before given = .ok after →
      after = before ++ [Column.declare given.1 given.2])
    {declared : List (String × String)}
    {before after : List Column}
    (known : declared.foldlM step before = .ok after) :
    after = before ++ declared.map fun given => Column.declare given.1 given.2 := by
  induction declared generalizing before with
  | nil =>
      rw [← Except.ok.inj known]
      simp
  | cons given rest inductionHypothesis =>
      rw [List.foldlM_cons] at known
      obtain ⟨next, stepped, following⟩ := Except.bind_eq_ok_iff.mp known
      rw [inductionHypothesis following, adds before given next stepped]
      simp

/-- The columns of a new table are the declared ones. -/
theorem columnsOf_eq
    {table : String}
    {declared : List (String × String)}
    {columns : List Column}
    (known : columnsOf table declared = .ok columns) :
    columns = declared.map fun given => Column.declare given.1 given.2 := by
  rw [← List.nil_append (declared.map _)]
  apply declared_of_foldlM _ known
  rintro before ⟨name, type⟩ after stepped
  simp only at stepped
  split at stepped
  · cases stepped
  · split at stepped
    · cases stepped
    · exact (Except.ok.inj stepped).symm

/-- A new table is sound. -/
theorem isSound_newTable
    {tables : List Table}
    {name : String}
    {declared : List (String × String)}
    {table : Table}
    (made : newTable tables name declared = .ok table) :
    table.IsSound := by
  unfold newTable at made
  obtain ⟨_, checked, rest⟩ := Except.bind_eq_ok_iff.mp made
  have plain : '\x00' ∉ name.toList ∧ ∀ given ∈ declared, '\x00' ∉ given.1.toList := by
    unfold checkNames at checked
    split at checked
    · cases checked
    · rename_i found
      simp at found
      exact ⟨found.1, fun given member => (found.2 _ _ member).1⟩
  have known : ∃ columns, columnsOf name declared = .ok columns ∧ { name, columns } = table := by
    by_cases reserved : Catalog.isReserved name
    · rw [if_pos reserved] at rest
      cases rest
    · by_cases taken : tables.any fun table => sameName table.name name
      · rw [if_neg reserved] at rest
        simp only [taken, if_true] at rest
        cases rest
      · by_cases bare : declared.isEmpty
        · rw [if_neg reserved] at rest
          simp only [taken, bare, if_true] at rest
          cases rest
        · rw [if_neg reserved] at rest
          simp only [taken, bare] at rest
          obtain ⟨columns, collected, same⟩ := Except.bind_eq_ok_iff.mp rest
          exact ⟨columns, collected, Except.ok.inj same⟩
  obtain ⟨columns, collected, rfl⟩ := known
  rw [columnsOf_eq collected]
  refine ⟨plain.1, ?_, ?_, by simp, by simp⟩
  · intro column member
    obtain ⟨given, known, rfl⟩ := List.mem_map.mp member
    exact plain.2 given known
  · intro column member isKey
    obtain ⟨given, known, rfl⟩ := List.mem_map.mp member
    exact Column.affinity_declare isKey

end Access

end Database
end TableQuery
