import TableQuery.Database.Operation
import TableQuery.Database.Table
import TableQuery.Proofs.Sections

/-!
# What a specification selects

The rows that a specification asks for, said without statements: those for which the search and
every predicate are true, in the order of the sort column, and of them a section.  A comparison
with a missing cell is neither true nor false.
-/

namespace TableQuery
namespace Database

/-! ## Cells of rows -/

namespace Table

/-- The cell of a row in the column of a name. -/
def cellOf (table : Table) (row : Row) (name : String) : Cell :=
  ((table.column? name).map row.cell).getD .null

/-- The affinity of the column of a name. -/
def affinityOf (table : Table) (name : String) : Affinity :=
  ((table.column? name).map Spot.affinity).getD .untyped

end Table

namespace Cell

/-- Whether a cell is like a pattern.  Bytes are like none, and a text ends before a NUL
character. -/
def likes? (pattern : String) : Cell → Option Bool
  | .null => none
  | .blob _ => some false
  | cell => some (matchesPattern pattern.toList
      ((cell.toText?.getD "").toList.takeWhile (· != '\x00')))

/-- Whether a cell under an affinity stands in a relation to a text. -/
def compare? (affinity : Affinity) (cell : Cell) (text : String) : Comparator → Option Bool
  | .equal => cell.equal? affinity .binary (.text text)
  | .notEqual => negate (cell.equal? affinity .binary (.text text))
  | .like => cell.likes? text
  | .notLike => negate (cell.likes? text)

/-- Nothing is known about how a missing cell compares. -/
@[simp] theorem compare?_null
    (affinity : Affinity)
    (text : String)
    (comparator : Comparator) :
    Cell.null.compare? affinity text comparator = none := by
  cases comparator <;> cases affinity <;> rfl

end Cell

/-- Whether the cell of a row in a column stands in a relation to a text. -/
def Table.compare? (table : Table) (row : Row) (name : String) (comparator : Comparator)
    (text : String) : Option Bool :=
  (table.cellOf row name).compare? (table.affinityOf name) text comparator

/-- Whether a row may stand before another one in the order of a column. -/
def Table.mayPrecede (table : Table) (name : String) (direction : Direction)
    (left right : Row) : Bool :=
  let order := (table.cellOf left name).order .binary (table.cellOf right name)
  match direction with
  | .ascending => order != .gt
  | .descending => order != .lt

end Database

open Database

/-! ## Conditions -/

/-- Whether a predicate is true of a row. -/
def Predicate.isTrue (table : Table) (row : Row) : Predicate → Bool
  | .comparison comparator column value =>
    table.compare? row column.display comparator value.sqlText == some true
  | .membership negated column members =>
    if negated then members.all fun member =>
      table.compare? row column.display .equal member.sqlText == some false
    else members.any fun member =>
      table.compare? row column.display .equal member.sqlText == some true
  | .group .any pairs => pairs.any fun pair =>
    table.compare? row pair.1.display .equal pair.2.sqlText == some true
  | .group .all pairs => pairs.all fun pair =>
    table.compare? row pair.1.display .equal pair.2.sqlText == some true
  | .foreign _ => false

namespace Spec

/-- Whether a search is true of a row: some field contains the term. -/
def isFound (table : Table) (row : Row) (spec : Spec) : Bool :=
  spec.fields.any fun field =>
    table.compare? row field.display .like spec.searchTerm.searchText == some true

/-- Whether a specification asks for a row. -/
def keeps (spec : Spec) (table : Table) (row : Row) : Bool :=
  (!spec.hasSearch || spec.isFound table row) && spec.predicates.all (·.isTrue table row)

/-- The rows that a specification asks for in order, whatever section of them. -/
def matching (spec : Spec) (table : Table) : List Row :=
  (table.rows.filter (spec.keeps table)).mergeSort
    (table.mayPrecede spec.sortColumn.display spec.sortDirection)

/-- The rows that a specification selects. -/
def selected (spec : Spec) (table : Table) : List Row :=
  window spec.limit.toCount spec.offset.toCount (spec.matching table)

end Spec

end TableQuery
