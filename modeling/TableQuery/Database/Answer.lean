import TableQuery.Database.Evaluation
import TableQuery.Database.Plan

/-!
# Answers

The answer to a statement on some tables.  The rows of the tables of a selection are multiplied,
the products for which every condition is true are kept and sorted, and then the section of them is
taken.  A joint answer is put together from the rows of several selections.
-/

namespace TableQuery
namespace Database

/-! ## Order and section -/

/-- A cell by which rows are sorted, with its order of texts and its direction. -/
structure SortKey where
  cell : Cell
  collation : Collation := .binary
  direction : Direction := .ascending
  /-- Whether a missing cell comes first, where it is said. -/
  nullsFirst : Option Bool := none

/-- The order of two keys of one sort expression. -/
def SortKey.order (left right : SortKey) : Ordering :=
  let order := left.cell.order left.collation right.cell
  match left.nullsFirst, left.cell == .null, right.cell == .null with
  | some true, true, false | some false, false, true => .lt
  | some true, false, true | some false, true, false => .gt
  | _, _, _ =>
    match left.direction with
    | .ascending => order
    | .descending => order.swap

/-- Whether rows with some keys may stand before rows with others: the first keys that differ
decide. -/
def precedes : List SortKey → List SortKey → Bool
  | left :: lefts, right :: rights =>
    match left.order right with
    | .lt => true
    | .gt => false
    | .eq => precedes lefts rights
  | _, _ => true

/-- The keys of a row of each table. -/
def sortKeys (rows : List Row) (terms : List (Sql.SortTerm Place)) :
    Except Problem (List SortKey) :=
  terms.mapM fun term => do
    return ⟨← eval rows term.expression, (collationOf? term.expression).getD .binary,
      term.direction, term.nullsFirst⟩

/-- Products of rows in the order of some expressions; those that they do not tell apart keep their
order. -/
def sorted (terms : List (Sql.SortTerm Place)) (products : List (List Row)) :
    Except Problem (List (List Row)) := do
  let keyed ← products.mapM fun rows => do return (← sortKeys rows terms, rows)
  return (keyed.mergeSort fun left right => precedes left.1 right.1).map (·.2)

/-- The section of a list: the first members are left out, and the others bounded. -/
def sectionOf (limit offset : Option Int) (rows : List α) : List α :=
  let kept := rows.drop (offset.getD 0).toNat
  match limit with
  | some count => if count < 0 then kept else kept.take count.toNat
  | none => kept

/-! ## Answers -/

/-- The answer to a statement: names and rows of values. -/
structure Answer where
  columns : List String
  rows : List (List Cell)
deriving DecidableEq, Repr

/-- The count of rows that an expression without names stands for: an integer of 64 bits. -/
def countOf (expression : Sql.Expression Place) : Except Problem Int := do
  match ((← eval [] expression).asNumber).store .integer with
  | .integer number => return number
  | _ => throw .mismatch

/-- The products of the rows of tables: a row of each table, with that of the last table changing
first. -/
def Scope.products : Scope → List (List Row)
  | [] => [[]]
  | source :: rest => source.table.rows.flatMap fun row => (Scope.products rest).map (row :: ·)

/-- The products of rows that a part keeps. -/
def Part.kept (part : Part) : Except Problem (List (List Row)) :=
  part.scope.products.filterM fun rows => holdAll rows part.conditions

/-- The rows of the answer that a part gives by itself, in the order of some expressions. -/
def Part.rows (part : Part) (terms : List (Sql.SortTerm Place)) :
    Except Problem (List (List Cell)) := do
  let kept ← part.kept
  match part.projection with
  | .rows => return (← sorted terms kept).map fun rows => rows.flatMap (·.cells)
  | .count => return [[.integer kept.length]]

/-- The keys of a row of an answer: those of some columns. -/
def columnKeys (terms : List ColumnTerm) (row : List Cell) : List SortKey :=
  terms.map fun term =>
    ⟨row[term.position]?.getD .null, term.collation, term.direction, term.nullsFirst⟩

/-- The keys of a row of an answer that tell it apart from every other one. -/
def ownKeys (row : List Cell) : List SortKey :=
  row.map fun cell => { cell }

/-- Whether two rows of an answer are the same. -/
def sameRow (left right : List Cell) : Bool :=
  precedes (ownKeys left) (ownKeys right) && precedes (ownKeys right) (ownKeys left)

/-- The rows of an answer without those that are the same as an earlier one. -/
def distinctRows : List (List Cell) → List (List Cell)
  | [] => []
  | row :: rest => row :: (distinctRows rest).filter fun other => !sameRow row other

/-- The rows of two answers as a combination joins them, in the order of some columns.  Where rows
that are the same count once, all columns sort. -/
def combine (terms : List ColumnTerm) (combination : Sql.Combination)
    (left right : List (List Cell)) : List (List Cell) :=
  let sort (keys : List Cell → List SortKey) (rows : List (List Cell)) : List (List Cell) :=
    rows.mergeSort fun first second => precedes (keys first) (keys second)
  let sortAll : List (List Cell) → List (List Cell) := fun rows =>
    sort (fun row => columnKeys terms row ++ ownKeys row) (distinctRows rows)
  match combination with
  | .unionAll => sort (columnKeys terms) (left ++ right)
  | .union => sortAll (left ++ right)
  | .intersect => sortAll (left.filter fun row => right.any (sameRow row))
  | .except => sortAll (left.filter fun row => !right.any (sameRow row))

namespace Plan

/-- The rows of a joint answer: those so far are combined with the parts that follow. -/
def joinRows (terms : List ColumnTerm) (last : Part) (combination : Sql.Combination)
    (left : List (List Cell)) : List (Part × Sql.Combination) → Except Problem (List (List Cell))
  | [] => do return combine terms combination left (← last.rows [])
  | (part, next) :: rest => do
    joinRows terms last next (combine terms combination left (← part.rows [])) rest

/-- All rows of the answer in order. -/
def rows (plan : Plan) : Except Problem (List (List Cell)) :=
  match plan.order, plan.earlier with
  | .expressions terms, _ => plan.part.rows terms
  | .columns terms, (part, combination) :: rest => do
    joinRows terms plan.part combination (← part.rows []) rest
  | .columns _, [] => plan.part.rows []

/-- The answer that a plan gives. -/
def answer (plan : Plan) : Except Problem Answer := do
  let limit ← plan.limit.mapM countOf
  let offset ← plan.offset.mapM countOf
  let first := (plan.earlier.head?.map (·.1)).getD plan.part
  return ⟨first.columns, sectionOf limit offset (← plan.rows)⟩

end Plan

/-! ## Statements -/

/-- The answer to a statement on some tables. -/
def evaluate (tables : List Table) (statement : Sql.Statement) : Except Problem Answer := do
  let plan ← plan tables statement.query
  if statement.followed then throw .severalStatements else plan.answer

/-- The answer to the text of a statement on some tables. -/
def query (tables : List Table) (statement : String) : Except Problem Answer := do
  if statement.toList.contains '\x00' then throw .nulInStatement
  else evaluate tables (← Sql.parse statement)

end Database
end TableQuery
