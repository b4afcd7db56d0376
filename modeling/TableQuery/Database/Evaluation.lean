import TableQuery.Database.Operation
import TableQuery.Database.Scope

/-!
# Evaluation of expressions

The meaning of an expression in a row of each table of a statement, and whether such rows pass a
filter.
-/

namespace TableQuery
namespace Database

/-! ## Expressions -/

/-- The cell at a place in a row of each table. -/
def cellAt (rows : List Row) (place : Place) : Cell :=
  (rows[place.source]?.map (·.cell place.spot)).getD .null

/-- The affinity of an expression, if it is a column. -/
def affinityOf? : Sql.Expression Place → Option Affinity
  | .reference place => some place.spot.affinity
  | .collate operand _ => affinityOf? operand
  | _ => none

/-- The order of texts that an expression chooses. -/
def collationOf? : Sql.Expression Place → Option Collation
  | .collate _ order => (Scope.collationOf order).toOption
  | _ => none

/-- The order of texts in which two operands are compared: the left one chooses first. -/
def comparisonCollation (left right : Sql.Expression Place) : Collation :=
  ((collationOf? left).orElse fun _ => collationOf? right).getD .binary

mutual

/-- The cell that an expression computes from a row of each table.  The right side of "and" and of
"or" is left alone where the left side decides. -/
def eval (rows : List Row) : Sql.Expression Place → Except Problem Cell
  | .reference place => .ok (cellAt rows place)
  | .literal value => .ok (.ofLiteral value)
  | .unary sign operand => do return (← eval rows operand).applySign sign
  | .binary operator left right => do
    let first ← eval rows left
    match operator, first.truth? with
    | .and, some false => return .ofTruth (some false)
    | .or, some true => return .ofTruth (some true)
    | operator, _ =>
      first.applyOperator (Cell.comparisonAffinity (affinityOf? left) (affinityOf? right))
        (comparisonCollation left right) operator (← eval rows right)
  | .member subject members => do
    let found ← eval rows subject
    return .ofTruth (found.isMember ((affinityOf? subject).getD .untyped)
      ((collationOf? subject).getD .binary) (← evalAll rows members))
  | .collate operand _ => eval rows operand

/-- The cells that expressions compute. -/
def evalAll (rows : List Row) : List (Sql.Expression Place) → Except Problem (List Cell)
  | [] => .ok []
  | expression :: rest => do
    let first ← eval rows expression
    return first :: (← evalAll rows rest)

end

/-! ## Filters -/

/-- The values of a list of expressions that are all values of the statement. -/
def literals? : List (Sql.Expression Place) → Option (List Sql.Literal)
  | [] => some []
  | .literal value :: rest => (literals? rest).map (value :: ·)
  | _ => none

/-- The values that a condition seeks in the key, if it does nothing else. -/
def soughtKeys? : Sql.Expression Place → Option (List Sql.Literal)
  | .binary .equal (.reference place) (.literal value) =>
    if place.spot.isKey then some [value] else none
  | .binary .equal (.literal value) (.reference place) =>
    if place.spot.isKey then some [value] else none
  | .member (.reference place) members => if place.spot.isKey then literals? members else none
  | .binary .or left right => do return (← soughtKeys? left) ++ (← soughtKeys? right)
  | _ => none

/-- Whether the number of a row is one of the values that are sought; a real number is sought only
as the integer that it is stored as. -/
def hasKey (row : Row) (values : List Sql.Literal) : Bool :=
  values.any fun value => (Cell.ofLiteral value).store .integer == .integer row.number

/-- Whether a condition is true.  A key of a single table is sought and not compared. -/
def holds (rows : List Row) (condition : Sql.Expression Place) : Except Problem Bool :=
  match rows, soughtKeys? condition with
  | [row], some values => .ok (hasKey row values)
  | rows, _ => do return (← eval rows condition).truth? == some true

/-- Whether all conditions are true; those after one that is not are left alone. -/
def holdAll (rows : List Row) : List (Sql.Expression Place) → Except Problem Bool
  | [] => .ok true
  | condition :: rest => do if ← holds rows condition then holdAll rows rest else return false

end Database
end TableQuery
