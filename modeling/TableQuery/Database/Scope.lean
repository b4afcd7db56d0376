import TableQuery.Database.Catalog
import TableQuery.Sql.Statement

/-!
# Names in statements

The tables of a statement make a scope, in which every name means one place in the rows of the
tables.  A name that no column has, or that several have, is refused.
-/

namespace TableQuery
namespace Database

-- Powers are those of the core library, whatever else is known.
attribute [local instance (1100)] instPowNat

/-- A table of a statement with the name by which the statement calls it. -/
structure Source where
  table : Table
  label : String
deriving Repr

/-- The tables of a statement. -/
abbrev Scope := List Source

/-- A place in the rows of the tables of a statement, one row for each table. -/
structure Place where
  source : Nat
  spot : Spot
deriving DecidableEq, Repr

/-- Whether two places mean the same. -/
def Place.means (left right : Place) : Bool :=
  left.source == right.source && left.spot.means right.spot

namespace Scope

/-- The scope of the tables that a statement names. -/
def ofTerms (tables : List Table) (terms : List Sql.TableTerm) : Except Problem Scope :=
  terms.mapM fun term => do
    let table ← match term.database with
      | some database => findTableIn database tables term.name
      | none => findTable tables term.name
    return { table, label := term.label.getD table.name }

/-- Whether the names before a column can mean a table that is called by a label. -/
def ownerFits (owners : List String) (label : String) : Bool :=
  match owners with
  | [] => true
  | [owner] => sameName owner label
  | [database, owner] => sameName database databaseName && sameName owner label
  | _ => false

/-- The tables that the names before a column can mean, with their positions. -/
def candidates (scope : Scope) (owners : List String) : List (Source × Nat) :=
  scope.zipIdx.filter fun (source, _) => ownerFits owners source.label

/-- What a name means that no column has: a text, if it stands between double quotes, a truth
value, the number of a row, or nothing. -/
def meaningWithoutColumn (reference : Sql.Reference) (candidates : List (Source × Nat)) :
    Except Problem (Sql.Expression Place) :=
  match candidates, reference.owners, reference.quote with
  | [(_, index)], owners, quote =>
    if Table.isNumberName reference.column then .ok (.reference ⟨index, .number⟩)
    else word owners quote
  | _, owners, quote => word owners quote
where
  /-- What a name means that is no place. -/
  word (owners : List String) (quote : Option Char) : Except Problem (Sql.Expression Place) :=
    if owners.isEmpty && quote == some '"' then .ok (.literal (.text reference.column))
    else if owners.isEmpty && quote.isNone && sameName reference.column "true" then
      .ok (.literal (.number "1"))
    else if owners.isEmpty && quote.isNone && sameName reference.column "false" then
      .ok (.literal (.number "0"))
    else .error (.noSuchColumn reference.text)

/-- What a name means. -/
def meaning (scope : Scope) (reference : Sql.Reference) : Except Problem (Sql.Expression Place) :=
  let candidates := scope.candidates reference.owners
  let places := candidates.filterMap fun (source, index) =>
    (source.table.column? reference.column).map (Place.mk index ·)
  match places with
  | [place] => .ok (.reference place)
  | [] => meaningWithoutColumn reference candidates
  | _ => .error (.ambiguousColumn reference.text)

/-- The order of texts that a name means. -/
def collationOf (name : String) : Except Problem Collation :=
  if sameName name "BINARY" then .ok .binary
  else if sameName name "NOCASE" then .ok .noCase
  else if sameName name "RTRIM" then .ok .rightTrim
  else .error (.noSuchCollation name)

mutual

/-- An expression with its names resolved.  The pattern of a comparison is resolved before the
text. -/
def resolve (scope : Scope) : Sql.Expression Sql.Reference → Except Problem (Sql.Expression Place)
  | .reference named => scope.meaning named
  | .literal value => .ok (.literal value)
  | .unary sign operand => do return .unary sign (← scope.resolve operand)
  | .binary .like left right => do
    let pattern ← scope.resolve right
    return .binary .like (← scope.resolve left) pattern
  | .binary operator left right => do
    let left ← scope.resolve left
    return .binary operator left (← scope.resolve right)
  | .member subject members => do
    let subject ← scope.resolve subject
    return .member subject (← scope.resolveAll members)
  | .collate operand order => do
    let operand ← scope.resolve operand
    let _ ← collationOf order
    return .collate operand order

/-- Expressions with their names resolved. -/
def resolveAll (scope : Scope) :
    List (Sql.Expression Sql.Reference) → Except Problem (List (Sql.Expression Place))
  | [] => .ok []
  | expression :: rest => do
    let first ← scope.resolve expression
    return first :: (← scope.resolveAll rest)

end

/-! ## Columns of the answer -/

/-- The columns of all tables in order, each with its place and the name of its table. -/
def columns (scope : Scope) : List (String × Column × Place) :=
  scope.zipIdx.flatMap fun (source, index) =>
    source.table.columns.zipIdx.map fun (column, position) =>
      (source.label, column, ⟨index, .column position column.affinity column.isKey⟩)

/-- Refuses the first column that has a name of several columns.  Where there is one table, there
is none. -/
def checkColumns (scope : Scope) : Except Problem Unit :=
  if scope.length < 2 then .ok ()
  else
    scope.columns.forM fun (label, column, _) => do
      let _ ← scope.meaning { owners := [databaseName, label], column := column.name }

/-- The column of the answer at a position, for the sort expression in some position; both count
from one. -/
def columnAt (scope : Scope) (count term : Nat) (position : Int) :
    Except Problem (Sql.Expression Place) :=
  if position < 1 ∨ count < position then .error (.termOutOfRange term count)
  else
    match scope.columns[position.toNat - 1]? with
    | some (_, _, place) => .ok (.reference place)
    | none => .ok (.literal .null)

/-- The position of the first column of the answer that has a name. -/
def positionNamed? (scope : Scope) (name : String) : Option Nat :=
  scope.columns.findIdx? fun (_, column, _) => sameName column.name name

/-- The column of the answer that has a name. -/
def columnNamed? (scope : Scope) (name : String) : Option Place := do
  let position ← scope.positionNamed? name
  return (← scope.columns[position]?).2.2

/-- The greatest position of a column that can be written. -/
def positionLimit : Nat := 2 ^ (31 : Nat) - 1

/-- The position of a column that an expression is: an integer, perhaps with signs. -/
def positionOf? : Sql.Expression Sql.Reference → Option Int
  | .literal (.number written) =>
    match Cell.numberOf? written with
    | some (.integer number) => if positionLimit < number.natAbs then none else some number
    | _ => none
  | .unary .keep operand => positionOf? operand
  | .unary .negate operand => (positionOf? operand).map (- ·)
  | _ => none

/-- A sort expression with its names resolved.  A plain name means a column of the answer before it
means any other column, and a plain integer means the position of one. -/
def resolveTerm (scope : Scope) (projection : Sql.Projection) (term : Nat) :
    Sql.Expression Sql.Reference → Except Problem (Sql.Expression Place)
  | .collate operand order => do
    let operand ← scope.resolveTerm projection term operand
    let _ ← collationOf order
    return .collate operand order
  | .reference named =>
    match projection, named.owners, scope.columnNamed? named.column with
    | .rows, [], some place => .ok (.reference place)
    | _, _, _ => scope.meaning named
  | expression =>
    match positionOf? expression with
    | some position =>
      let count := match projection with
        | .rows => scope.columns.length
        | .count => 1
      scope.columnAt count term position
    | none => scope.resolve expression

end Scope

end Database
end TableQuery
