import TableQuery.Sql.Token

/-!
# Expressions

An expression computes a value from literals and from what its references mean.  References stay a
parameter: a statement is read with references by name, which later become places in rows.
-/

namespace TableQuery
namespace Sql

/-- An operation on two operands. -/
inductive Operator where
  | or
  | and
  | equal
  | notEqual
  | is
  | isNot
  | like
  | less
  | atMost
  | greater
  | atLeast
  | bitAnd
  | bitOr
  | shiftLeft
  | shiftRight
  | add
  | subtract
  | multiply
  | divide
  | remainder
  | concat
deriving DecidableEq, Repr

namespace Operator

/-- How closely an operation holds its operands. -/
def precedence : Operator → Nat
  | .or => 1
  | .and => 2
  | .equal | .notEqual | .is | .isNot | .like => 4
  | .less | .atMost | .greater | .atLeast => 5
  | .bitAnd | .bitOr | .shiftLeft | .shiftRight => 6
  | .add | .subtract => 7
  | .multiply | .divide | .remainder => 8
  | .concat => 9

/-- The operation that a token stands for between two operands. -/
def ofToken? : Token → Option Operator
  | .keyword .or _ => some .or
  | .keyword .and _ => some .and
  | .keyword .like _ => some .like
  | .symbol .equal | .symbol .doubleEqual => some .equal
  | .symbol .notEqual | .symbol .different => some .notEqual
  | .symbol .less => some .less
  | .symbol .atMost => some .atMost
  | .symbol .greater => some .greater
  | .symbol .atLeast => some .atLeast
  | .symbol .ampersand => some .bitAnd
  | .symbol .bar => some .bitOr
  | .symbol .shiftLeft => some .shiftLeft
  | .symbol .shiftRight => some .shiftRight
  | .symbol .plus => some .add
  | .symbol .minus => some .subtract
  | .symbol .star => some .multiply
  | .symbol .slash => some .divide
  | .symbol .percent => some .remainder
  | .symbol .doubleBar => some .concat
  | _ => none

end Operator

/-- An operation on one operand. -/
inductive Sign where
  | not
  | negate
  | keep
  /-- Turns every bit over. -/
  | complement
deriving DecidableEq, Repr

namespace Sign

/-- How closely an operation holds its operand. -/
def precedence : Sign → Nat
  | .not => 3
  | .negate | .keep | .complement => 11

/-- The operation that a token stands for before an operand. -/
def ofToken? : Token → Option Sign
  | .keyword .not _ => some .not
  | .symbol .minus => some .negate
  | .symbol .plus => some .keep
  | .symbol .tilde => some .complement
  | _ => none

end Sign

/-- How closely the choice of an order of texts holds its operand. -/
def collatePrecedence : Nat := 10

/-- A value that stands in a statement. -/
inductive Literal where
  | null
  | text (content : String)
  | number (written : String)
deriving DecidableEq, Repr

/-- What a statement names: a column, and the table that it belongs to where that is said. -/
structure Reference where
  /-- The names before the column: none, a table, or a database and a table. -/
  owners : List String := []
  column : String
  /-- The quote that opens the name of the column, if there is one. -/
  quote : Option Char := none
deriving DecidableEq, Repr

/-- The names of a reference with dots between them. -/
def Reference.text (reference : Reference) : String :=
  ".".intercalate (reference.owners ++ [reference.column])

/-- An expression with references of some type. -/
inductive Expression (α : Type) where
  | reference (target : α)
  | literal (value : Literal)
  | unary (sign : Sign) (operand : Expression α)
  | binary (operator : Operator) (left right : Expression α)
  /-- Whether a subject is one of some members. -/
  | member (subject : Expression α) (members : List (Expression α))
  /-- An operand whose texts are compared in a named order. -/
  | collate (operand : Expression α) (order : String)
deriving Repr

namespace Expression

/-- The expression that is true exactly where another one is false, on demand. -/
def negatedIf (negated : Bool) (expression : Expression α) : Expression α :=
  if negated then .unary .not expression else expression

/-- The expressions that an expression joins by "and". -/
def conjuncts : Expression α → List (Expression α)
  | .binary .and left right => left.conjuncts ++ right.conjuncts
  | expression => [expression]

end Expression

end Sql
end TableQuery
