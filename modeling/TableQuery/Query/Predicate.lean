import TableQuery.Fault

/-!
# Predicates

The closed set of conditions on the rows of a query.
-/

namespace TableQuery

/-- A relation between a column and one value. -/
inductive Comparator where
  | equal
  | notEqual
  | like
  | notLike
deriving DecidableEq, Repr, Inhabited

namespace Comparator

/-- The symbol of a comparator in a statement. -/
def symbol : Comparator → String
  | .equal => "="
  | .notEqual => "!="
  | .like => "LIKE"
  | .notLike => "NOT LIKE"

end Comparator

/-- A condition on the rows of a query. -/
inductive Predicate where
  /-- A column stands in a relation to a value. -/
  | comparison (comparator : Comparator) (column value : Value)
  /-- A column is, or is not, one of some values. -/
  | membership (negated : Bool) (column : Value) (members : List Value)
  /-- Some of the pairs, or all of them, are a column with its value. -/
  | group (connective : Connective) (pairs : List (Value × Value))
  /-- Something else that was put in the place of a condition. -/
  | foreign (typeName : String)
deriving Inhabited

/-- The values of a predicate in order. -/
def Predicate.values : Predicate → List Value
  | .comparison _ _ value => [value]
  | .membership _ _ members => members
  | .group _ pairs => pairs.map Prod.snd
  | .foreign _ => []

end TableQuery
