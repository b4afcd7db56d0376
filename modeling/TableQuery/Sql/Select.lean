import TableQuery.Sql.Rendering

/-!
# Statements

A compiled specification has four clauses, any of which but the order may be empty.  A statement
that fetches rows puts them together; a statement that counts rows has the conditions only.
-/

namespace TableQuery
namespace Sql

/-- The clauses of a statement as texts. -/
structure Clauses where
  filter : String := ""
  order : String := ""
  limit : String := ""
  offset : String := ""
deriving DecidableEq, Repr

/-- The clause of an order. -/
def orderClause (spec : Spec) : String :=
  "ORDER BY " ++ quoteName spec.sortColumn ++ " " ++ spec.sortDirection.keyword

/-- Whether a value is a number above zero; other values than numbers have no order with zero. -/
def isPositive : Value → Except Fault Bool
  | .bool truth => .ok truth
  | .int number => .ok (0 < number)
  | .float number => .ok (number.orderInt 0 == some .gt)
  | _ => .error (.refused .type)

/-- The clause of a count of rows, empty unless the count is above zero. -/
def countClause (word : String) (count : Value) : Except Fault String := do
  if ← isPositive count then
    match count with
    | .int number =>
      if Numeral.isTooLong number then throw (.refused .value)
      else return word ++ " " ++ count.display
    | _ => return word ++ " " ++ count.display
  else return ""

/-- What compiling a specification produces: the texts that were passed to the escape, and the
clauses or the fault that ended the work. -/
structure Compilation (result : Type) where
  escaped : List String
  outcome : Except Fault result

section

variable [Nesting]

/-- Compiles the conditions of a specification. -/
def compileWhere (spec : Spec) (escape : Escape) : Compilation String where
  escaped := escapedBy spec
  outcome := Fragment.render escape <$> whereClause spec

/-- Compiles a specification: the section of the rows before the conditions. -/
def compile (spec : Spec) (escape : Escape) : Compilation Clauses :=
  match countClause "LIMIT" spec.limit, countClause "OFFSET" spec.offset with
  | .error fault, _ => ⟨[], .error fault⟩
  | .ok _, .error fault => ⟨[], .error fault⟩
  | .ok limit, .ok offset =>
    let conditions := compileWhere spec escape
    { escaped := conditions.escaped
      outcome := conditions.outcome.map fun filter =>
        { filter, order := orderClause spec, limit, offset } }

end

/-- Joins the clauses that are not empty. -/
def joinClauses (clauses : List String) : String :=
  " ".intercalate (clauses.filter (· != ""))

/-- The statement that fetches rows.  Where rows are left out but not bounded, the engine may need
a clause that stands for no bound. -/
def selectStatement (table : Value) (clauses : Clauses) (unboundedLimit : Option String) :
    String :=
  let limit :=
    if clauses.offset != "" && clauses.limit == "" then unboundedLimit.getD "" else clauses.limit
  joinClauses
    ["SELECT * FROM " ++ quoteName table, clauses.filter, clauses.order, limit, clauses.offset]

/-- The statement that counts rows. -/
def countStatement (table : Value) (filter : String) : String :=
  joinClauses ["SELECT COUNT(*) FROM " ++ quoteName table, filter]

end Sql
end TableQuery
