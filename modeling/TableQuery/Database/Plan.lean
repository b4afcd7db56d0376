import TableQuery.Database.Scope

/-!
# Plans

A plan is a query with its names resolved.  It has one part for each selection, and says how the
answer is sorted: that of a single selection by expressions, a joint answer by its columns.
-/

namespace TableQuery
namespace Database

/-- A selection with its names resolved. -/
structure Part where
  scope : Scope
  projection : Sql.Projection
  conditions : List (Sql.Expression Place)

namespace Part

/-- The names of the columns of the answer. -/
def columns (part : Part) : List String :=
  match part.projection with
  | .rows => part.scope.columns.map (·.2.1.name)
  | .count => ["COUNT(*)"]

/-- The part of a selection on the tables of a scope. -/
def ofSelection (scope : Scope) (selection : Sql.Selection) : Except Problem Part := do
  match selection.projection with
  | .rows => scope.checkColumns
  | .count => pure ()
  let filter ← selection.filter.mapM scope.resolve
  let joins ← selection.joins.mapM scope.resolve
  return { scope, projection := selection.projection
           conditions := (filter.toList ++ joins).flatMap (·.conjuncts) }

/-- The position of the column of the answer that a sort expression is, if it is one. -/
def positionOf? (part : Part) : Sql.Expression Sql.Reference → Option Nat
  | .reference named =>
    match part.projection, named.owners, part.scope.positionNamed? named.column with
    | .count, _, _ => none
    | .rows, [], some position => some position
    | .rows, _, _ => do
      match ← (part.scope.meaning named).toOption with
      | .reference place => part.scope.columns.findIdx? fun (_, _, other) => other.means place
      | _ => none
  | _ => none

end Part

/-- A column by which a joint answer is sorted. -/
structure ColumnTerm where
  position : Nat
  collation : Collation
  direction : Direction
  nullsFirst : Option Bool

/-- How an answer is sorted: a single selection by expressions, a joint answer by its columns. -/
inductive Order where
  | expressions (terms : List (Sql.SortTerm Place))
  | columns (terms : List ColumnTerm)

/-- A query with its names resolved. -/
structure Plan where
  /-- The parts before the last one, each with the combination that follows it. -/
  earlier : List (Part × Sql.Combination)
  part : Part
  order : Order
  limit : Option (Sql.Expression Place)
  offset : Option (Sql.Expression Place)

/-- The column of a joint answer that a sort expression means: the first part that has it decides.
Terms count from one. -/
def columnTermOf (parts : List Part) (term : Nat) (sort : Sql.SortTerm Sql.Reference) :
    Except Problem ColumnTerm := do
  let (expression, collation) ← match sort.expression with
    | .collate operand order => do pure (operand, ← Scope.collationOf order)
    | expression => pure (expression, .binary)
  let count : Nat := (parts.head?.map (·.columns.length)).getD 0
  let position ← match Scope.positionOf? expression with
    | some position =>
      if position < 1 ∨ count < position then throw (.termOutOfRange term count)
      else pure (position.toNat - 1)
    | none =>
      match parts.findSome? (·.positionOf? expression) with
      | some position => pure position
      | none => throw (.termNotInAnswer term)
  return { position, collation, direction := sort.direction, nullsFirst := sort.nullsFirst }

/-- The parts of selections on some tables.  They are resolved from the last one to the first, and
each has to have as many columns as the one that follows it. -/
def partsOf (last : Part) : List (Scope × Sql.Selection × Sql.Combination) →
    Except Problem (List (Part × Sql.Combination))
  | [] => .ok []
  | (scope, selection, combination) :: rest => do
    let others ← partsOf last rest
    let part ← Part.ofSelection scope selection
    let next := (others.head?.map (·.1)).getD last
    if part.columns.length ≠ next.columns.length then
      throw (.columnCountsDiffer combination.words)
    return (part, combination) :: others

/-- The scopes of selections; the tables of the last one are found first. -/
def scopesOf (tables : List Table) : List (Sql.Selection × Sql.Combination) →
    Except Problem (List (Scope × Sql.Selection × Sql.Combination))
  | [] => .ok []
  | (selection, combination) :: rest => do
    let others ← scopesOf tables rest
    return (← Scope.ofTerms tables selection.tables, selection, combination) :: others

/-- The plan of a query on some tables. -/
def plan (tables : List Table) (query : Sql.Query) : Except Problem Plan := do
  let scope ← Scope.ofTerms tables query.selection.tables
  let scopes ← scopesOf tables query.earlier
  let limit ← query.limit.mapM (Scope.resolve [])
  let offset ← query.offset.mapM (Scope.resolve [])
  let part ← Part.ofSelection scope query.selection
  if scopes.isEmpty then
    let order ← query.order.zipIdx.mapM fun (term, index) => do
      let expression ← scope.resolveTerm query.selection.projection (index + 1) term.expression
      return { term with expression }
    return { earlier := [], part, order := .expressions order, limit, offset }
  else
    let earlier ← partsOf part scopes
    let order ← query.order.zipIdx.mapM fun (term, index) =>
      columnTermOf (earlier.map (·.1) ++ [part]) (index + 1) term
    return { earlier, part, order := .columns order, limit, offset }

end Database
end TableQuery
