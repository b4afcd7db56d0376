import TableQuery.Direction.Parse
import TableQuery.Query.Predicate

/-!
# Specifications of queries

A specification collects what a query asks for: the table, the conditions, the search, the order
and the section of the rows.  Every setter gives a new specification or, where its argument cannot
be taken, a fault.
-/

namespace TableQuery

/-- What a query asks for. -/
structure Spec where
  table : Value
  primaryKey : Value := .text "id"
  /-- The greatest count of rows; zero stands for no bound. -/
  limit : Value := .int 0
  /-- The count of rows that are left out at the start. -/
  offset : Value := .int 0
  sortColumn : Value := .text "id"
  sortDirection : Direction := .ascending
  searchTerm : Value := .none
  /-- The collection of the columns that a search looks into. -/
  searchFields : Value := .list []
  /-- The conditions, the first one added first. -/
  predicates : List Predicate := []

namespace Spec

/-- Names the primary key; rows are sorted by it from then on. -/
def bindPrimaryKey (spec : Spec) (column : Value) : Spec :=
  { spec with primaryKey := column, sortColumn := column }

/-- The members of a value, or none of a value that counts as false. -/
def fieldsOf (fields : Value) : Except Fault (List Value) :=
  if fields.truthy then fields.items else .ok []

/-- Names the columns that a search looks into. -/
def bindSearchFields (spec : Spec) (fields : Value) : Except Fault Spec := do
  return { spec with searchFields := .list (← fieldsOf fields) }

/-- Adds a column to the list of those that a search looks into. -/
def addSearchField (spec : Spec) (field : Value) : Spec :=
  match spec.searchFields with
  | .list fields => { spec with searchFields := .list (fields ++ [field]) }
  | _ => spec

/-- Adds a condition after the others. -/
def addPredicate (spec : Spec) (predicate : Predicate) : Spec :=
  { spec with predicates := spec.predicates ++ [predicate] }

/-- Sets the greatest count of rows. -/
def setLimit (spec : Spec) (count : Nat) : Spec :=
  { spec with limit := .int count }

/-- Sets the count of rows that are left out. -/
def setOffset (spec : Spec) (count : Nat) : Spec :=
  { spec with offset := .int count }

/-- Sets the column by which rows are sorted. -/
def setSort (spec : Spec) (column : Value) : Spec :=
  { spec with sortColumn := column }

/-- Sets the direction of the sort. -/
def setDirection (spec : Spec) (direction : Value) : Except Fault Spec := do
  return { spec with sortDirection := ← Direction.parse direction }

/-- Sets the term of the search. -/
def setSearch (spec : Spec) (term : Value) : Spec :=
  { spec with searchTerm := term }

/-- Whether a query searches: it has a term and columns to look into. -/
def hasSearch (spec : Spec) : Bool :=
  spec.searchTerm.truthy && spec.searchFields.truthy

/-- The specification after a look at its search fields: a stream of them has none left. -/
def afterSearch (spec : Spec) : Spec :=
  match spec.hasSearch, spec.searchFields with
  | true, .stream _ => { spec with searchFields := .stream [] }
  | _, _ => spec

end Spec

end TableQuery
