import TableQuery.Query.Execution

/-!
# Building queries

A query is built by calls, one after the other.  Each call first edits the specification, which
may fail and then changes nothing, and some calls then compile or run what has been built.
-/

namespace TableQuery

/-- A call on a query that is being built. -/
inductive Call where
  | bindSearchFields (fields : Value)
  | bindPrimaryKey (column : Value)
  | limit (count : Value)
  | offset (count : Value)
  | sortBy (column : Value)
  | order (direction : Value)
  /-- Adds the condition that a column stands in a relation to a value. -/
  | compare (comparator : Comparator) (column value : Value)
  /-- Adds the condition that a column is, or is not, one of the members of a value. -/
  | isMember (negated : Bool) (column members : Value)
  /-- Adds the condition that some of the pairs, or all of them, are a column with its value. -/
  | group (connective : Connective) (pairs : Value)
  | search (term : Value)
  | toSql
  | countSql
  | find
  | totalCount
  | first
  /-- Fetches one page; pages count from one. -/
  | paginate (page perPage : Value)

namespace Call

/-- The members of a collection; a single text is no collection. -/
def membersOf (column members : Value) : Except Fault (List Value) :=
  match members with
  | .text _ | .bytes _ | .direction _ => .error (.textAsMembers column members)
  | _ => members.items

/-- The count that a value stands for, and one where that is zero. -/
def atLeastOne (count : Value) : Nat :=
  max count.toCount 1

/-- The section of a page. -/
def pageOf (page perPage : Value) (spec : Spec) : Spec :=
  let size := atLeastOne perPage
  (spec.setLimit size).setOffset ((atLeastOne page - 1) * size)

/-- The specification after a call. -/
def edit (spec : Spec) : Call → Except Fault Spec
  | .bindSearchFields fields => spec.bindSearchFields fields
  | .bindPrimaryKey column => .ok (spec.bindPrimaryKey column)
  | .limit count => .ok (spec.setLimit count.toCount)
  | .offset count => .ok (spec.setOffset count.toCount)
  | .sortBy column => .ok (spec.setSort column)
  | .order direction => spec.setDirection direction
  | .compare comparator column value =>
    .ok (spec.addPredicate (.comparison comparator column value))
  | .isMember negated column members => do
    return spec.addPredicate (.membership negated column (← membersOf column members))
  | .group connective pairs => do
    return spec.addPredicate (.group connective (← pairs.pairs))
  | .search term => .ok (spec.setSearch term)
  | .first => .ok (spec.setLimit 1)
  | .paginate page perPage => .ok (pageOf page perPage spec)
  | .toSql | .countSql | .find | .totalCount => .ok spec

/-- What a call gives back. -/
inductive Answer where
  /-- The query itself, for the next call. -/
  | query
  | statement (text : String)
  | count (number : Int)
  | instances (instances : List Instance)
  | instance? (first : Option Instance)

open Execution

/-- What a call gives back once the specification has been edited. -/
def answer (driver : Driver state) (model : Model) (spec : Spec) :
    Call → Action (Setting state) Answer
  | .toSql => .statement <$> selectSql driver spec
  | .countSql => .statement <$> Execution.countSql driver spec
  | .find => .instances <$> Execution.find driver model spec
  | .totalCount => .count <$> Execution.totalCount driver spec
  | .first => (fun found => .instance? found.head?) <$> Execution.find driver model spec
  | .paginate _ _ => .instances <$> Execution.find driver model spec
  | _ => pure .query

end Call

/-- A query that is being built: its model and what has been asked for so far. -/
structure Builder where
  model : Model
  spec : Spec

namespace Builder

/-- A query for the table of a model, with nothing bound. -/
def new (model : Model) : Except Fault Builder := do
  return { model, spec := ← model.newSpec }

/-- A query with the search fields and the primary key of a model. -/
def ofModel (model : Model) : Except Fault Builder := do
  return { model, spec := ← model.querySpec }

/-- Makes a call: the query after it, and what it gives back.  The edit of the call stays even
where the run after it fails. -/
def apply (driver : Driver state) (builder : Builder) (call : Call)
    (setting : Setting state) :
    Builder × Except Fault Call.Answer × Setting state :=
  match call.edit builder.spec with
  | .error fault => (builder, .error fault, setting)
  | .ok spec =>
    let (answer, after) := (call.answer driver builder.model spec).run.run setting
    ({ builder with spec }, answer, after)

end Builder

namespace Model

/-- Fetches all instances of a model. -/
def all (model : Model) (driver : Driver state) :
    Action (Setting state) (List Instance) := do
  let spec ← (model.querySpec : Except Fault Spec)
  Execution.find driver model spec

/-- Counts the rows of a model. -/
def count (model : Model) (driver : Driver state) : Action (Setting state) Int := do
  let spec ← (model.querySpec : Except Fault Spec)
  Execution.totalCount driver spec

end Model

end TableQuery
