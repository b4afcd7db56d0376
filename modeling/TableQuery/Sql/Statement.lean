import TableQuery.Direction
import TableQuery.Sql.Reading

/-!
# Reading statements

A statement fetches rows or counts them: it names tables, and may have a filter, an order and a
section.  It is read token by token through its clauses, which come in this order.  Several
selections can make one answer, which then has one order and one section.
-/

namespace TableQuery
namespace Sql

/-- What a statement asks for. -/
inductive Projection where
  | rows
  | count
deriving DecidableEq, Repr

/-- A table of a statement, and the name by which the statement calls it. -/
structure TableTerm where
  /-- The name of the database of the table, where it is said. -/
  database : Option String := none
  name : String
  label : Option String := none
deriving DecidableEq, Repr

/-- An expression by which rows are sorted. -/
structure SortTerm (α : Type) where
  expression : Expression α
  direction : Direction := .ascending
  /-- Whether rows without a value come first, where it is said. -/
  nullsFirst : Option Bool := none
deriving Repr

/-- What is asked for, and of which rows. -/
structure Selection where
  projection : Projection := .rows
  tables : List TableTerm := []
  /-- The conditions with which tables are joined. -/
  joins : List (Expression Reference) := []
  filter : Option (Expression Reference) := none
deriving Repr

/-- How the answers of two selections make one. -/
inductive Combination where
  | union
  | unionAll
  | intersect
  | except
deriving DecidableEq, Repr

/-- The words of a combination. -/
def Combination.words : Combination → String
  | .union => "UNION"
  | .unionAll => "UNION ALL"
  | .intersect => "INTERSECT"
  | .except => "EXCEPT"

/-- A query: selections, and the order and the section of their joint answer. -/
structure Query where
  /-- The selections before the last one, each with the combination that follows it. -/
  earlier : List (Selection × Combination) := []
  selection : Selection := {}
  order : List (SortTerm Reference) := []
  /-- The greatest count of rows; a negative one stands for no bound. -/
  limit : Option (Expression Reference) := none
  offset : Option (Expression Reference) := none
deriving Repr

/-- A statement: a query, and whether more than blanks and comments follow its end. -/
structure Statement where
  query : Query
  followed : Bool := false
deriving Repr

/-- The place in a statement. -/
inductive Clause where
  | start
  | projection
  | countOpening
  | countStar
  | countClosing
  | from
  | table
  /-- After a table that may still turn out to be its database, or get a name of its own. -/
  | tableNamed
  /-- The name of a table after the name of its database. -/
  | tablePart
  /-- After a table that may still get a name of its own. -/
  | tableQualified
  | label
  | tableLabelled
  /-- The word "join" after a word for its kind. -/
  | join
  /-- The condition with which the last table is joined. -/
  | on (reading : Reading)
  | filter (reading : Reading)
  | by
  | term (reading : Reading)
  | termDirected
  /-- The word for the place of rows without a value. -/
  | nulls
  | termPlaced
  | limit (reading : Reading)
  | offset (reading : Reading)
  /-- After a comma in the section: the first number has been the offset. -/
  | limitAfterOffset (reading : Reading)
  /-- After the word "union", which another word may follow. -/
  | union
  | combination (combination : Combination)
  | finished

/-- How far a statement has been read. -/
structure Progress where
  query : Query := {}
  clause : Clause := .start
  followed : Bool := false
  /-- The last clause that came before a combination, although it has to come last. -/
  early : Option (String × Combination) := none

namespace Progress

/-- Goes on to a clause. -/
def goTo (progress : Progress) (clause : Clause) : Progress :=
  { progress with clause }

/-- Goes on to a clause if a token is the one that has to come. -/
def expect (progress : Progress) (fits : Bool) (clause : Clause) (token : Token) :
    Read Progress :=
  if fits then .ok (progress.goTo clause) else .error (problemAt token)

/-- Changes the selection that is being read. -/
def onSelection (progress : Progress) (change : Selection → Selection) : Progress :=
  { progress with query := { progress.query with selection := change progress.query.selection } }

/-- The clause that a token begins.  The first argument counts the clauses that are past: the
tables, the filter, the order and the section. -/
def clauseOf? (passed : Nat) : Token → Option Clause
  | .keyword .where _ => if passed < 2 then some (.filter {}) else none
  | .keyword .order _ => if passed < 3 then some .by else none
  | .keyword .limit _ => if passed < 4 then some (.limit {}) else none
  | .keyword .union _ => some .union
  | .keyword .intersect _ => some (.combination .intersect)
  | .keyword .except _ => some (.combination .except)
  | .symbol .semicolon => some .finished
  | _ => none

/-- Goes on to the clause that a token begins. -/
def begin (progress : Progress) (passed : Nat) (token : Token) : Read Progress :=
  match clauseOf? passed token with
  | some clause => .ok (progress.goTo clause)
  | none => .error (problemAt token)

/-- Whether a word is the name of the function that counts. -/
def isCount (word : String) : Bool :=
  word.toList.map Text.upperAscii == "COUNT".toList

/-- The step after "select". -/
def stepProjection (progress : Progress) (token : Token) : Read Progress :=
  match token with
  | .symbol .star => .ok (progress.goTo .from)
  | .word word =>
    if isCount word then
      .ok ((progress.onSelection ({ · with projection := .count })).goTo .countOpening)
    else .error (problemAt token)
  | token => .error (problemAt token)

/-- The name that a token is where a table has to be named, which also may be a literal. -/
def tableNameOf? : Token → Option String
  | .literal text => some text
  | token => (Reading.nameOf? token).map (·.1)

/-- The step on the name of a table. -/
def stepTable (progress : Progress) (token : Token) : Read Progress :=
  match tableNameOf? token with
  | some name =>
    .ok ((progress.onSelection fun selection =>
      { selection with tables := selection.tables ++ [{ name }] }).goTo .tableNamed)
  | none => .error (problemAt token)

/-- Changes the last table. -/
def onLastTable (progress : Progress) (change : TableTerm → TableTerm) : Progress :=
  progress.onSelection fun selection =>
    { selection with tables := selection.tables.modify (selection.tables.length - 1) change }

/-- The step on the name of a table whose database has been named. -/
def stepTablePart (progress : Progress) (token : Token) : Read Progress :=
  match tableNameOf? token with
  | some name =>
    .ok ((progress.onLastTable fun table =>
      { table with database := some table.name, name }).goTo .tableQualified)
  | none => .error (problemAt token)

/-- The step after a whole table. -/
def stepAfterTable (progress : Progress) (token : Token) : Read Progress :=
  match token with
  | .symbol .comma | .keyword .join _ => .ok (progress.goTo .table)
  | .keyword .inner _ | .keyword .cross _ => .ok (progress.goTo .join)
  | .keyword .on _ => .ok (progress.goTo (.on {}))
  | token => progress.begin 1 token

/-- The step on the name that a table may get. -/
def stepLabel (progress : Progress) (token : Token) (otherwise : Read Progress) : Read Progress :=
  match tableNameOf? token with
  | some label =>
    .ok ((progress.onLastTable ({ · with label })).goTo .tableLabelled)
  | none => otherwise

/-- The step after the name of a table. -/
def stepQualified (progress : Progress) (token : Token) : Read Progress :=
  match token with
  | .keyword .as _ => .ok (progress.goTo .label)
  | token => progress.stepLabel token (progress.stepAfterTable token)

/-- Ends the condition with which a table is joined to the ones before it. -/
def endJoin (progress : Progress) (reading : Reading) (operand : Operand) : Read Progress := do
  let condition ← reading.whole operand
  if progress.query.selection.tables.length < 2 then throw (.joinRequired "ON")
  else return progress.onSelection fun selection =>
    { selection with joins := selection.joins ++ [condition] }

/-- Ends the filter. -/
def endFilter (progress : Progress) (reading : Reading) (operand : Operand) : Read Progress := do
  let condition ← reading.whole operand
  return progress.onSelection ({ · with filter := condition })

/-- Ends an expression by which rows are sorted. -/
def endTerm (progress : Progress) (reading : Reading) (operand : Operand) : Read Progress := do
  let term : SortTerm Reference := { expression := ← reading.whole operand }
  return { progress with
    query := { progress.query with order := progress.query.order ++ [term] } }

/-- Ends the greatest count of rows. -/
def endLimit (progress : Progress) (reading : Reading) (operand : Operand) : Read Progress := do
  return { progress with
    query := { progress.query with limit := some (← reading.whole operand) } }

/-- Ends the count of rows that are left out. -/
def endOffset (progress : Progress) (reading : Reading) (operand : Operand) : Read Progress := do
  return { progress with
    query := { progress.query with offset := some (← reading.whole operand) } }

/-- Changes how rows are sorted by the last expression. -/
def onLastTerm (progress : Progress) (change : SortTerm Reference → SortTerm Reference) :
    Progress :=
  let order := progress.query.order
  { progress with query := { progress.query with order := order.modify (order.length - 1) change } }

/-- Sorts by the last expression in a direction. -/
def withDirection (progress : Progress) (direction : Direction) : Progress :=
  (progress.onLastTerm ({ · with direction })).goTo .termDirected

/-- The step after an expression by which rows are sorted and all that it says about the order. -/
def stepPlaced (progress : Progress) (token : Token) : Read Progress :=
  if token = .symbol .comma then .ok (progress.goTo (.term {})) else progress.begin 3 token

/-- The step after an expression by which rows are sorted and its direction. -/
def stepDirected (progress : Progress) (token : Token) : Read Progress :=
  match token with
  | .keyword .nulls _ => .ok (progress.goTo .nulls)
  | token => progress.stepPlaced token

/-- The step after a whole expression by which rows are sorted. -/
def stepAfterTerm (progress : Progress) (token : Token) : Read Progress :=
  match token with
  | .keyword .asc _ => .ok (progress.withDirection .ascending)
  | .keyword .desc _ => .ok (progress.withDirection .descending)
  | token => progress.stepDirected token

/-- The step on the word for the place of rows without a value. -/
def stepNulls (progress : Progress) (token : Token) : Read Progress :=
  let place (nullsFirst : Bool) : Progress :=
    (progress.onLastTerm ({ · with nullsFirst })).goTo .termPlaced
  match token with
  | .keyword .first _ => .ok (place true)
  | .keyword .last _ => .ok (place false)
  | token => .error (problemAt token)

/-- Whether a token ends the clause of an expression. -/
def endsExpression : Clause → Token → Bool
  | .on _, token =>
    (clauseOf? 1 token).isSome ||
      match token with
      | .symbol .comma | .keyword .join _ | .keyword .inner _ | .keyword .cross _ => true
      | _ => false
  | .filter _, token => (clauseOf? 2 token).isSome
  | .term _, token =>
    (clauseOf? 3 token).isSome ||
      match token with
      | .symbol .comma | .keyword .asc _ | .keyword .desc _ | .keyword .nulls _ => true
      | _ => false
  | .limit _, token =>
    (clauseOf? 4 token).isSome ||
      match token with
      | .symbol .comma | .keyword .offset _ => true
      | _ => false
  | _, token => (clauseOf? 4 token).isSome

/-- Ends the expression of a clause before a token, and steps on the token. -/
def stepEnd (progress : Progress) (reading : Reading) (operand : Operand) (token : Token) :
    Read Progress := do
  match progress.clause, token with
  | .on _, token => (← progress.endJoin reading operand).stepAfterTable token
  | .filter _, token => (← progress.endFilter reading operand).begin 2 token
  | .term _, token => (← progress.endTerm reading operand).stepAfterTerm token
  | .limit _, .symbol .comma =>
    return (← progress.endOffset reading operand).goTo (.limitAfterOffset {})
  | .limit _, .keyword .offset _ => return (← progress.endLimit reading operand).goTo (.offset {})
  | .limit _, token | .limitAfterOffset _, token =>
    (← progress.endLimit reading operand).begin 4 token
  | .offset _, token => (← progress.endOffset reading operand).begin 4 token
  | _, token => throw (problemAt token)

/-- The step within the expression of a clause, which is put together again by `wrap`. -/
def stepExpression (progress : Progress) (wrap : Reading → Clause) (reading : Reading)
    (token : Token) : Read Progress :=
  match reading.outermost? with
  | some operand =>
    if endsExpression progress.clause token then progress.stepEnd reading operand token
    else do return progress.goTo (wrap (← reading.step token))
  | none => do return progress.goTo (wrap (← reading.step token))

/-- Begins the selection after a combination.  The order and the section belong to the joint
answer, so they have to come last. -/
def combine (progress : Progress) (combination : Combination) : Progress :=
  let query := progress.query
  let early :=
    if !query.order.isEmpty then some ("ORDER BY", combination)
    else if query.limit.isSome then some ("LIMIT", combination)
    else progress.early
  { progress with
    query := { earlier := query.earlier ++ [(query.selection, combination)] }
    clause := .projection
    early }

/-- The step on the word that begins the selection after a combination. -/
def stepCombination (progress : Progress) (combination : Combination) (token : Token) :
    Read Progress :=
  match token with
  | .keyword .select _ => .ok (progress.combine combination)
  | token => .error (problemAt token)

/-- The step on a token. -/
def step (progress : Progress) (token : Token) : Read Progress :=
  match progress.clause with
  | .start =>
    match token with
    | .keyword .select _ => .ok (progress.goTo .projection)
    | token => .error (problemAt token)
  | .projection => progress.stepProjection token
  | .countOpening => progress.expect (token = .symbol .opening) .countStar token
  | .countStar => progress.expect (token = .symbol .star) .countClosing token
  | .countClosing => progress.expect (token = .symbol .closing) .from token
  | .from =>
    match token with
    | .keyword .from _ => .ok (progress.goTo .table)
    | token => .error (problemAt token)
  | .table => progress.stepTable token
  | .tableNamed =>
    if token = .symbol .dot then .ok (progress.goTo .tablePart) else progress.stepQualified token
  | .tablePart => progress.stepTablePart token
  | .tableQualified => progress.stepQualified token
  | .label => progress.stepLabel token (.error (problemAt token))
  | .tableLabelled => progress.stepAfterTable token
  | .join =>
    match token with
    | .keyword .join _ => .ok (progress.goTo .table)
    | token => .error (problemAt token)
  | .on reading => progress.stepExpression .on reading token
  | .filter reading => progress.stepExpression .filter reading token
  | .by =>
    match token with
    | .keyword .by _ => .ok (progress.goTo (.term {}))
    | token => .error (problemAt token)
  | .term reading => progress.stepExpression .term reading token
  | .termDirected => progress.stepDirected token
  | .nulls => progress.stepNulls token
  | .termPlaced => progress.stepPlaced token
  | .limit reading => progress.stepExpression .limit reading token
  | .offset reading => progress.stepExpression .offset reading token
  | .limitAfterOffset reading => progress.stepExpression .limitAfterOffset reading token
  | .union =>
    match token with
    | .keyword .all _ => .ok (progress.goTo (.combination .unionAll))
    | token => progress.stepCombination .union token
  | .combination combination => progress.stepCombination combination token
  | .finished => .ok { progress with followed := true }

/-- The statement that has been read, unless a clause has come too early. -/
def statement (progress : Progress) : Read Statement :=
  match progress.early with
  | some (clause, combination) => .error (.clauseTooEarly clause combination.words)
  | none => .ok { query := progress.query, followed := progress.followed }

/-- Ends the expression of the last clause, and the statement. -/
def finishExpression (reading : Reading) (finish : Reading → Operand → Read Progress) :
    Read Statement := do
  match reading.outermost? with
  | some operand => (← finish reading operand).statement
  | none => throw .incomplete

/-- The statement that ends with the tokens. -/
def finish (progress : Progress) : Read Statement :=
  match progress.clause with
  | .tableNamed | .tableQualified | .tableLabelled | .termDirected | .termPlaced | .finished =>
    progress.statement
  | .on reading => finishExpression reading progress.endJoin
  | .filter reading => finishExpression reading progress.endFilter
  | .term reading => finishExpression reading progress.endTerm
  | .limit reading | .limitAfterOffset reading =>
    finishExpression reading progress.endLimit
  | .offset reading => finishExpression reading progress.endOffset
  | _ => .error .incomplete

end Progress

/-- Reads a statement from its tokens. -/
def readTokens (tokens : List Token) : Read Statement := do
  (← tokens.foldlM Progress.step {}).finish

/-- Reads a statement. -/
def parse (statement : String) : Read Statement :=
  readTokens (tokenize statement)

end Sql
end TableQuery
