import TableQuery.Query.Spec
import TableQuery.Sql.Fragment
import TableQuery.Value.Text

/-!
# Rendering of conditions

Values are rendered as quoted literals, names between backticks as they are, and conditions as
fragments in the order in which they were added, after the search.  A value without a text keeps
its condition from being rendered.
-/

namespace TableQuery

/-- The text of a value in a statement: nothing is empty, a truth value is a digit. -/
def Value.literalText : Value → String
  | .none => ""
  | .bool truth => if truth then "1" else "0"
  | value => value.display

/-- The texts of values in a statement, up to the first value without a text. -/
def Value.textsUntilFault [Nesting] (values : List Value) : List String :=
  (values.takeWhile fun value => value.HasText).map Value.literalText

namespace Sql

/-- A name between backticks.  Tables and columns are named by texts, so a name is always written:
unlike a value it is never asked whether it has a text. -/
def quoteName (name : Value) : String :=
  "`" ++ name.display ++ "`"

/-- A value between quotes. -/
def literal (value : Value) : Fragment :=
  [.fixed "'", .escaped value.literalText, .fixed "'"]

/-- A column, the symbol of a relation and a value. -/
def comparison (column : Value) (symbol : String) (value : Value) : Fragment :=
  .fixed (quoteName column ++ " " ++ symbol ++ " ") :: literal value

/-- The condition that a column is, or is not, one of some values.  Without values it is constant,
since a list in a statement must not be empty. -/
def membership (negated : Bool) (column : Value) (members : List Value) : Fragment :=
  if members.isEmpty then [.fixed (if negated then "1 = 1" else "1 = 0")]
  else
    .fixed (quoteName column ++ (if negated then " NOT IN (" else " IN (")) ::
      (Fragment.join "," (members.map literal) ++ [.fixed ")"])

/-- The conditions that columns have their values, joined between parentheses. -/
def group (connective : Connective) (pairs : List (Value × Value)) : Except Fault Fragment :=
  if pairs.isEmpty then .error (.emptyGroup connective)
  else
    let parts := pairs.map fun pair => comparison pair.1 "=" pair.2
    .ok (.fixed "(" :: (Fragment.join (" " ++ connective.keyword ++ " ") parts ++ [.fixed ")"]))

/-- The fragment of a predicate whose values have texts. -/
def layout : Predicate → Except Fault Fragment
  | .comparison comparator column value => .ok (comparison column comparator.symbol value)
  | .membership negated column members => .ok (membership negated column members)
  | .group connective pairs => group connective pairs
  | .foreign typeName => .error (.unknownPredicate typeName)

section

variable [Nesting]

/-- The fragment of a predicate. -/
def predicate (given : Predicate) : Except Fault Fragment := do
  Value.checkTexts given.values
  layout given

/-- The condition that a field contains a text whose escape has been prepared. -/
def searchField (raw : String) (field : Value) : Fragment :=
  [.fixed (quoteName field ++ " LIKE '%"), .repeated raw, .fixed "%'"]

/-- The condition that one of some fields contains a text; the text is escaped once. -/
def searchIn (raw : String) (fields : List Value) : Fragment :=
  .prepared raw :: .fixed "(" ::
    (Fragment.join " OR " (fields.map (searchField raw)) ++ [.fixed ")"])

/-- The fragment of a search, if the specification has one: a field contains the term. -/
def search (spec : Spec) : Except Fault (Option Fragment) := do
  if spec.hasSearch then
    Value.checkTexts [spec.searchTerm]
    return some (searchIn spec.searchTerm.literalText (← spec.searchFields.items))
  else return none

/-- The conditions of a specification in order, the search first; one that cannot be rendered
stays as its fault. -/
def conditions (spec : Spec) : List (Except Fault Fragment) :=
  let others := spec.predicates.map predicate
  match search spec with
  | .ok none => others
  | .ok (some fragment) => .ok fragment :: others
  | .error fault => .error fault :: others

/-- The texts that are passed to the escape while predicates are rendered one after the other, up to
the first fault. -/
def escapedByPredicates : List Predicate → List String
  | [] => []
  | given :: rest =>
    match predicate given with
    | .ok fragment => fragment.escapedTexts ++ escapedByPredicates rest
    | .error _ => Value.textsUntilFault given.values

/-- The texts that are passed to the escape while the conditions of a specification are rendered, up
to the first fault. -/
def escapedBy (spec : Spec) : List String :=
  match search spec with
  | .ok fragment? =>
    fragment?.toList.flatMap Fragment.escapedTexts ++ escapedByPredicates spec.predicates
  | .error _ => Value.textsUntilFault [spec.searchTerm]

/-- The conditions of a clause, joined. -/
def whereOf (fragments : List Fragment) : Fragment :=
  if fragments.isEmpty then []
  else .fixed "WHERE " :: Fragment.join " AND " fragments

/-- The clause of all conditions, or the fault of the first that cannot be rendered. -/
def whereClause (spec : Spec) : Except Fault Fragment :=
  whereOf <$> (conditions spec).mapM id

end

end Sql
end TableQuery
