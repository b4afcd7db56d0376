import TableQuery.Proofs.Answers

/-!
# Conditions that stand for others

Some conditions of a filter can be replaced by others without a change of the answer: that a column
is one of some texts by a group of comparisons, that it is none of them by comparisons one after the
other, and a group of comparisons that all have to be true by the comparisons themselves.
-/

namespace TableQuery
namespace Database

/-! ## Conditions of a row -/

section Row

variable {row : Row}
  {place : Place}
  {members : List String}

/-- The condition that a place holds a text. -/
def equals (place : Place) (text : String) : Sql.Expression Place :=
  .binary .equal (.reference place) (.literal (.text text))

/-- The condition that a place holds one of some texts. -/
def isAmong (place : Place) (members : List String) : Sql.Expression Place :=
  .member (.reference place) (members.map fun member => .literal (.text member))

/-- A chain of equalities seeks each of its texts in the key. -/
theorem soughtKeys?_chain_equals
    (isKey : place.spot.isKey)
    (nonempty : members ≠ []) :
    soughtKeys? (.chain .or (members.map (equals place))) =
      some (members.map Sql.Literal.text) := by
  cases members with
  | nil => exact absurd rfl nonempty
  | cons first rest =>
      induction rest using List.reverseRecOn with
      | nil => simp [Sql.Expression.chain_singleton, equals, soughtKeys?, isKey]
      | append_singleton others last inductionHypothesis =>
          have front := inductionHypothesis (List.cons_ne_nil first others)
          have back : soughtKeys? (equals place last) = some [.text last] := by
            simp [equals, soughtKeys?, isKey]
          simp only [List.map_cons, List.map_append, List.map_nil,
            Sql.Expression.chain_concat] at front ⊢
          simp [soughtKeys?, front, back]

/-- To be one of some texts is to equal one of them, also where the key is sought. -/
theorem holds_chain_equals (nonempty : members ≠ []) :
    holds [row] (.chain .or (members.map (equals place))) = holds [row] (isAmong place members) := by
  by_cases isKey : place.spot.isKey
  · have chained := soughtKeys?_chain_equals isKey nonempty
    have listed : soughtKeys? (isAmong place members) = some (members.map Sql.Literal.text) := by
      simp [isAmong, soughtKeys?, isKey, literals?_map_text]
    simp only [holds, chained, listed]
  · -- Nothing is sought in a place that is not the key, so both sides are computed.
    have sound : place.IsSoundFor row := fun known => absurd known isKey
    have inner : place.spot.isKey → row.IsInner := fun known => absurd known isKey
    obtain ⟨whole, decides, known⟩ := decides_chain_or nonempty
      fun member (_ : member ∈ members) => decides_equal inner sound member
    have chained : holds [row] (.chain .or (members.map (equals place))) =
      .ok (whole == some true) := decides.holds
    rw [chained, known, isAmong, (decides_member inner sound members).holds, disjunction_beq_true,
      List.any_map]
    rfl

/-- A place is none of some texts if it is known to differ from each of them. -/
theorem holds_not_isAmong :
    holds [row] (.unary .not (isAmong place members)) =
      .ok (members.all fun member =>
        (cellAt [row] place).equal? place.spot.affinity .binary (.text member) == some false) := by
  have listed : Decides row (.unary .not (isAmong place members))
      (negate (disjunction (members.map fun member =>
        (cellAt [row] place).equal? place.spot.affinity .binary (.text member)))) := by
    refine ⟨?_, by simp [soughtKeys?]⟩
    simp [eval, isAmong, eval_member, Cell.applySign]
  rw [listed.holds, negate_disjunction_beq_true, List.all_map]
  rfl

theorem holds_notEqual (text : String) :
    holds [row] (.binary .notEqual (.reference place) (.literal (.text text))) =
      .ok ((cellAt [row] place).equal? place.spot.affinity .binary (.text text) == some false) := by
  rw [(decides_notEqual row place text).holds]
  rcases (cellAt [row] place).equal? place.spot.affinity .binary (.text text) with _ | _ | _ <;> rfl

end Row

/-! ## Conditions of a table -/

/-- Conditions that are about the same columns of a table as others, and hold of the same rows. -/
structure Interchange (table : Table) (left right : List Sql.Condition) : Prop where
  columns : ∀ name, (∃ condition ∈ left, name ∈ condition.columns) ↔
    ∃ condition ∈ right, name ∈ condition.columns
  declared : ∀ condition ∈ left, ∀ column ∈ condition.columns, table.Declares column
  holds : ∀ row, holdAll [row] (filterOf table left) = holdAll [row] (filterOf table right)

section Interchange

variable {table : Table}
  {column : String}
  {members : List String}
  {parts : List Sql.Comparison}
  {left right : List Sql.Condition}

theorem Interchange.symm (interchange : Interchange table left right) :
    Interchange table right left where
  columns := fun name => (interchange.columns name).symm
  declared := by
    intro condition member name inColumns
    obtain ⟨other, inLeft, inOther⟩ := (interchange.columns name).mpr ⟨condition, member, inColumns⟩
    exact interchange.declared other inLeft name inOther
  holds := fun row => (interchange.holds row).symm

theorem declares_of_mem_membership
    {negated : Bool}
    (declared : table.Declares column) :
    ∀ condition ∈ [Sql.Condition.membership negated column members],
      ∀ name ∈ condition.columns, table.Declares name := by
  intro condition member name inColumns
  obtain rfl := List.mem_singleton.mp member
  exact List.mem_singleton.mp inColumns ▸ declared

/-- That a column is one of some texts can be said by a group of equalities. -/
theorem interchange_any
    (declared : table.Declares column)
    (nonempty : members ≠ []) :
    Interchange table [.membership false column members]
      [.ofParts .any (members.map fun member => ⟨column, .equal, member⟩)] where
  columns := by
    obtain ⟨first, rest, rfl⟩ := List.exists_cons_of_ne_nil nonempty
    have listed : (Sql.Condition.membership false column (first :: rest)).columns = [column] := rfl
    intro name
    simp [listed, eq_comm]
  declared := declares_of_mem_membership declared
  holds := by
    intro row
    have listed : filterOf table [.membership false column members] =
      [isAmong (placeOf table column) members] := rfl
    have grouped : filterOf table
        [.ofParts .any (members.map fun member => ⟨column, .equal, member⟩)] =
        [.chain .or (members.map (equals (placeOf table column)))] := by
      have each : ∀ expression ∈ members.map (equals (placeOf table column)),
          expression.conjuncts = [expression] := by
        intro expression member
        obtain ⟨text, _, rfl⟩ := List.mem_map.mp member
        rfl
      simp only [filterOf, List.flatMap_singleton, Sql.expression_ofParts, Connective.operator,
        List.map_map]
      exact Sql.Expression.conjuncts_chain_or each
    rw [listed, grouped, holdAll_singleton_eq, holdAll_singleton_eq, holds_chain_equals nonempty]

/-- That a column is none of some texts can be said by comparisons one after the other. -/
theorem interchange_notEqual
    (declared : table.Declares column)
    (nonempty : members ≠ []) :
    Interchange table [.membership true column members]
      (members.map fun member => .comparison ⟨column, .notEqual, member⟩) where
  columns := by
    obtain ⟨first, rest, rfl⟩ := List.exists_cons_of_ne_nil nonempty
    intro name
    simp [Sql.Condition.columns]
  declared := declares_of_mem_membership declared
  holds := by
    intro row
    have listed : filterOf table [.membership true column members] =
      [.unary .not (isAmong (placeOf table column) members)] := rfl
    rw [listed, holdAll_singleton_eq, holds_not_isAmong, filterOf, List.flatMap_map]
    refine (holdAll_flatMap fun member _ => ?_).symm
    have single : (Sql.Condition.expression (placeOf table)
        (.comparison ⟨column, .notEqual, member⟩)).conjuncts =
      [.binary .notEqual (.reference (placeOf table column)) (.literal (.text member))] := rfl
    rw [single, holdAll_singleton_eq, holds_notEqual]

/-- A condition that is always true says nothing. -/
theorem interchange_constant (table : Table) :
    Interchange table [.constant true] [] where
  columns := by simp [Sql.Condition.columns]
  declared := by simp [Sql.Condition.columns]
  holds := by
    intro row
    exact holdAll_singleton (decides_constant row true)

/-- A group of comparisons that all have to be true can be said by the comparisons. -/
theorem interchange_all
    (declared : ∀ part ∈ parts, table.Declares part.column)
    (nonempty : parts ≠ []) :
    Interchange table [.ofParts .all parts] (parts.map .comparison) where
  columns := by
    have single (part : Sql.Comparison) :
      (Sql.Condition.comparison part).columns = [part.column] := rfl
    intro name
    simp [single, eq_comm]
  declared := by
    intro condition member name inColumns
    obtain rfl := List.mem_singleton.mp member
    obtain ⟨part, inParts, rfl⟩ := List.mem_map.mp inColumns
    exact declared part inParts
  holds := by
    intro row
    have same : filterOf table [.ofParts .all parts] = filterOf table (parts.map .comparison) := by
      simp only [filterOf, List.flatMap_singleton, Sql.expression_ofParts, Connective.operator]
      rw [Sql.Expression.conjuncts_chain_and _ (by simpa using nonempty), List.flatMap_map,
        List.flatMap_map]
      rfl
    rw [same]

end Interchange

/-! ## Parts and plans -/

/-- Parts that keep the same rows of the same tables for the same purpose. -/
structure Part.Agrees (left right : Part) : Prop where
  scope : left.scope = right.scope
  projection : left.projection = right.projection
  kept : left.kept = right.kept

section Parts

variable {table : Table}
  {before left right after : List Sql.Condition}

/-- Conditions that stand for others among the same ones make a part that keeps the same rows. -/
theorem ofSelection_of_interchange
    (interchange : Interchange table left right)
    {selection : Sql.Selection}
    (unjoined : selection.joins = [])
    {part : Part}
    (known : Part.ofSelection (scopeOf table)
        { selection with filter := Sql.filterExpression? (before ++ left ++ after) } = .ok part) :
    ∃ other, Part.ofSelection (scopeOf table)
        { selection with filter := Sql.filterExpression? (before ++ right ++ after) } = .ok other ∧
      part.Agrees other := by
  have resolvedLeft := mapM_resolve_declared interchange.declared
  have resolvedRight := mapM_resolve_declared interchange.symm.declared
  rw [Part.ofSelection_filter table unjoined, List.mapM_append, List.mapM_append] at known ⊢
  rw [resolvedLeft] at known
  rw [resolvedRight]
  cases first : before.mapM fun condition =>
      (scopeOf table).resolve (condition.expression Sql.named) with
  | error problem => simp [first, bind, Except.bind, Except.map] at known
  | ok firsts =>
      cases last : after.mapM fun condition =>
          (scopeOf table).resolve (condition.expression Sql.named) with
      | error problem => simp [first, last, bind, Except.bind, pure, Except.pure, Except.map] at known
      | ok lasts =>
          simp only [first, last, bind, Except.bind, pure, Except.pure, Except.map] at known ⊢
          obtain rfl := Except.ok.inj known
          refine ⟨_, rfl, rfl, rfl, ?_⟩
          have same : ∀ rows ∈ (scopeOf table).products,
              holdAll rows ((firsts ++ left.map (fun condition =>
                condition.expression (placeOf table)) ++ lasts).flatMap (·.conjuncts)) =
              holdAll rows ((firsts ++ right.map (fun condition =>
                condition.expression (placeOf table)) ++ lasts).flatMap (·.conjuncts)) := by
            rw [products_scopeOf]
            intro rows member
            obtain ⟨row, _, rfl⟩ := List.mem_map.mp member
            have between := interchange.holds row
            simp only [filterOf] at between
            simp only [List.flatMap_append, List.flatMap_map, holdAll_append_eq, between]
          exact filterM_congr same

end Parts

/-! ## Answers -/

/-- A query with the filter of some conditions in the place of its own. -/
def filteredBy (query : Sql.Query) (conditions : List Sql.Condition) : Sql.Query :=
  { query with
    selection := { query.selection with filter := Sql.filterExpression? conditions } }

/-- A part answers what another one does that agrees with it. -/
theorem Plan.answer_of_agrees
    (found : Plan)
    (single : found.earlier = [])
    {other : Part}
    (agrees : found.part.Agrees other) :
    Plan.answer { found with part := other } = found.answer := by
  obtain ⟨earlier, part, order, limit, offset⟩ := found
  obtain rfl : earlier = [] := single
  obtain ⟨scope, projection, kept⟩ := agrees
  have rows (terms : List (Sql.SortTerm Place)) : other.rows terms = part.rows terms := by
    simp only at projection kept
    simp only [Part.rows, kept, projection]
  have columns : other.columns = part.columns := by
    simp only at scope projection
    simp only [Part.columns, scope, projection]
  cases order <;>
    simp only [Plan.answer, Plan.rows, rows, columns, List.head?_nil, Option.map_none,
      Option.getD_none]

/-- The scope of one table is that of the table which is found. -/
theorem scopeOf_of_ofTerms
    {tables : List Table}
    {name : String}
    {scope : Scope}
    (known : Scope.ofTerms tables [{ name }] = .ok scope) :
    ∃ table, findTable tables name = .ok table ∧ scope = scopeOf table := by
  cases found : findTable tables name with
  | error problem =>
      rw [Scope.ofTerms, List.mapM_cons] at known
      simp [found, bind, Except.bind] at known
  | ok table =>
      rw [ofTerms_name found] at known
      exact ⟨table, rfl, (Except.ok.inj known).symm⟩

/-- A query of one table that is answered has its table. -/
theorem findTable_of_evaluate
    {tables : List Table}
    {query : Sql.Query}
    {name : String}
    (named : query.selection.tables = [{ name }])
    {answer : Answer}
    (known : evaluate tables { query } = .ok answer) :
    ∃ table, findTable tables name = .ok table := by
  obtain ⟨_, planned, _⟩ := Except.bind_eq_ok_iff.mp known
  obtain ⟨_, ofTerms, _⟩ := Except.bind_eq_ok_iff.mp planned
  obtain ⟨table, found, _⟩ := scopeOf_of_ofTerms (named ▸ ofTerms)
  exact ⟨table, found⟩

/-- A query of one table is answered alike with conditions that stand for others. -/
theorem evaluate_of_interchange
    {tables : List Table}
    {query : Sql.Query}
    (single : query.earlier = [])
    (unjoined : query.selection.joins = [])
    {name : String}
    (named : query.selection.tables = [{ name }])
    {table : Table}
    (found : findTable tables name = .ok table)
    {before left right after : List Sql.Condition}
    (interchange : Interchange table left right)
    {answer : Answer}
    (known : evaluate tables { query := filteredBy query (before ++ left ++ after) } =
      .ok answer) :
    evaluate tables { query := filteredBy query (before ++ right ++ after) } = .ok answer := by
  obtain ⟨whole, planned, answered⟩ := Except.bind_eq_ok_iff.mp known
  simp only [plan, filteredBy, single, scopesOf, named, ofTerms_name found] at planned
  obtain ⟨scope, known, rest⟩ := Except.bind_eq_ok_iff.mp planned
  obtain rfl := Except.ok.inj known
  obtain ⟨scopes, none, rest⟩ := Except.bind_eq_ok_iff.mp rest
  obtain rfl := Except.ok.inj none
  obtain ⟨limit, limited, rest⟩ := Except.bind_eq_ok_iff.mp rest
  obtain ⟨offset, skipped, rest⟩ := Except.bind_eq_ok_iff.mp rest
  obtain ⟨part, ofSelection, rest⟩ := Except.bind_eq_ok_iff.mp rest
  obtain ⟨terms, ordered, made⟩ := Except.bind_eq_ok_iff.mp rest
  obtain rfl := Except.ok.inj made
  obtain ⟨other, alike, agrees⟩ := ofSelection_of_interchange interchange unjoined ofSelection
  have replanned : plan tables (filteredBy query (before ++ right ++ after)) =
      .ok { earlier := [], part := other, order := .expressions terms, limit, offset } := by
    simp only [plan, filteredBy, single, scopesOf, named, ofTerms_name found]
    refine Except.bind_eq_ok_iff.mpr ⟨_, rfl, Except.bind_eq_ok_iff.mpr ⟨[], rfl, ?_⟩⟩
    refine Except.bind_eq_ok_iff.mpr ⟨_, limited, Except.bind_eq_ok_iff.mpr ⟨_, skipped, ?_⟩⟩
    exact Except.bind_eq_ok_iff.mpr ⟨_, alike, Except.bind_eq_ok_iff.mpr ⟨_, ordered, rfl⟩⟩
  have same := Plan.answer_of_agrees ⟨[], part, .expressions terms, limit, offset⟩ rfl agrees
  exact Except.bind_eq_ok_iff.mpr ⟨_, replanned, same.trans answered⟩

end Database
end TableQuery
