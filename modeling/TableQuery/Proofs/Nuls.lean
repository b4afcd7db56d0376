import TableQuery.Proofs.Previews
import TableQuery.Proofs.Templates

/-!
# NUL characters in values

The escape of the engine drops NUL characters, so a query shows the same statements with them and
without them.  Whether a query searches is decided before its term is escaped: a term of nothing but
NUL characters is searched for, and its pattern fits any text.
-/

namespace TableQuery

open Database

/-! ## Queries without NUL characters -/

/-- The characters of a text that are not NUL. -/
def Text.withoutNuls (content : String) : String :=
  String.ofList (content.toList.filter (· != '\x00'))

/-- A text without its NUL characters; any other value as it is. -/
def Value.withoutNuls : Value → Value
  | .text content => .text (Text.withoutNuls content)
  | value => value

/-- A predicate whose values have no NUL characters. -/
def Predicate.withoutNuls : Predicate → Predicate
  | .comparison comparator column value => .comparison comparator column value.withoutNuls
  | .membership negated column members =>
    .membership negated column (members.map Value.withoutNuls)
  | .group connective pairs =>
    .group connective (pairs.map fun pair => (pair.1, pair.2.withoutNuls))
  | .foreign typeName => .foreign typeName

/-- A specification whose values and term have no NUL characters. -/
def Spec.withoutNuls (spec : Spec) : Spec :=
  { spec with
    searchTerm := spec.searchTerm.withoutNuls
    predicates := spec.predicates.map Predicate.withoutNuls }

/-- A query whose values and term have no NUL characters. -/
def Builder.withoutNuls (builder : Builder) : Builder :=
  { builder with spec := builder.spec.withoutNuls }

/-- A query searches for a text that has no other characters than NUL. -/
def Spec.SeeksNuls (spec : Spec) : Prop :=
  spec.hasSearch ∧
    ∃ content, spec.searchTerm = .text content ∧ ∀ c ∈ content.toList, c = '\x00'

/-- Nothing is left of a text that has no other characters than NUL. -/
theorem Text.withoutNuls_eq_empty_iff (content : String) :
    Text.withoutNuls content = "" ↔ ∀ c ∈ content.toList, c = '\x00' := by
  rw [Text.withoutNuls, ← String.toList_inj, String.toList_ofList, String.toList_empty,
    List.filter_eq_nil_iff]
  simp

/-- A value without NUL characters counts as true, unless it was a text of nothing else. -/
theorem Value.truthy_withoutNuls (value : Value) :
    value.withoutNuls.truthy ↔
      value.truthy ∧ ¬ ∃ content, value = .text content ∧ ∀ c ∈ content.toList, c = '\x00' := by
  cases value with
  | text content =>
      have filled : Text.withoutNuls content ≠ "" → content ≠ "" := by
        rintro rest rfl
        exact rest rfl
      simpa only [withoutNuls, truthy, bne_iff_ne, ne_eq, Text.withoutNuls_eq_empty_iff, text.injEq,
        exists_eq_left', iff_and_self] using filled
  | _ => simp [withoutNuls]

/-- Without NUL characters a query still searches, unless it searched for nothing else. -/
theorem Spec.hasSearch_withoutNuls (spec : Spec) :
    spec.withoutNuls.hasSearch ↔ spec.hasSearch ∧ ¬ spec.SeeksNuls := by
  have term : spec.withoutNuls.searchTerm = spec.searchTerm.withoutNuls := rfl
  have fields : spec.withoutNuls.searchFields = spec.searchFields := rfl
  simp only [SeeksNuls, hasSearch, Bool.and_eq_true, term, fields, Value.truthy_withoutNuls]
  by_cases only : ∃ content, spec.searchTerm = .text content ∧ ∀ c ∈ content.toList, c = '\x00'
  · simp [only]
  · simp [only]

/-- NUL characters do not matter to whether a value has a text. -/
theorem Value.textFault?_withoutNuls (value : Value) :
    value.withoutNuls.textFault? = value.textFault? := by
  cases value <;> rfl

theorem Value.checkTexts_withoutNuls (values : List Value) :
    Value.checkTexts (values.map Value.withoutNuls) = Value.checkTexts values := by
  unfold Value.checkTexts
  simp only [List.findSome?_map, Function.comp_def, Value.textFault?_withoutNuls]

theorem Predicate.values_withoutNuls (given : Predicate) :
    given.withoutNuls.values = given.values.map Value.withoutNuls := by
  cases given <;> simp [withoutNuls, values]

namespace Sql

open Fragment

/-! ## Rendered conditions -/

/-- The escape does not see NUL characters. -/
theorem doubleQuotes_withoutNuls (raw : String) :
    doubleQuotes (Text.withoutNuls raw) = doubleQuotes raw := by
  simp only [doubleQuotes, Text.withoutNuls, String.toList_ofList, List.filter_filter,
    Bool.and_self]

/-- The text of a value without NUL characters is escaped like that of the value. -/
theorem doubleQuotes_literalText_withoutNuls (value : Value) :
    doubleQuotes value.withoutNuls.literalText = doubleQuotes value.literalText := by
  cases value with
  | text content => exact doubleQuotes_withoutNuls content
  | _ => rfl

theorem render_literal_withoutNuls (value : Value) :
    (literal value.withoutNuls).render doubleQuotes = (literal value).render doubleQuotes := by
  simp [literal, Piece.render, doubleQuotes_literalText_withoutNuls]

theorem render_comparison_withoutNuls
    (column : Value)
    (symbol : String)
    (value : Value) :
    (comparison column symbol value.withoutNuls).render doubleQuotes =
      (comparison column symbol value).render doubleQuotes := by
  simp [comparison, render_literal_withoutNuls]

/-- A predicate without NUL characters has the form of the predicate, or is refused like it. -/
theorem render_layout_withoutNuls (given : Predicate) :
    render doubleQuotes <$> layout given.withoutNuls = render doubleQuotes <$> layout given := by
  cases given with
  | comparison comparator column value =>
      exact congrArg Except.ok (render_comparison_withoutNuls column comparator.symbol value)
  | membership negated column members =>
      refine congrArg Except.ok ?_
      by_cases empty : members = []
      · rw [empty, List.map_nil]
      · simp only [membership, List.isEmpty_iff, List.map_eq_nil_iff, empty, if_false, render_cons,
          render_append, render_join, List.map_map, Function.comp_def, render_literal_withoutNuls]
  | group connective pairs =>
      simp only [Predicate.withoutNuls, layout, group, List.isEmpty_iff, List.map_eq_nil_iff]
      split
      · rfl
      · refine congrArg Except.ok ?_
        simp only [render_cons, render_append, render_join, List.map_map, Function.comp_def,
          render_comparison_withoutNuls]
  | foreign typeName => rfl

/-- A predicate without NUL characters is rendered like the predicate, or refused like it. -/
theorem render_predicate_withoutNuls (given : Predicate) :
    render doubleQuotes <$> predicate given.withoutNuls =
      render doubleQuotes <$> predicate given := by
  rw [predicate, predicate, Predicate.values_withoutNuls, Value.checkTexts_withoutNuls]
  cases Value.checkTexts given.values with
  | error fault => rfl
  | ok _ => exact render_layout_withoutNuls given

/-! ## Clauses -/

/-- The texts of the conditions that predicates are, in order. -/
def conditionTexts (spec : Spec) : Except Fault (List String) :=
  spec.predicates.mapM fun given => render doubleQuotes <$> predicate given

/-- The text of a search, if there is one. -/
def searchText (spec : Spec) : Except Fault (Option String) :=
  Option.map (render doubleQuotes) <$> search spec

/-- The clause of conditions. -/
def clauseOf (conditions : List String) : String :=
  if conditions = [] then "" else "WHERE " ++ " AND ".intercalate conditions

/-- The condition that one of some fields is like a pattern that fits any text. -/
def anythingIn (fields : List Value) : String :=
  "(" ++ " OR ".intercalate (fields.map fun field => quoteName field ++ " LIKE '%%'") ++ ")"

theorem render_whereOf_eq_clauseOf (fragments : List Fragment) :
    (whereOf fragments).render doubleQuotes = clauseOf (fragments.map (render doubleQuotes)) := by
  simp only [render_whereOf_eq_intercalate, clauseOf, List.isEmpty_iff]

theorem mapM_map_render (predicates : List Predicate) :
    predicates.mapM (fun given => render doubleQuotes <$> predicate given) =
      List.map (render doubleQuotes) <$> predicates.mapM predicate := by
  induction predicates with
  | nil => rfl
  | cons first rest inductionHypothesis =>
      rw [List.mapM_cons, List.mapM_cons, inductionHypothesis]
      cases predicate first with
      | error fault => rfl
      | ok fragment => cases rest.mapM predicate <;> rfl

/-- The compiled conditions are the clause of the texts of the search and the predicates. -/
theorem outcome_compileWhere (spec : Spec) :
    (compileWhere spec doubleQuotes).outcome = do
      let found ← searchText spec
      let others ← conditionTexts spec
      return clauseOf (found.toList ++ others) := by
  rw [conditionTexts, mapM_map_render, searchText]
  unfold compileWhere whereClause
  rw [mapM_conditions]
  cases search spec with
  | error fault => rfl
  | ok found =>
      cases spec.predicates.mapM predicate with
      | error fault => rfl
      | ok others =>
          change Except.ok ((whereOf (found.toList ++ others)).render doubleQuotes) = _
          rw [render_whereOf_eq_clauseOf, List.map_append, ← Option.toList_map]
          rfl

/-- NUL characters do not matter to the conditions that predicates are. -/
theorem conditionTexts_withoutNuls (spec : Spec) :
    conditionTexts spec.withoutNuls = conditionTexts spec := by
  unfold conditionTexts Spec.withoutNuls
  rw [List.mapM_map]
  exact congrArg (fun render => spec.predicates.mapM render) (funext render_predicate_withoutNuls)

/-- The text of a search depends on its term up to NUL characters. -/
theorem render_searchIn
    {left right : String}
    (same : doubleQuotes left = doubleQuotes right)
    (fields : List Value) :
    (searchIn left fields).render doubleQuotes = (searchIn right fields).render doubleQuotes := by
  have field (named : Value) :
      (searchField left named).render doubleQuotes = (searchField right named).render doubleQuotes := by
    simp [searchField, Piece.render, same]
  simp only [searchIn, render_cons, render_append, render_join, List.map_map, Function.comp_def,
    field]
  rfl

/-- Unless a query searches for nothing but NUL characters, they do not matter to its search. -/
theorem searchText_withoutNuls
    {spec : Spec}
    (others : ¬ spec.SeeksNuls) :
    searchText spec.withoutNuls = searchText spec := by
  have searches : spec.withoutNuls.hasSearch = spec.hasSearch := by
    rw [Bool.eq_iff_iff, Spec.hasSearch_withoutNuls]
    exact and_iff_left others
  have texts := render_searchIn (doubleQuotes_literalText_withoutNuls spec.searchTerm)
  have fields : spec.withoutNuls.searchFields = spec.searchFields := rfl
  have term : spec.withoutNuls.searchTerm = spec.searchTerm.withoutNuls := rfl
  have checked : Value.checkTexts [spec.searchTerm.withoutNuls] = Value.checkTexts [spec.searchTerm] :=
    Value.checkTexts_withoutNuls [spec.searchTerm]
  simp only [searchText, search, searches, fields, term, checked]
  split
  · cases Value.checkTexts [spec.searchTerm] with
    | error fault => rfl
    | ok _ =>
        cases spec.searchFields.items with
        | error fault => rfl
        | ok listed => exact congrArg (fun text => Except.ok (some text)) (texts listed)
  · rfl

/-- A query that searches for nothing but NUL characters accepts any text of its fields. -/
theorem searchText_of_seeksNuls
    {spec : Spec}
    (nuls : spec.SeeksNuls) :
    searchText spec = (fun fields => some (anythingIn fields)) <$> spec.searchFields.items := by
  obtain ⟨searches, content, term, only⟩ := nuls
  have empty : doubleQuotes content = "" := by
    rw [← doubleQuotes_withoutNuls, (Text.withoutNuls_eq_empty_iff content).mpr only]
    rfl
  have text (fields : List Value) :
      (searchIn content fields).render doubleQuotes = anythingIn fields := by
    rw [render_searchIn (empty.trans rfl : doubleQuotes content = doubleQuotes "")]
    have field (named : Value) :
        (searchField "" named).render doubleQuotes = quoteName named ++ " LIKE '%%'" := by
      simp [searchField, Piece.render, render, doubleQuotes, String.append_assoc]
    simp [searchIn, Piece.render, render_append, render_join, Function.comp_def, field, anythingIn,
      String.append_assoc]
  simp only [searchText, search, searches, term, if_true]
  cases spec.searchFields.items with
  | error fault => rfl
  | ok listed => exact congrArg (fun text => Except.ok (some text)) (text listed)

/-- Without NUL characters there is no search where they were all that was searched for. -/
theorem searchText_withoutNuls_of_seeksNuls
    {spec : Spec}
    (nuls : spec.SeeksNuls) :
    searchText spec.withoutNuls = .ok none := by
  have absent : ¬ spec.withoutNuls.hasSearch := fun searches =>
    ((Spec.hasSearch_withoutNuls spec).mp searches).2 nuls
  simp [searchText, search, absent]
  rfl

end Sql

/-! ## Statements -/

open Execution Sql

/-- The statement for the rows of a specification with a clause in the place of its conditions. -/
def Spec.selecting (spec : Spec) (filter : Except Fault String) : Except Fault String := do
  let limit ← countClause "LIMIT" spec.limit
  let offset ← countClause "OFFSET" spec.offset
  let filter ← filter
  return selectStatement spec.table { filter, order := orderClause spec, limit, offset }
    Engine.driver.unboundedLimit

namespace Builder

/-- A query shows the statements of a clause of conditions, and changes nothing. -/
def Shows (builder : Builder) (filter : Except Fault String) : Prop :=
  ∀ setting : Setting Access,
    (builder.apply Engine.driver .toSql setting).2 =
        ((builder.spec.selecting filter).map .statement, setting) ∧
      (builder.apply Engine.driver .countSql setting).2 =
        ((filter.map (countStatement builder.spec.table)).map .statement, setting)

/-- Two queries show the same statements. -/
def ShowsAlike (left right : Builder) : Prop :=
  ∀ (setting : Setting Access) (call : Call), call = .toSql ∨ call = .countSql →
    (left.apply Engine.driver call setting).2 = (right.apply Engine.driver call setting).2

/-- A query shows the statements of its compiled conditions. -/
theorem shows_compileWhere (builder : Builder) :
    builder.Shows (compileWhere builder.spec doubleQuotes).outcome := by
  have rows : statementBy Engine.driver builder.spec =
      builder.spec.selecting (compileWhere builder.spec doubleQuotes).outcome := by
    unfold statementBy compile Spec.selecting
    cases countClause "LIMIT" builder.spec.limit with
    | error fault => rfl
    | ok limit =>
        cases countClause "OFFSET" builder.spec.offset with
        | error fault => rfl
        | ok offset =>
            change ((compileWhere builder.spec doubleQuotes).outcome.map _).map _ = _
            cases (compileWhere builder.spec doubleQuotes).outcome <;> rfl
  intro setting
  have selected : Call.toSql.edit builder.spec = .ok builder.spec := rfl
  have counted : Call.countSql.edit builder.spec = .ok builder.spec := rfl
  constructor
  · simp only [apply_of_edit Engine.driver selected, Call.answer, ExceptT.runFrom_map,
      runFrom_selectSqlBy, rows]
    rfl
  · simp only [apply_of_edit Engine.driver counted, Call.answer, ExceptT.runFrom_map,
      runFrom_countSqlBy]
    rfl

/-- Queries that show the statements of one clause for one table and section show the same. -/
theorem Shows.alike
    {left right : Builder}
    {filter : Except Fault String}
    (shown : left.Shows filter)
    (others : right.Shows filter)
    (same : left.spec.selecting = right.spec.selecting)
    (table : left.spec.table = right.spec.table) :
    left.ShowsAlike right := by
  rintro setting call (rfl | rfl)
  · rw [(shown setting).1, (others setting).1, same]
  · rw [(shown setting).2, (others setting).2, table]

/-- NUL characters in values and in the term of a search do not matter to the statements that a query
shows, unless it searches for nothing else.  Such a search is compiled to a condition that any text
of its fields meets, and without its NUL characters there is no search. -/
theorem showsAlike_withoutNuls (builder : Builder) :
    (¬ builder.spec.SeeksNuls → builder.withoutNuls.ShowsAlike builder) ∧
      (builder.spec.SeeksNuls →
        (builder.Shows do
          let fields ← builder.spec.searchFields.items
          let others ← conditionTexts builder.spec
          return clauseOf (anythingIn fields :: others)) ∧
        builder.withoutNuls.Shows (clauseOf <$> conditionTexts builder.spec)) := by
  have shown := shows_compileWhere builder
  have bare := shows_compileWhere builder.withoutNuls
  have rest : conditionTexts builder.withoutNuls.spec = conditionTexts builder.spec :=
    conditionTexts_withoutNuls builder.spec
  rw [outcome_compileWhere] at shown bare
  rw [rest] at bare
  constructor
  · intro others
    have search : searchText builder.withoutNuls.spec = searchText builder.spec :=
      searchText_withoutNuls others
    rw [search] at bare
    exact bare.alike shown rfl rfl
  · intro nuls
    have search : searchText builder.withoutNuls.spec = .ok none :=
      searchText_withoutNuls_of_seeksNuls nuls
    rw [search] at bare
    rw [searchText_of_seeksNuls nuls, bind_map_left] at shown
    exact ⟨shown, bare⟩

/-- A query for staff of Rome or of nowhere with "an" in their names, with NUL characters in all of
these texts. -/
def scattered : Builder where
  model := staffModel
  spec :=
    { table := .text "staff"
      searchTerm := .text "a\x00n"
      searchFields := .list [.text "name"]
      predicates := [.membership false (.text "city") [.text "\x00Rome", .text "\x00"]] }

/-- A query for staff that searches their names for a NUL character. -/
def seekingNul : Builder where
  model := staffModel
  spec :=
    { table := .text "staff"
      searchTerm := .text "\x00"
      searchFields := .list [.text "name"] }

theorem not_seeksNuls_scattered : ¬ scattered.spec.SeeksNuls := by
  rintro ⟨_, content, same, only⟩
  obtain rfl : "a\x00n" = content := Value.text.inj same
  exact absurd (only 'a' (by decide)) (by decide)

theorem seeksNuls_seekingNul : seekingNul.spec.SeeksNuls :=
  ⟨rfl, "\x00", rfl, by simp⟩

theorem showsAlike_withoutNuls_scattered :
    (¬ scattered.spec.SeeksNuls ∧ scattered.withoutNuls.ShowsAlike scattered ∧
      scattered.Shows
        (.ok "WHERE (`name` LIKE '%an%') AND `city` IN ('Rome','')")) ∧
    (seekingNul.spec.SeeksNuls ∧ seekingNul.Shows (.ok "WHERE (`name` LIKE '%%')") ∧
      seekingNul.withoutNuls.Shows (.ok "")) := by
  refine ⟨⟨not_seeksNuls_scattered, ?_, ?_⟩, seeksNuls_seekingNul, ?_⟩
  · exact (showsAlike_withoutNuls scattered).1 not_seeksNuls_scattered
  · exact shows_compileWhere scattered
  · exact (showsAlike_withoutNuls seekingNul).2 seeksNuls_seekingNul

/-- A query that searches for a NUL character shows a condition, and none without the character. -/
theorem not_showsAlike_seekingNul :
    (seekingNul.apply Engine.driver .toSql quiet).2.1 =
        .ok (.statement "SELECT * FROM `staff` WHERE (`name` LIKE '%%') ORDER BY `id` ASC") ∧
      (seekingNul.withoutNuls.apply Engine.driver .toSql quiet).2.1 =
        .ok (.statement "SELECT * FROM `staff` ORDER BY `id` ASC") ∧
      ¬ seekingNul.withoutNuls.ShowsAlike seekingNul := by
  have shown : (seekingNul.apply Engine.driver .toSql quiet).2.1 =
      .ok (.statement "SELECT * FROM `staff` WHERE (`name` LIKE '%%') ORDER BY `id` ASC") := by
    rfl
  have bare : (seekingNul.withoutNuls.apply Engine.driver .toSql quiet).2.1 =
      .ok (.statement "SELECT * FROM `staff` ORDER BY `id` ASC") := by
    rfl
  refine ⟨shown, bare, fun alike => ?_⟩
  have same := congrArg Prod.fst (alike quiet .toSql (.inl rfl))
  rw [shown, bare] at same
  exact absurd (Call.Answer.statement.inj (Except.ok.inj same)) (by decide)

end Builder
end TableQuery
