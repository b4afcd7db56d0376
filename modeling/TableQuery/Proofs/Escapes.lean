import TableQuery.Proofs.Templates

/-!
# Effects of escapes

Conditions are rendered here from the predicates at once, by an escape that may do anything: it is
an action on a state of its own, called while the text is put together.  An escape that notes every
text before it answers tells what it has been called with.  These are the texts that a compilation
lists, one after the other, and what is put together is the compiled text; both hold up to the fault
that ends the work.
-/

namespace TableQuery
namespace Sql

/-- An escape that may do anything. -/
abbrev Escaping (state : Type) := String → Action state String

namespace Escaping

section

variable [Nesting] {state : Type} (escaping : Escaping state)

/-- Renders a value between quotes. -/
def literal (value : Value) : Action state String := do
  (Value.checkTexts [value] : Except Fault Unit)
  return "'" ++ (← escaping value.literalText) ++ "'"

/-- Renders a column, the symbol of a relation and a value. -/
def comparison (column : Value) (symbol : String) (value : Value) : Action state String := do
  return quoteName column ++ " " ++ symbol ++ " " ++ (← literal escaping value)

/-- Renders the condition that a column is, or is not, one of some values. -/
def membership (negated : Bool) (column : Value) (members : List Value) :
    Action state String := do
  if members.isEmpty then return if negated then "1 = 1" else "1 = 0"
  else
    let literals ← members.mapM (literal escaping)
    return quoteName column ++ (if negated then " NOT IN (" else " IN (") ++
      ",".intercalate literals ++ ")"

/-- Renders the conditions that columns have their values. -/
def group (connective : Connective) (pairs : List (Value × Value)) : Action state String := do
  if pairs.isEmpty then throw (.emptyGroup connective)
  else
    let parts ← pairs.mapM fun pair => comparison escaping pair.1 "=" pair.2
    return "(" ++ (" " ++ connective.keyword ++ " ").intercalate parts ++ ")"

/-- Renders a predicate. -/
def predicate : Predicate → Action state String
  | .comparison comparator column value => comparison escaping column comparator.symbol value
  | .membership negated column members => membership escaping negated column members
  | .group connective pairs => group escaping connective pairs
  | .foreign typeName => throw (.unknownPredicate typeName)

/-- Renders the search, if the specification has one; its term is escaped once. -/
def search (spec : Spec) : Action state (Option String) := do
  if spec.hasSearch then
    (Value.checkTexts [spec.searchTerm] : Except Fault Unit)
    let pattern := "'%" ++ (← escaping spec.searchTerm.literalText) ++ "%'"
    let fields ← (spec.searchFields.items : Except Fault (List Value))
    let parts := fields.map fun field => quoteName field ++ " LIKE " ++ pattern
    return some ("(" ++ " OR ".intercalate parts ++ ")")
  else return none

/-- Renders the clause of all conditions, the search first. -/
def compileWhere (spec : Spec) : Action state String := do
  let found ← search escaping spec
  let others ← spec.predicates.mapM (predicate escaping)
  let fragments := found.toList ++ others
  return if fragments.isEmpty then "" else "WHERE " ++ " AND ".intercalate fragments

end

/-! ## Escapes that note their texts -/

/-- An escape that notes a text before it answers. -/
def noting {state : Type} (escape : Escape) (note : String → state → state) : Escaping state :=
  fun raw => do
    modify (note raw)
    return escape raw

/-- An action that notes some texts, one after the other, and ends as is said. -/
def Notes {state : Type} (note : String → state → state) (action : Action state α)
    (texts : List String) (outcome : Except Fault α) : Prop :=
  ∀ before, action.runFrom before = (outcome, texts.foldl (fun noted raw => note raw noted) before)

namespace Notes

variable {state : Type} {note : String → state → state}

theorem pure (result : α) : Notes note (Pure.pure result) [] (.ok result) :=
  fun _ => rfl

theorem throw (fault : Fault) :
    Notes note (MonadExcept.throw fault : Action state α) [] (.error fault) :=
  fun _ => rfl

theorem lift (outcome : Except Fault α) :
    Notes note (liftM outcome : Action state α) [] outcome :=
  fun before => ExceptT.runFrom_lift outcome before

theorem noting
    (escape : Escape)
    (raw : String) :
    Notes note (Escaping.noting escape note raw) [raw] (.ok (escape raw)) :=
  fun _ => rfl

/-- What the second of two actions notes comes after what the first one notes. -/
theorem bind
    {action : Action state α}
    {next : α → Action state β}
    {first later : List String}
    {result : α}
    {outcome : Except Fault β}
    (begun : Notes note action first (.ok result))
    (rest : Notes note (next result) later outcome) :
    Notes note (action >>= next) (first ++ later) outcome := by
  intro before
  rw [ExceptT.runFrom_bind_ok (begun before), rest, List.foldl_append]

/-- Nothing comes after a fault. -/
theorem bind_error
    {action : Action state α}
    {texts : List String}
    {fault : Fault}
    (failed : Notes note action texts (.error fault))
    (next : α → Action state β) :
    Notes note (action >>= next) texts (.error fault) := by
  intro before
  rw [ExceptT.runFrom_bind, failed before]

/-- A result that is only put into another form adds no notes. -/
theorem map
    {action : Action state α}
    {texts : List String}
    {outcome : Except Fault α}
    (notes : Notes note action texts outcome)
    (f : α → β) :
    Notes note (action >>= fun result => Pure.pure (f result)) texts (outcome.map f) := by
  cases outcome with
  | error fault => exact notes.bind_error _
  | ok result =>
      have whole : Notes note (action >>= fun result => Pure.pure (f result)) (texts ++ [])
          (.ok (f result)) := notes.bind (Notes.pure (f result))
      rwa [List.append_nil] at whole

end Notes

/-! ## Predicates -/

section

variable [Nesting]
  {state : Type}
  (escape : Escape)
  (note : String → state → state)

omit [Nesting] in
/-- What is made of a known result after a check. -/
theorem Notes.mapChecked
    {note : String → state → state}
    {action : Action state α}
    {texts : List String}
    {checked : Except Fault Unit}
    {result : α}
    (notes : Notes note action texts (checked.map fun _ => result))
    (f : α → β) :
    Notes note (action >>= fun result => Pure.pure (f result)) texts
      (checked.map fun _ => f result) := by
  have mapped := notes.map f
  cases checked <;> exact mapped

/-- A value is noted if it has a text. -/
theorem notes_literal (value : Value) :
    Notes note (literal (noting escape note) value) (Value.textsUntilFault [value])
      ((Value.checkTexts [value]).map fun _ => (Sql.literal value).render escape) := by
  unfold literal
  cases lacks : value.textFault? with
  | some fault =>
      rw [Value.textsUntilFault_cons_of_textless lacks, Value.checkTexts_cons_of_textless lacks]
      exact (Notes.throw fault).bind_error _
  | none =>
      have shown : (Sql.literal value).render escape = "'" ++ escape value.literalText ++ "'" := by
        simp [Sql.literal, Piece.render, String.append_assoc]
      rw [Value.textsUntilFault_cons_of_hasText lacks, Value.checkTexts_cons_of_hasText lacks, shown]
      exact (Notes.pure ()).bind
        ((Notes.noting escape value.literalText).map fun text => "'" ++ text ++ "'")

/-- Where each of some things has a value that is noted, the values are noted in order, up to the
first that has no text. -/
theorem notes_mapM
    {note : String → state → state}
    {valueOf : α → Value}
    {action : α → Action state String}
    {shown : α → String}
    (each : ∀ item, Notes note (action item) (Value.textsUntilFault [valueOf item])
      ((Value.checkTexts [valueOf item]).map fun _ => shown item))
    (items : List α) :
    Notes note (items.mapM action) (Value.textsUntilFault (items.map valueOf))
      ((Value.checkTexts (items.map valueOf)).map fun _ => items.map shown) := by
  induction items with
  | nil => exact Notes.pure []
  | cons item rest inductionHypothesis =>
      have first := each item
      rw [List.mapM_cons, List.map_cons]
      cases lacks : (valueOf item).textFault? with
      | some fault =>
          rw [Value.textsUntilFault_cons_of_textless lacks, Value.checkTexts_cons_of_textless lacks] at first ⊢
          exact first.bind_error _
      | none =>
          rw [Value.textsUntilFault_cons_of_hasText lacks, Value.checkTexts_cons_of_hasText lacks] at first ⊢
          have begun : Notes note (action item) [(valueOf item).literalText] (.ok (shown item)) :=
            first
          exact begun.bind (inductionHypothesis.mapChecked fun texts => shown item :: texts)

theorem notes_comparison
    (column : Value)
    (symbol : String)
    (value : Value) :
    Notes note (comparison (noting escape note) column symbol value) (Value.textsUntilFault [value])
      ((Value.checkTexts [value]).map fun _ =>
        (Sql.comparison column symbol value).render escape) := by
  have shown : (Sql.comparison column symbol value).render escape =
      quoteName column ++ " " ++ symbol ++ " " ++ (Sql.literal value).render escape := by
    simp [Sql.comparison, Piece.render]
  rw [shown]
  exact (notes_literal escape note value).mapChecked fun text =>
    quoteName column ++ " " ++ symbol ++ " " ++ text

theorem map_render_predicate
    {given : Predicate}
    {fragment : Fragment}
    (laid : layout given = .ok fragment) :
    (Sql.predicate given).map (Fragment.render escape) =
      (Value.checkTexts given.values).map fun _ => fragment.render escape := by
  rw [Sql.predicate, laid]
  cases Value.checkTexts given.values <;> rfl

/-- A predicate is rendered as it is compiled.  Its values are noted in order, up to the first that
has no text. -/
theorem notes_predicate (given : Predicate) :
    Notes note (predicate (noting escape note) given) (Value.textsUntilFault given.values)
      ((Sql.predicate given).map (Fragment.render escape)) := by
  cases given with
  | comparison comparator column value =>
      rw [map_render_predicate escape rfl]
      exact notes_comparison escape note column comparator.symbol value
  | membership negated column members =>
      rw [map_render_predicate escape rfl]
      cases members with
      | nil => cases negated <;> exact Notes.pure _
      | cons first rest =>
          have shown : (Sql.membership negated column (first :: rest)).render escape =
              quoteName column ++ (if negated then " NOT IN (" else " IN (") ++
                ",".intercalate ((first :: rest).map fun member =>
                  (Sql.literal member).render escape) ++ ")" := by
            simp [Sql.membership, Fragment.render_append, Fragment.render_join, Piece.render,
              Function.comp_def, String.append_assoc]
          have notes := notes_mapM (notes_literal escape note) (first :: rest)
          simp only [List.map_id'] at notes
          rw [shown]
          exact notes.mapChecked fun literals =>
            quoteName column ++ (if negated then " NOT IN (" else " IN (") ++
              ",".intercalate literals ++ ")"
  | group connective pairs =>
      cases pairs with
      | nil => exact Notes.throw _
      | cons first rest =>
          rw [map_render_predicate escape rfl]
          have shown : Fragment.render escape (.fixed "(" ::
              (Fragment.join (" " ++ connective.keyword ++ " ")
                ((first :: rest).map fun pair => Sql.comparison pair.1 "=" pair.2) ++
                [.fixed ")"])) =
              "(" ++ (" " ++ connective.keyword ++ " ").intercalate
                ((first :: rest).map fun pair =>
                  (Sql.comparison pair.1 "=" pair.2).render escape) ++ ")" := by
            simp [Fragment.render_append, Fragment.render_join, Piece.render, Function.comp_def,
              String.append_assoc]
          have notes := notes_mapM
            (fun pair : Value × Value => notes_comparison escape note pair.1 "=" pair.2)
            (first :: rest)
          rw [shown]
          exact notes.mapChecked fun parts =>
            "(" ++ (" " ++ connective.keyword ++ " ").intercalate parts ++ ")"
  | foreign typeName => exact Notes.throw _

/-! ## Conditions -/

omit escape note in
/-- A predicate that is rendered lists the texts of its values. -/
theorem escapedTexts_of_predicate
    {given : Predicate}
    {fragment : Fragment}
    (rendered : Sql.predicate given = .ok fragment) :
    fragment.escapedTexts = Value.textsUntilFault given.values := by
  rw [Value.textsUntilFault_of_hasTexts (predicate_eq_ok_iff.mp rendered).1]
  exact filterMap_predicate Piece.escaped? (fun _ => rfl) (fun _ => rfl) rendered

/-- Predicates are rendered as they are compiled, and note the texts that a compilation lists. -/
theorem notes_predicates (predicates : List Predicate) :
    Notes note (predicates.mapM (predicate (noting escape note)))
      (escapedByPredicates predicates)
      ((predicates.mapM Sql.predicate).map (List.map (Fragment.render escape))) := by
  induction predicates with
  | nil => exact Notes.pure []
  | cons given rest inductionHypothesis =>
      have first := notes_predicate escape note given
      rw [List.mapM_cons, List.mapM_cons, escapedByPredicates]
      cases rendered : Sql.predicate given with
      | error fault =>
          rw [rendered] at first
          exact first.bind_error _
      | ok fragment =>
          rw [rendered, ← escapedTexts_of_predicate rendered] at first
          have others := inductionHypothesis.map fun texts => fragment.render escape :: texts
          cases remaining : rest.mapM Sql.predicate <;> rw [remaining] at others <;>
            exact first.bind others

omit [Nesting] note in
theorem render_search
    (raw : String)
    (fields : List Value) :
    (searchIn raw fields).render escape =
      "(" ++ " OR ".intercalate
        (fields.map fun field => quoteName field ++ " LIKE " ++ ("'%" ++ escape raw ++ "%'")) ++
        ")" := by
  have field (name : Value) : (searchField raw name).render escape =
      quoteName name ++ " LIKE " ++ ("'%" ++ escape raw ++ "%'") := by
    have opening : " LIKE '%" = " LIKE " ++ "'%" := rfl
    simp only [searchField, Fragment.render_cons, Fragment.render_nil, Piece.render, opening,
      String.append_assoc, String.append_empty]
  simp [searchIn, Fragment.render_append, Fragment.render_join, Piece.render, Function.comp_def,
    field, String.append_assoc]

/-- A search is rendered as it is compiled, and its term is noted if it has a text. -/
theorem notes_search (spec : Spec) :
    Notes note (search (noting escape note) spec)
      (match Sql.search spec with
      | .ok fragment? => fragment?.toList.flatMap Fragment.escapedTexts
      | .error _ => Value.textsUntilFault [spec.searchTerm])
      ((Sql.search spec).map (Option.map (Fragment.render escape))) := by
  unfold search Sql.search
  by_cases searches : spec.hasSearch
  · rw [if_pos searches, if_pos searches]
    cases lacks : spec.searchTerm.textFault? with
    | some fault =>
        rw [Value.checkTexts_cons_of_textless lacks]
        have none := Value.textsUntilFault_cons_of_textless lacks []
        simp only [bind, Except.bind, none]
        exact (Notes.throw fault).bind_error _
    | none =>
        rw [Value.checkTexts_cons_of_hasText lacks]
        have one := Value.textsUntilFault_cons_of_hasText lacks []
        have noted : Notes note (noting escape note spec.searchTerm.literalText)
            [spec.searchTerm.literalText] (.ok (escape spec.searchTerm.literalText)) :=
          Notes.noting escape _
        cases collected : spec.searchFields.items with
        | error fault =>
            simp only [bind, Except.bind, one]
            exact (Notes.pure ()).bind (noted.bind ((Notes.throw fault).bind_error _))
        | ok fields =>
            let whole := searchIn spec.searchTerm.literalText fields
            have once : List.flatMap Fragment.escapedTexts [whole] =
                [spec.searchTerm.literalText] := by
              have read := filterMap_searchIn Piece.escaped? (fun _ => rfl)
                spec.searchTerm.literalText fields
              simp [whole, Fragment.escapedTexts, read, Piece.escaped?]
            change Notes note _ (List.flatMap Fragment.escapedTexts [whole])
              (.ok (some (whole.render escape)))
            rw [once, render_search]
            exact (Notes.pure ()).bind (noted.bind ((Notes.pure fields).bind (Notes.pure _)))
  · rw [if_neg searches, if_neg searches]
    exact Notes.pure none

/-- An escape that notes its texts is called with those that a compilation lists, one after the
other, while the clause of the conditions is put together as it is compiled. -/
theorem notes_compileWhere (spec : Spec) :
    Notes note (compileWhere (noting escape note) spec) (Sql.compileWhere spec escape).escaped
      (Sql.compileWhere spec escape).outcome := by
  have begun := notes_search escape note spec
  unfold compileWhere Sql.compileWhere escapedBy whereClause
  rw [mapM_conditions]
  cases searched : Sql.search spec with
  | error fault =>
      rw [searched] at begun
      exact begun.bind_error _
  | ok found =>
      rw [searched] at begun
      have others := notes_predicates escape note spec.predicates
      refine begun.bind ?_
      cases remaining : spec.predicates.mapM Sql.predicate with
      | error fault =>
          rw [remaining] at others
          exact others.bind_error _
      | ok fragments =>
          rw [remaining] at others
          change Notes note _ _ (.ok ((whereOf (found.toList ++ fragments)).render escape))
          rw [render_whereOf_eq_intercalate, List.map_append, ← Option.toList_map]
          exact others.map _

/-- The trace of an escape, listed from its first call on, is that of the compilation. -/
theorem runFrom_compileWhere (spec : Spec) :
    (compileWhere (noting escape fun raw texts => texts ++ [raw]) spec).runFrom [] =
      ((Sql.compileWhere spec escape).outcome, (Sql.compileWhere spec escape).escaped) := by
  rw [notes_compileWhere escape (fun raw texts => texts ++ [raw]) spec []]
  simp [List.foldl_append_eq_append, ← List.flatMap_def]

end
end Escaping
end Sql
end TableQuery
