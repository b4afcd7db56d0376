import TableQuery.Proofs.Execution

/-!
# The structure of statements

Values cannot change the structure of a statement: specifications that differ in nothing but values
have statements that differ in nothing but the texts of literals, and the literals of a statement
are the texts of the values, one for each place of a value.
-/

namespace TableQuery

/-! ## Shapes -/

/-- Two predicates that differ in nothing but their values. -/
inductive Predicate.SameShape : Predicate → Predicate → Prop
  | comparison
      (comparator : Comparator)
      (column value other : Value) :
      SameShape (.comparison comparator column value) (.comparison comparator column other)
  | membership
      (negated : Bool)
      (column : Value)
      {members others : List Value}
      (lengths : members.length = others.length) :
      SameShape (.membership negated column members) (.membership negated column others)
  | group
      (connective : Connective)
      {pairs others : List (Value × Value)}
      (columns : pairs.map Prod.fst = others.map Prod.fst) :
      SameShape (.group connective pairs) (.group connective others)

/-- Two specifications that differ in nothing but the values of their predicates and the terms that
they search for. -/
structure Spec.SameShape (left right : Spec) : Prop where
  table : left.table = right.table
  sortColumn : left.sortColumn = right.sortColumn
  sortDirection : left.sortDirection = right.sortDirection
  limit : left.limit = right.limit
  offset : left.offset = right.offset
  searchFields : left.searchFields = right.searchFields
  hasSearch : left.hasSearch = right.hasSearch
  predicates : List.Forall₂ Predicate.SameShape left.predicates right.predicates

/-- The texts of the places of values in order: the search has one for each field. -/
def Spec.literalTexts (spec : Spec) : List String :=
  (if spec.hasSearch then spec.fields.map fun _ => spec.searchTerm.searchText else []) ++
    (spec.predicates.flatMap Predicate.values).map Value.sqlText

namespace Sql

/-- A token without the text of a literal. -/
def Token.skeleton : Token → Token
  | .literal _ => .literal ""
  | token => token

/-- The text of a literal. -/
def Token.literal? : Token → Option String
  | .literal text => some text
  | _ => none

/-- The texts of the literals among some tokens. -/
def literalsOf (tokens : List Token) : List String :=
  tokens.filterMap Token.literal?

@[simp] theorem literalsOf_nil : literalsOf [] = [] := rfl

@[simp] theorem literalsOf_cons
    (token : Token)
    (rest : List Token) :
    literalsOf (token :: rest) = token.literal?.toList ++ literalsOf rest := by
  cases token <;> rfl

@[simp] theorem literalsOf_append (left right : List Token) :
    literalsOf (left ++ right) = literalsOf left ++ literalsOf right := by
  simp [literalsOf]

/-! ## Joined lists -/

theorem map_intercalate
    (f : α → β)
    (separator : List α)
    (lists : List (List α)) :
    (separator.intercalate lists).map f =
      (separator.map f).intercalate (lists.map (List.map f)) := by
  induction lists with
  | nil => rfl
  | cons first rest inductionHypothesis =>
      cases rest with
      | nil => simp
      | cons second others =>
          simp only [List.map_cons] at inductionHypothesis
          simp [List.intercalate_cons_cons, inductionHypothesis]

/-- Separators without literals leave the literals between them. -/
theorem literalsOf_intercalate
    (separator : List Token)
    (dropped : literalsOf separator = [])
    (lists : List (List Token)) :
    literalsOf (separator.intercalate lists) = lists.flatMap literalsOf := by
  induction lists with
  | nil => rfl
  | cons first rest inductionHypothesis =>
      cases rest with
      | nil => simp
      | cons second others =>
          rw [List.intercalate_cons_cons, literalsOf_append, literalsOf_append, dropped,
            inductionHypothesis]
          simp

/-! ## The literals of statements -/

@[simp] theorem literal?_keyword
    (keyword : Keyword)
    (text : String) :
    (Token.keyword keyword text).literal? = none := rfl

@[simp] theorem literal?_symbol (symbol : Symbol) : (Token.symbol symbol).literal? = none := rfl

@[simp] theorem literal?_word (text : String) : (Token.word text).literal? = none := rfl

@[simp] theorem literal?_number (text : String) : (Token.number text).literal? = none := rfl

@[simp] theorem literal?_literal (text : String) : (Token.literal text).literal? = some text := rfl

@[simp] theorem literal?_connective (connective : Connective) :
    connective.token.literal? = none := by
  cases connective <;> rfl

@[simp] theorem literal?_direction (direction : Direction) :
    direction.token.literal? = none := by
  cases direction <;> rfl

@[simp] theorem literal?_nameToken (text : String) : (nameToken text).literal? = none := rfl

@[simp] theorem literalsOf_comparator (comparator : Comparator) :
    literalsOf comparator.tokens = [] := by
  cases comparator <;> rfl

@[simp] theorem literalsOf_integerTokens (number : Int) :
    literalsOf (integerTokens number) = [] := by
  cases number <;> rfl

@[simp] theorem literalsOf_sectionTokens (limit offset : Option Int) :
    literalsOf (sectionTokens limit offset) = [] := by
  cases limit <;> cases offset <;> simp [sectionTokens]

/-- The one literal of a comparison is its value. -/
@[simp] theorem literalsOf_comparison (part : Comparison) :
    literalsOf part.tokens = [part.value] := by
  simp [Comparison.tokens]

theorem literalsOf_ofParts
    (connective : Connective)
    (parts : List Comparison) :
    literalsOf (Condition.ofParts connective parts).tokens = parts.map Comparison.value := by
  have joined := literalsOf_intercalate [connective.token] (by simp)
    (parts.map Comparison.tokens)
  rw [tokens_ofParts]
  simp [joined, List.flatMap_map, ← List.map_eq_flatMap]

/-- The literals of a condition are the values of its predicate. -/
theorem literalsOf_condition (given : Predicate) :
    literalsOf given.condition.tokens = given.values.map Value.sqlText := by
  cases given with
  | comparison comparator column value =>
      simp [Predicate.condition, Condition.tokens, Predicate.values]
  | membership negated column members =>
      by_cases empty : members = []
      · subst empty
        cases negated <;> rfl
      · have joined := literalsOf_intercalate [.symbol .comma] rfl
          (members.map fun member => [Token.literal member.sqlText])
        cases negated <;>
          simp [Predicate.condition, empty, Condition.tokens, joined, Predicate.values,
            List.flatMap_map, ← List.map_eq_flatMap, Function.comp_def]
  | group connective pairs =>
      simp [Predicate.condition, literalsOf_ofParts, Predicate.values, pairComparison]
  | foreign typeName => rfl

/-- The literals of a filter are the texts of the places of values. -/
theorem literalsOf_filterTokens (spec : Spec) :
    literalsOf (filterTokens spec.conditions) = spec.literalTexts := by
  have joined := literalsOf_intercalate [Connective.token .all] (by simp)
    (spec.conditions.map Condition.tokens)
  have filtered : literalsOf (filterTokens spec.conditions) =
      (spec.conditions.map Condition.tokens).flatMap literalsOf := by
    by_cases empty : spec.conditions = []
    · simp [empty, filterTokens]
    · simp [empty, filterTokens, joined]
  rw [filtered]
  by_cases searches : spec.hasSearch <;>
    simp [Spec.conditions, Spec.searchConditions, Spec.literalTexts, searches, List.flatMap_map,
      literalsOf_ofParts, literalsOf_condition, List.map_flatMap, Function.comp_def]

/-! ## The skeletons of statements -/

/-- The skeleton of a comparison does not depend on its value. -/
theorem skeleton_comparison (part : Comparison) :
    part.tokens.map Token.skeleton =
      nameToken part.column :: (part.comparator.tokens ++ [.literal ""]) := by
  obtain ⟨column, comparator, value⟩ := part
  cases comparator <;> rfl

/-- The skeleton of a group depends on the columns and the comparators only. -/
theorem skeleton_ofParts
    (connective : Connective)
    {parts others : List Comparison}
    (columns : parts.map Comparison.column = others.map Comparison.column)
    (comparators : parts.map Comparison.comparator = others.map Comparison.comparator) :
    (Condition.ofParts connective parts).tokens.map Token.skeleton =
      (Condition.ofParts connective others).tokens.map Token.skeleton := by
  have same : (parts.map Comparison.tokens).map (List.map Token.skeleton) =
      (others.map Comparison.tokens).map (List.map Token.skeleton) := by
    induction parts generalizing others with
    | nil =>
        obtain rfl : others = [] := by simpa using columns.symm
        rfl
    | cons part rest inductionHypothesis =>
        cases others with
        | nil => simp at columns
        | cons other following =>
            simp only [List.map_cons, List.cons.injEq] at columns comparators
            have tail := inductionHypothesis columns.2 comparators.2
            simp only [List.map_cons, skeleton_comparison, columns.1, comparators.1, tail]
  simp only [tokens_ofParts, List.map_cons, List.map_append, map_intercalate, same]

/-- Predicates of the same shape have conditions of the same skeleton. -/
theorem skeleton_condition
    {left right : Predicate}
    (same : left.SameShape right) :
    left.condition.tokens.map Token.skeleton = right.condition.tokens.map Token.skeleton := by
  cases same with
  | comparison comparator column value other =>
      simp only [Predicate.condition, Condition.tokens, skeleton_comparison]
  | @membership negated column members others lengths =>
      by_cases empty : members = []
      · have none : others = [] := by simpa [empty] using lengths.symm
        rw [empty, none]
      · have some : others ≠ [] := by
          rintro rfl
          exact empty (by simpa using lengths)
        simp [Predicate.condition, empty, some, Condition.tokens, map_intercalate,
          Function.comp_def, Token.skeleton, List.map_const', lengths]
  | @group connective pairs others columns =>
      refine skeleton_ofParts connective ?_ ?_
      · simpa [pairComparison, Function.comp_def] using congrArg (List.map Value.display) columns
      · have lengths := congrArg List.length columns
        simpa [pairComparison, Function.comp_def, List.map_const'] using lengths

theorem skeleton_predicates
    {left right : List Predicate}
    (same : List.Forall₂ Predicate.SameShape left right) :
    (left.map Predicate.condition).map (fun condition => condition.tokens.map Token.skeleton) =
      (right.map Predicate.condition).map fun condition =>
        condition.tokens.map Token.skeleton := by
  induction same with
  | nil => rfl
  | cons first _ inductionHypothesis =>
      simp only [List.map_cons, skeleton_condition first, inductionHypothesis]

/-- Specifications of the same shape have filters of the same skeleton. -/
theorem skeleton_filterTokens
    {left right : Spec}
    (same : left.SameShape right) :
    (filterTokens left.conditions).map Token.skeleton =
      (filterTokens right.conditions).map Token.skeleton := by
  have predicates := skeleton_predicates same.predicates
  have fields : left.fields = right.fields := by simp only [Spec.fields, same.searchFields]
  have searched : left.searchConditions.map (fun condition =>
        condition.tokens.map Token.skeleton) =
      right.searchConditions.map fun condition => condition.tokens.map Token.skeleton := by
    by_cases searches : right.hasSearch
    · simp only [Spec.searchConditions, same.hasSearch, searches, if_true, List.map_cons,
        List.map_nil, fields]
      rw [skeleton_ofParts .any] <;> simp
    · simp [Spec.searchConditions, same.hasSearch, searches]
  have conditions : left.conditions.map (fun condition => condition.tokens.map Token.skeleton) =
      right.conditions.map fun condition => condition.tokens.map Token.skeleton := by
    simp only [Spec.conditions, List.map_append, searched, predicates]
  have empty : left.conditions = [] ↔ right.conditions = [] := by
    rw [← List.map_eq_nil_iff, conditions, List.map_eq_nil_iff]
  by_cases none : right.conditions = []
  · simp [filterTokens, empty.mpr none, none]
  · have some := mt empty.mp none
    simp [filterTokens, none, some, map_intercalate, Function.comp_def, conditions]

end Sql

/-! ## Statements of an execution -/

namespace Spec.SameShape

/-- A predicate of the shape of a plain one is plain. -/
theorem isPlain_predicate
    {left right : Predicate}
    (same : left.SameShape right)
    (plain : left.IsPlain) :
    right.IsPlain := by
  cases same with
  | comparison comparator column value other => exact plain
  | membership negated column lengths => exact plain
  | @group connective pairs others columns =>
      obtain ⟨nonempty, names⟩ := plain
      refine ⟨?_, fun pair member => ?_⟩
      · rintro rfl
        exact nonempty (by simpa using columns)
      · have known : pair.1 ∈ pairs.map Prod.fst := by
          rw [columns]
          exact List.mem_map_of_mem member
        obtain ⟨found, among, equal⟩ := List.mem_map.mp known
        rw [← equal]
        exact names found among

/-- A specification of the shape of a well-formed one is well-formed. -/
theorem isWellFormed
    {left right : Spec}
    (same : left.SameShape right)
    (formed : left.IsWellFormed) :
    right.IsWellFormed where
  table := same.table ▸ formed.table
  sortColumn := same.sortColumn ▸ formed.sortColumn
  fields := same.searchFields ▸ formed.fields
  predicates := by
    have plain := formed.predicates
    have shapes := same.predicates
    revert plain
    generalize left.predicates = others at shapes
    generalize right.predicates = predicates at shapes
    intro plain
    induction shapes with
    | nil => simp
    | cons first _ inductionHypothesis =>
        simp only [List.mem_cons, forall_eq_or_imp] at plain ⊢
        exact ⟨isPlain_predicate first plain.1, inductionHypothesis plain.2⟩
  limit := same.limit ▸ formed.limit
  offset := same.offset ▸ formed.offset

end Spec.SameShape

namespace Execution

/-- Two statements that differ in nothing but the texts of literals, where these are the texts of
the values of two specifications. -/
structure SameStructure (left right : Spec) (first second : String) : Prop where
  skeleton : (Sql.tokenize first).map Sql.Token.skeleton =
    (Sql.tokenize second).map Sql.Token.skeleton
  literalsLeft : Sql.literalsOf (Sql.tokenize first) = left.literalTexts
  literalsRight : Sql.literalsOf (Sql.tokenize second) = right.literalTexts

/-- Values do not change the structure of a statement: whatever the values of specifications of the
same shape are, their statements differ in the texts of literals only, and these are the values.
There are statements if and only if the values have texts. -/
theorem sameStructure_of_sameShape
    {left right : Spec}
    (same : left.SameShape right)
    (formed : left.IsWellFormed)
    (setting : Setting Database.Access) :
    (∀ first second,
      (selectSql Engine.driver left).runFrom setting = (.ok first, setting) →
      (selectSql Engine.driver right).runFrom setting = (.ok second, setting) →
        SameStructure left right first second) ∧
    (∀ first second,
      (countSql Engine.driver left).runFrom setting = (.ok first, setting) →
      (countSql Engine.driver right).runFrom setting = (.ok second, setting) →
        SameStructure left right first second) ∧
    ∀ spec, spec = left ∨ spec = right →
      ((∃ statement, (selectSql Engine.driver spec).runFrom setting = (.ok statement, setting)) ↔
        spec.HasTexts) ∧
      ((∃ statement, (countSql Engine.driver spec).runFrom setting = (.ok statement, setting)) ↔
        spec.HasTexts) := by
  have formedRight := same.isWellFormed formed
  have filters := Sql.skeleton_filterTokens same
  refine ⟨?_, ?_, ?_⟩
  · intro first second ranLeft ranRight
    have tokensLeft := tokens_of_selectSql formed ranLeft
    have tokensRight := tokens_of_selectSql formedRight ranRight
    refine ⟨?_, ?_, ?_⟩
    · simp [tokensLeft, tokensRight, Sql.Request.tokens, Spec.request, filters, same.table,
        same.sortColumn, same.sortDirection, same.limit, same.offset]
    · simp [tokensLeft, Sql.Request.tokens, Spec.request, Sql.literalsOf_filterTokens]
    · simp [tokensRight, Sql.Request.tokens, Spec.request, Sql.literalsOf_filterTokens]
  · intro first second ranLeft ranRight
    have tokensLeft := tokens_of_countSql formed.toHasPlainForm ranLeft
    have tokensRight := tokens_of_countSql formedRight.toHasPlainForm ranRight
    refine ⟨?_, ?_, ?_⟩
    · simp [tokensLeft, tokensRight, Sql.Request.countTokens, filters, same.table]
    · simp [tokensLeft, Sql.Request.countTokens, Sql.literalsOf_filterTokens]
    · simp [tokensRight, Sql.Request.countTokens, Sql.literalsOf_filterTokens]
  · intro spec known
    have either : spec.IsWellFormed := by
      rcases known with rfl | rfl
      · exact formed
      · exact formedRight
    exact ⟨exists_selectSql_iff either setting, exists_countSql_iff either.toHasPlainForm setting⟩

/-- The search of a staff list for other texts. -/
def otherStaff : Spec :=
  { Spec.staff with
    searchTerm := .text "'); DROP TABLE staff --"
    predicates :=
      [.comparison .notLike (.text "name") .none, .membership true (.text "age") [],
        .group .all [(.text "city", .text "' OR '1'='1"), (.text "age", .text "\x00'")]] }

theorem sameShape_otherStaff : Spec.staff.SameShape otherStaff where
  table := rfl
  sortColumn := rfl
  sortDirection := rfl
  limit := rfl
  offset := rfl
  searchFields := rfl
  hasSearch := rfl
  predicates :=
    .cons (.comparison ..) (.cons (.membership _ _ rfl) (.cons (.group _ rfl) .nil))

theorem hasTexts_otherStaff : otherStaff.HasTexts where
  term := fun _ => Value.hasText_text _
  values := by simp [otherStaff, Predicate.values]

theorem sameStructure_otherStaff :
    (∃ first second,
      (selectSql Engine.driver Spec.staff).runFrom quiet = (.ok first, quiet) ∧
      (selectSql Engine.driver otherStaff).runFrom quiet = (.ok second, quiet) ∧
      SameStructure Spec.staff otherStaff first second) ∧
    ∃ first second,
      (countSql Engine.driver Spec.staff).runFrom quiet = (.ok first, quiet) ∧
      (countSql Engine.driver otherStaff).runFrom quiet = (.ok second, quiet) ∧
      SameStructure Spec.staff otherStaff first second := by
  obtain ⟨selects, counts, exist⟩ := sameStructure_of_sameShape sameShape_otherStaff
    Spec.isRenderable_staff.isWellFormed quiet
  obtain ⟨selectStaff, countStaff⟩ := exist Spec.staff (.inl rfl)
  obtain ⟨selectOther, countOther⟩ := exist otherStaff (.inr rfl)
  constructor
  · obtain ⟨first, ranFirst⟩ := selectStaff.mpr Spec.hasTexts_staff
    obtain ⟨second, ranSecond⟩ := selectOther.mpr hasTexts_otherStaff
    exact ⟨first, second, ranFirst, ranSecond, selects first second ranFirst ranSecond⟩
  · obtain ⟨first, ranFirst⟩ := countStaff.mpr Spec.hasTexts_staff
    obtain ⟨second, ranSecond⟩ := countOther.mpr hasTexts_otherStaff
    exact ⟨first, second, ranFirst, ranSecond, counts first second ranFirst ranSecond⟩

end Execution
end TableQuery
