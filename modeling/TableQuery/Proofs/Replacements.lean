import TableQuery.Proofs.Counts
import TableQuery.Proofs.Filters

/-!
# Predicates in the place of others

Where the conditions of some predicates can be replaced by those of others, so can the predicates
themselves: the same rows are found in the same order, and the same number of them is counted.
-/

namespace TableQuery

open Database

/-! ## Predicates in the place of others -/

/-- A specification with some predicates in the place of its own. -/
def Spec.having (spec : Spec) (predicates : List Predicate) : Spec :=
  { spec with predicates }

/-- A specification whose filter is not too high for the engine. -/
def Spec.IsShallow (spec : Spec) : Prop :=
  (Sql.filterOperand spec.conditions).height ≤ Sql.heightLimit

instance (spec : Spec) : Decidable spec.IsShallow :=
  inferInstanceAs (Decidable (_ ≤ _))

/-- Predicates with the same values that can be rendered as far as these have texts, and of which the
conditions stand for each other in a table of a name. -/
structure Swaps (tables : List Table) (name : String) (left right : List Predicate) : Prop where
  plainLeft : ∀ given ∈ left, given.IsPlain
  plainRight : ∀ given ∈ right, given.IsPlain
  values : left.flatMap Predicate.values = right.flatMap Predicate.values
  interchange : ∀ table, findTable tables name = .ok table →
    Interchange table (left.map Predicate.condition) (right.map Predicate.condition)

namespace Predicate

/-- A predicate that can be rendered with plain names has only plain names. -/
theorem IsPlain.columns
    {given : Predicate}
    (plain : given.IsPlain) :
    ∀ column ∈ given.columns, column.IsPlainName := by
  cases given with
  | comparison comparator column value =>
      intro name member
      exact List.mem_singleton.mp member ▸ plain
  | membership negated column members =>
      intro name member
      exact List.mem_singleton.mp member ▸ plain
  | group connective pairs =>
      intro column member
      obtain ⟨pair, known, rfl⟩ := List.mem_map.mp member
      exact plain.2 pair known
  | foreign typeName => exact absurd plain id

end Predicate

section Swaps

variable {tables : List Table}
  {spec : Spec}
  {before left right after : List Predicate}

theorem Swaps.symm
    {name : String}
    (swaps : Swaps tables name left right) :
    Swaps tables name right left where
  plainLeft := swaps.plainRight
  plainRight := swaps.plainLeft
  values := swaps.values.symm
  interchange := fun table found => (swaps.interchange table found).symm

/-- The conditions of a specification with predicates in the middle of others. -/
theorem Spec.conditions_having
    (spec : Spec)
    (before middle after : List Predicate) :
    (spec.having (before ++ middle ++ after)).conditions =
      (spec.searchConditions ++ before.map Predicate.condition) ++
        middle.map Predicate.condition ++ after.map Predicate.condition := by
  have same : (spec.having (before ++ middle ++ after)).conditions =
    spec.searchConditions ++ (before ++ middle ++ after).map Predicate.condition := rfl
  rw [same, List.map_append, List.map_append, ← List.append_assoc, ← List.append_assoc]

/-- Plain predicates can be put among others without a name that is not plain. -/
theorem Spec.HasPlainNames.having
    (names : (spec.having (before ++ after)).HasPlainNames)
    {middle : List Predicate}
    (plain : ∀ given ∈ middle, given.IsPlain) :
    (spec.having (before ++ middle ++ after)).HasPlainNames where
  table := names.table
  sortColumn := names.sortColumn
  fields := names.fields
  columns := by
    intro given member
    by_cases inMiddle : given ∈ middle
    · exact (plain given inMiddle).columns
    · have others : given ∈ before ++ after := by
        have listed : given ∈ before ++ middle ++ after := member
        simp only [List.mem_append] at listed ⊢
        tauto
      exact names.columns given others

/-- Plain predicates can take the place of others with the same values. -/
theorem Swaps.isPlain
    {name : String}
    (swaps : Swaps tables name left right)
    (plain : (spec.having (before ++ left ++ after)).IsPlain) :
    (spec.having (before ++ right ++ after)).IsPlain := by
  have origin {given : Predicate}
      (member : given ∈ (spec.having (before ++ right ++ after)).predicates) :
      given ∈ right ∨ given ∈ (spec.having (before ++ left ++ after)).predicates := by
    have listed : given ∈ before ++ right ++ after := member
    by_cases inRight : given ∈ right
    · exact .inl inRight
    · have kept : given ∈ before ++ left ++ after := by
        simp only [List.mem_append] at listed ⊢
        tauto
      exact .inr kept
  exact
    { table := plain.table
      sortColumn := plain.sortColumn
      fields := plain.fields
      predicates := fun given member =>
        (origin member).elim (swaps.plainRight given) (plain.predicates given)
      texts :=
        { term := plain.texts.term
          values := by
            intro given member value inValues
            rcases origin member with inRight | kept
            · have inLeft : value ∈ left.flatMap Predicate.values := by
                rw [swaps.values]
                exact List.mem_flatMap.mpr ⟨given, inRight, inValues⟩
              obtain ⟨other, known, inOther⟩ := List.mem_flatMap.mp inLeft
              have listed : other ∈ before ++ left ++ after := by simp [known]
              exact plain.texts.values other listed value inOther
            · exact plain.texts.values given kept value inValues } }

/-! ## Statements -/

/-- Predicates in the place of others bring no NUL character into a filter. -/
theorem nul_mem_compileWhere_having
    {table : Table}
    (interchange : Interchange table (left.map Predicate.condition) (right.map Predicate.condition))
    (collected : ∃ fields, spec.searchFields = .list fields)
    {filter other : String}
    (compiled : (Sql.compileWhere (spec.having (before ++ left ++ after))
      Sql.doubleQuotes).outcome = .ok filter)
    (compiledOther : (Sql.compileWhere (spec.having (before ++ right ++ after))
      Sql.doubleQuotes).outcome = .ok other) :
    '\x00' ∈ other.toList ↔ '\x00' ∈ filter.toList := by
  have listed (predicates : List Predicate) :
      ∃ fields, (spec.having predicates).searchFields = .list fields := collected
  have shown (conditions : List Sql.Condition) :
      (∃ condition ∈ conditions, ∃ name ∈ condition.columns, '\x00' ∈ name.toList) ↔
        ∃ name, '\x00' ∈ name.toList ∧ ∃ condition ∈ conditions, name ∈ condition.columns := by
    constructor
    · rintro ⟨condition, known, name, member, nul⟩
      exact ⟨name, nul, condition, known, member⟩
    · rintro ⟨name, nul, condition, known, member⟩
      exact ⟨condition, known, name, member, nul⟩
  have columns := interchange.columns
  rw [Sql.nul_mem_compileWhere (listed _) compiled,
    Sql.nul_mem_compileWhere (listed _) compiledOther, Spec.conditions_having,
    Spec.conditions_having, shown, shown]
  simp only [List.mem_append, or_and_right, exists_or, columns]

/-- The answer to a query of the table of a specification is the same with predicates in the place of
others. -/
theorem Swaps.evaluate
    (swaps : Swaps tables spec.table.display left right)
    (query : Sql.Query)
    (single : query.earlier = [])
    (unjoined : query.selection.joins = [])
    (named : query.selection.tables = [{ name := spec.table.display }])
    {answer : Answer}
    (known : evaluate tables
        { query := filteredBy query (spec.having (before ++ left ++ after)).conditions } =
      .ok answer) :
    evaluate tables
        { query := filteredBy query (spec.having (before ++ right ++ after)).conditions } =
      .ok answer ∧
    ∃ table, Interchange table (left.map Predicate.condition) (right.map Predicate.condition) := by
  have filtered : (filteredBy query
      (spec.having (before ++ left ++ after)).conditions).selection.tables =
    [{ name := spec.table.display }] := named
  obtain ⟨table, found⟩ := findTable_of_evaluate filtered known
  rw [Spec.conditions_having] at known ⊢
  have interchange := swaps.interchange table found
  exact ⟨evaluate_of_interchange single unjoined named found interchange known, table, interchange⟩

/-- The statements that a specification has for any predicates and their filter: which query they are
before the filter. -/
structure Spec.Phrases (spec : Spec) (text : List Predicate → String → String)
    (wanted : Sql.Query) : Prop where
  single : wanted.earlier = []
  unjoined : wanted.selection.joins = []
  named : wanted.selection.tables = [{ name := spec.table.display }]
  reads : ∀ predicates filter, (spec.having predicates).IsPlain →
    (Sql.compileWhere (spec.having predicates) Sql.doubleQuotes).outcome = .ok filter →
      Sql.readTokens (Sql.tokenize (text predicates filter)) =
        if Sql.heightLimit < (Sql.filterOperand (spec.having predicates).conditions).height then
          .error (.tooHigh Sql.heightLimit)
        else .ok { query := filteredBy wanted (spec.having predicates).conditions }
  nul : ∀ first second filter other, ('\x00' ∈ filter.toList ↔ '\x00' ∈ other.toList) →
    ('\x00' ∈ (text first filter).toList ↔ '\x00' ∈ (text second other).toList)

/-- The statements of a section. -/
theorem Spec.phrases_sectionStatement
    (spec : Spec)
    {limit offset : Nat}
    (smallLimit : limit < 2 ^ 63)
    (smallOffset : offset < 2 ^ 63) :
    spec.Phrases
      (fun predicates filter => Sql.sectionStatement (spec.having predicates) filter limit offset)
      (spec.sectioned limit offset).request.query where
  single := rfl
  unjoined := rfl
  named := rfl
  reads := by
    intro predicates filter plain compiled
    have tokens := Sql.tokenize_sectionStatement plain compiled smallLimit smallOffset
    rw [tokens, Sql.readTokens_request (Sql.grammatical_request (plain.sectioned limit offset))]
    rfl
  nul := by
    intro first second filter other same
    rw [Sql.nul_mem_sectionStatement, Sql.nul_mem_sectionStatement, same]
    rfl

/-- The statements that count rows. -/
theorem Spec.phrases_countStatement (spec : Spec) :
    spec.Phrases (fun _ filter => Sql.countStatement spec.table filter)
      (Sql.countQuery spec.table.display []) where
  single := rfl
  unjoined := rfl
  named := rfl
  reads := by
    intro predicates filter plain compiled
    have own : ∀ condition ∈ (spec.having predicates).conditions, condition.Grammatical :=
      (Sql.grammatical_request plain).conditions
    have tokens : Sql.tokenize (Sql.countStatement spec.table filter) =
        Sql.Request.countTokens spec.table.display (spec.having predicates).conditions :=
      Sql.tokenize_countStatement plain compiled
    rw [tokens, Sql.readTokens_countTokens _ own]
    rfl
  nul := by
    intro first second filter other same
    rw [Sql.nul_mem_countStatement, Sql.nul_mem_countStatement, same]

/-- Statements are answered alike with predicates in the place of others. -/
theorem Swaps.query
    (swaps : Swaps tables spec.table.display left right)
    {text : List Predicate → String → String}
    {wanted : Sql.Query}
    (phrases : spec.Phrases text wanted)
    (plain : (spec.having (before ++ left ++ after)).IsPlain)
    {filter other : String}
    (compiled : (Sql.compileWhere (spec.having (before ++ left ++ after))
      Sql.doubleQuotes).outcome = .ok filter)
    (compiledOther : (Sql.compileWhere (spec.having (before ++ right ++ after))
      Sql.doubleQuotes).outcome = .ok other)
    (shallow : (spec.having (before ++ left ++ after)).IsShallow →
      (spec.having (before ++ right ++ after)).IsShallow)
    {answer : Answer}
    (known : Database.query tables (text (before ++ left ++ after) filter) = .ok answer) :
    Database.query tables (text (before ++ right ++ after) other) = .ok answer := by
  have reads := phrases.reads _ filter plain compiled
  have readsOther := phrases.reads _ other (swaps.isPlain plain) compiledOther
  obtain ⟨free, statement, parsed, evaluated⟩ := evaluate_of_query known
  rw [reads] at parsed
  split at parsed
  · cases parsed
  · rename_i low
    obtain rfl := Except.ok.inj parsed
    obtain ⟨answered, table, interchange⟩ :=
      swaps.evaluate wanted phrases.single phrases.unjoined phrases.named evaluated
    have collected : ∃ fields, spec.searchFields = .list fields := by
      obtain ⟨fields, list, _⟩ := plain.fields
      exact ⟨fields, list⟩
    have nul := nul_mem_compileWhere_having interchange collected compiled compiledOther
    refine query_of_evaluate ?_ ?_ answered
    · rwa [phrases.nul _ (before ++ left ++ after) other filter nul]
    · exact readsOther.trans (if_neg (shallow (not_lt.mp low)).not_gt)

/-! ## Runs -/

/-- What is found is found with predicates in the place of others. -/
theorem Swaps.find
    {access : Access}
    (swaps : Swaps access.tables spec.table.display left right)
    {limit offset : Int}
    (isLimit : spec.limit = .int limit)
    (isOffset : spec.offset = .int offset)
    (collected : ∃ fields, spec.searchFields = .list fields)
    (names : (spec.having (before ++ after)).HasPlainNames)
    (shallow : (spec.having (before ++ left ++ after)).IsShallow →
      (spec.having (before ++ right ++ after)).IsShallow)
    {model : Model}
    {world : World}
    {found : List Instance}
    (finds : ((Execution.find Engine.driver model
      (spec.having (before ++ left ++ after))).runFrom (world, access)).1 = .ok found) :
    ((Execution.find Engine.driver model
      (spec.having (before ++ right ++ after))).runFrom (world, access)).1 = .ok found := by
  have limited (predicates : List Predicate) : (spec.having predicates).limit = .int limit := isLimit
  have skipped (predicates : List Predicate) : (spec.having predicates).offset = .int offset :=
    isOffset
  have listed (predicates : List Predicate) :
      ∃ fields, (spec.having predicates).searchFields = .list fields := collected
  have namesLeft := names.having swaps.plainLeft
  obtain ⟨smallLimit, smallOffset, filter, answer, filtered, announced, answered, hydrated, _⟩ :=
    Execution.section_of_find (limited _) (skipped _) (listed _) namesLeft
      (ExceptT.runFrom_eq_of_fst finds)
  have plain := isPlain_of_compiled (listed _) namesLeft filtered
  obtain ⟨other, compiled, _⟩ := Sql.spells_compileWhere (swaps.isPlain plain)
  obtain ⟨isOpen, queried⟩ := Execution.answerTo_eq_ok_iff.mp answered
  have queriedOther := swaps.query (spec.phrases_sectionStatement smallLimit smallOffset) plain
    filtered compiled shallow queried
  have stated := Execution.statementOf_toNat (limited (before ++ right ++ after)) (skipped _)
  rw [Execution.statementOf_sectioned _ smallLimit smallOffset, compiled] at stated
  obtain ⟨last, taken⟩ := (Execution.takesStatements_of_announce announced).1
    (Sql.sectionStatement (spec.having (before ++ right ++ after)) other limit.toNat offset.toNat)
  rw [Execution.runFrom_find_of_answered stated taken
    (Execution.answerTo_eq_ok_iff.mpr ⟨isOpen, queriedOther⟩)]
  exact hydrated

/-- What is counted is counted with predicates in the place of others. -/
theorem Swaps.totalCount
    {access : Access}
    (swaps : Swaps access.tables spec.table.display left right)
    (collected : ∃ fields, spec.searchFields = .list fields)
    (names : (spec.having (before ++ after)).HasPlainNames)
    (shallow : (spec.having (before ++ left ++ after)).IsShallow →
      (spec.having (before ++ right ++ after)).IsShallow)
    {world : World}
    {count : Int}
    (counts : ((Execution.totalCount Engine.driver
      (spec.having (before ++ left ++ after))).runFrom (world, access)).1 = .ok count) :
    ((Execution.totalCount Engine.driver
      (spec.having (before ++ right ++ after))).runFrom (world, access)).1 = .ok count := by
  have listed (predicates : List Predicate) :
      ∃ fields, (spec.having predicates).searchFields = .list fields := collected
  have namesLeft := names.having swaps.plainLeft
  obtain ⟨filter, answer, filtered, announced, answered, counted, _⟩ :=
    Execution.runFrom_totalCount_ok_iff.mp (ExceptT.runFrom_eq_of_fst counts)
  have plain := isPlain_of_compiled (listed _) namesLeft filtered
  obtain ⟨other, compiled, _⟩ := Sql.spells_compileWhere (swaps.isPlain plain)
  obtain ⟨isOpen, queried⟩ := Execution.answerTo_eq_ok_iff.mp answered
  have queriedOther := swaps.query spec.phrases_countStatement plain filtered compiled shallow queried
  obtain ⟨last, taken⟩ := (Execution.takesStatements_of_announce announced).1
    (Sql.countStatement spec.table other)
  have again : (Execution.totalCount Engine.driver
      (spec.having (before ++ right ++ after))).runFrom (world, access) =
      (.ok count, (last, access)) :=
    Execution.runFrom_totalCount_ok_iff.mpr ⟨other, answer, compiled, taken,
      Execution.answerTo_eq_ok_iff.mpr ⟨isOpen, queriedOther⟩, counted, rfl⟩
  rw [again]

/-- Specifications with which the same is found and counted, or both times nothing. -/
def FindsAlike (setting : Setting Access) (left right : Spec) : Prop :=
  (∀ model,
    ((Execution.find Engine.driver model left).runFrom setting).1.toOption =
      ((Execution.find Engine.driver model right).runFrom setting).1.toOption) ∧
  ((Execution.totalCount Engine.driver left).runFrom setting).1.toOption =
    ((Execution.totalCount Engine.driver right).runFrom setting).1.toOption

theorem toOption_eq_of_imp
    {left right : Except fault α}
    (forward : ∀ result, left = .ok result → right = .ok result)
    (backward : ∀ result, right = .ok result → left = .ok result) :
    left.toOption = right.toOption := by
  cases left with
  | ok result => rw [forward result rfl]
  | error _ =>
      cases right with
      | ok result => cases backward result rfl
      | error _ => rfl

/-- The same is found and counted with predicates in the place of others, unless only one of the
filters is too high for the engine. -/
theorem Swaps.findsAlike
    {world : World}
    {access : Access}
    (swaps : Swaps access.tables spec.table.display left right)
    {limit offset : Int}
    (isLimit : spec.limit = .int limit)
    (isOffset : spec.offset = .int offset)
    (collected : ∃ fields, spec.searchFields = .list fields)
    (names : (spec.having (before ++ after)).HasPlainNames)
    (shallow : (spec.having (before ++ left ++ after)).IsShallow ↔
      (spec.having (before ++ right ++ after)).IsShallow) :
    FindsAlike (world, access) (spec.having (before ++ left ++ after))
      (spec.having (before ++ right ++ after)) := by
  constructor
  · intro model
    apply toOption_eq_of_imp
    · exact fun _ => swaps.find isLimit isOffset collected names shallow.mp
    · exact fun _ => swaps.symm.find isLimit isOffset collected names shallow.mpr
  · apply toOption_eq_of_imp
    · exact fun _ => swaps.totalCount collected names shallow.mp
    · exact fun _ => swaps.symm.totalCount collected names shallow.mpr

end Swaps

namespace Execution

/-- What is found has been asked for with a filter that is not too high for the engine. -/
theorem isShallow_of_find
    {spec : Spec}
    {limit offset : Int}
    (isLimit : spec.limit = .int limit)
    (isOffset : spec.offset = .int offset)
    (collected : ∃ fields, spec.searchFields = .list fields)
    (names : spec.HasPlainNames)
    {model : Model}
    {setting after : Setting Access}
    {found : List Instance}
    (finds : (find Engine.driver model spec).runFrom setting = (.ok found, after)) :
    spec.IsShallow := by
  obtain ⟨smallLimit, smallOffset, filter, answer, compiled, _, answered, _⟩ :=
    section_of_find isLimit isOffset collected names finds
  obtain ⟨_, queried⟩ := answerTo_eq_ok_iff.mp answered
  obtain ⟨_, statement, parsed, _⟩ := evaluate_of_query queried
  have plain := isPlain_of_compiled collected names compiled
  have reads := (spec.phrases_sectionStatement smallLimit smallOffset).reads spec.predicates filter
    plain compiled
  have read := reads.symm.trans parsed
  split at read
  · cases read
  · rename_i low
    exact not_lt.mp low

end Execution

end TableQuery
