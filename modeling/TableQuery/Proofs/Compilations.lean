import TableQuery.Proofs.Completeness
import TableQuery.Proofs.Previews

/-!
# Compilations

The statement that fetches the rows of a query and the one that counts them have the same
conditions, and of these only groups without pairs and values without a text cannot be rendered.
Apart from that nothing but a bound with too many digits keeps a statement from being compiled.
-/

namespace TableQuery

/-- The connective of a group without pairs. -/
def Predicate.emptyGroup? : Predicate → Option Connective
  | .group connective [] => some connective
  | _ => none

section Faults

variable [Nesting]

/-- The fault for which a condition that a call has added cannot be rendered, if there is one. -/
def Predicate.fault? (given : Predicate) : Option Fault :=
  (given.values.findSome? Value.textFault?).or (given.emptyGroup?.map .emptyGroup)

/-- The fault for which conditions that calls have added cannot be rendered, if there is one: that of
the term of a search, or else that of the first predicate with one. -/
def Spec.fault? (spec : Spec) : Option Fault :=
  (if spec.hasSearch then spec.searchTerm.textFault? else none).or
    (spec.predicates.findSome? Predicate.fault?)

/-- Where all values have texts, only groups without pairs are left. -/
theorem Spec.fault?_of_hasTexts
    {spec : Spec}
    (texts : spec.HasTexts) :
    spec.fault? = (spec.predicates.findSome? Predicate.emptyGroup?).map .emptyGroup := by
  have term : (if spec.hasSearch then spec.searchTerm.textFault? else none) = none := by
    split
    next searches => exact texts.term searches
    next => rfl
  have values := texts.values
  rw [Spec.fault?, term, Option.none_or]
  generalize spec.predicates = predicates at values ⊢
  induction predicates with
  | nil => rfl
  | cons first rest inductionHypothesis =>
      have held : first.fault? = first.emptyGroup?.map .emptyGroup := by
        rw [Predicate.fault?, List.findSome?_eq_none_iff.mpr (values first List.mem_cons_self),
          Option.none_or]
      have others := inductionHypothesis fun given member =>
        values given (List.mem_cons_of_mem first member)
      rw [List.findSome?_cons, List.findSome?_cons, held]
      cases first.emptyGroup? with
      | some connective => rfl
      | none => exact others

end Faults

/-! ## Conditions -/

namespace Sql

section

variable [Nesting]

/-- Of the conditions that calls add, all without a fault are rendered. -/
theorem predicate_of_added
    {call : Call}
    {given : Predicate}
    (added : call.predicate? = some given) :
    match given.fault? with
    | some fault => predicate given = .error fault
    | none => ∃ fragment, predicate given = .ok fragment := by
  unfold Predicate.fault?
  cases lacks : given.values.findSome? Value.textFault? with
  | some fault => exact predicate_eq_error lacks
  | none =>
      rw [predicate_eq_layout (List.findSome?_eq_none_iff.mp lacks)]
      cases given with
      | comparison comparator column value => exact ⟨_, rfl⟩
      | membership negated column members => exact ⟨_, rfl⟩
      | group connective pairs =>
          cases pairs with
          | nil => rfl
          | cons first rest => exact ⟨_, rfl⟩
      | foreign typeName => cases call <;> simp at added

/-- Conditions that calls have added cannot be rendered if and only if there is one with a fault
among them; the first such fault counts. -/
theorem mapM_predicate_eq_error_iff
    {predicates : List Predicate}
    (added : ∀ given ∈ predicates, ∃ call : Call, call.predicate? = some given)
    (fault : Fault) :
    predicates.mapM predicate = .error fault ↔
      predicates.findSome? Predicate.fault? = some fault := by
  induction predicates with
  | nil => simp [pure, Except.pure]
  | cons first rest inductionHypothesis =>
      obtain ⟨call, known⟩ := added first List.mem_cons_self
      have others := inductionHypothesis fun given member =>
        added given (List.mem_cons_of_mem first member)
      have rendered := predicate_of_added known
      rw [List.mapM_cons, List.findSome?_cons]
      cases lacks : first.fault? with
      | some cause =>
          simp only [lacks] at rendered
          simp [rendered, bind, Except.bind]
      | none =>
          simp only [lacks] at rendered
          obtain ⟨fragment, rendered⟩ := rendered
          simp only [← others, rendered]
          cases rest.mapM predicate <;> simp [bind, Except.bind, pure, Except.pure]

/-- The conditions of a query, that of its search included, cannot be rendered if and only if there
is a fault in them. -/
theorem mapM_conditions_eq_error_iff_fault
    {spec : Spec}
    (collected : ∃ fields, spec.searchFields = .list fields)
    (added : ∀ given ∈ spec.predicates, ∃ call : Call, call.predicate? = some given)
    (fault : Fault) :
    (conditions spec).mapM id = .error fault ↔ spec.fault? = some fault := by
  obtain ⟨fields, known⟩ := collected
  have listed : spec.hasSearch = true → ∃ fields, spec.searchFields.items = .ok fields :=
    fun _ => ⟨fields, by rw [known]; rfl⟩
  unfold Spec.fault?
  split
  next searches =>
      cases lacks : spec.searchTerm.textFault? with
      | some cause => simp [mapM_conditions_of_textless searches lacks]
      | none =>
          rw [mapM_conditions_eq_error_iff listed fun _ => lacks, Option.none_or]
          exact mapM_predicate_eq_error_iff added fault
  next absent =>
      rw [mapM_conditions_eq_error_iff listed fun searches => absurd searches absent,
        Option.none_or]
      exact mapM_predicate_eq_error_iff added fault

end

end Sql

/-! ## Statements -/

namespace Execution

variable {state : Type}
  (driver : Driver state)
  {spec : Spec}

/-- The statement that counts rows cannot be compiled if and only if there is a fault in its
conditions. -/
theorem countStatementBy_eq_error_iff
    (collected : ∃ fields, spec.searchFields = .list fields)
    (added : ∀ given ∈ spec.predicates, ∃ call : Call, call.predicate? = some given)
    (fault : Fault) :
    countStatementBy driver spec = .error fault ↔ spec.fault? = some fault := by
  rw [← Sql.mapM_conditions_eq_error_iff_fault collected added,
    ← Sql.compileWhere_eq_error_iff spec driver.escape, countStatementBy]
  cases (Sql.compileWhere spec driver.escape).outcome <;> simp [Except.map]

/-- The statement that fetches rows cannot be compiled if and only if the one that counts them
cannot be, or a bound has too many digits. -/
theorem statementBy_eq_error_iff
    {limit offset : Nat}
    (isLimit : spec.limit = .int limit)
    (isOffset : spec.offset = .int offset)
    (fault : Fault) :
    statementBy driver spec = .error fault ↔
      if limit < 10 ^ Numeral.digitLimit ∧ offset < 10 ^ Numeral.digitLimit then
        countStatementBy driver spec = .error fault
      else fault = .refused .value := by
  unfold statementBy
  split
  · rename_i short
    rw [Sql.compile_natCast spec driver.escape isLimit isOffset short.1 short.2, countStatementBy]
    cases (Sql.compileWhere spec driver.escape).outcome <;> simp [Except.map]
  · rename_i long
    have refused : (Sql.compile spec driver.escape).outcome = .error (.refused .value) := by
      unfold Sql.compile
      rw [isLimit, isOffset]
      by_cases shortLimit : limit < 10 ^ Numeral.digitLimit
      · have longOffset : 10 ^ Numeral.digitLimit ≤ offset := by
          by_contra shortOffset
          exact long ⟨shortLimit, not_le.mp shortOffset⟩
        rw [Sql.countClause_natCast _ shortLimit, Sql.countClause_of_long _ longOffset]
      · rw [Sql.countClause_of_long _ (not_lt.mp shortLimit)]
    simp [refused, Except.map, eq_comm]

end Execution

/-! ## Queries -/

namespace Builder

open Execution

variable {state : Type}

theorem IsMade.apply
    {builder : Builder}
    (made : builder.IsMade)
    (driver : Driver state)
    (call : Call)
    (setting : Setting state) :
    (builder.apply driver call setting).1.IsMade := by
  cases edited : call.edit builder.spec with
  | error fault =>
      unfold Builder.apply
      rwa [edited]
  | ok spec =>
      rw [apply_of_edit driver edited]
      exact made.edit edited

/-- Calls lead from one query that is built by calls to another, whatever comes of their runs. -/
theorem IsMade.applyAll
    {builder : Builder}
    (made : builder.IsMade)
    (driver : Driver state)
    (calls : List Call)
    (setting : Setting state) :
    (builder.applyAll driver calls setting).2.1.IsMade := by
  induction calls generalizing builder setting with
  | nil => exact made
  | cons call rest inductionHypothesis =>
      exact inductionHypothesis (made.apply driver call setting) _

/-- The conditions of a query have been added by calls. -/
theorem IsMade.added
    {builder : Builder}
    (made : builder.IsMade) :
    ∀ given ∈ builder.spec.predicates, ∃ call : Call, call.predicate? = some given := by
  obtain ⟨table, calls, history⟩ := made.history
  intro given member
  rw [history] at member
  obtain ⟨call, _, added⟩ := List.mem_filterMap.mp member
  exact ⟨call, added⟩

/-- After any calls, whatever has come of their runs, the statement that fetches rows cannot be
compiled if and only if the one that counts them cannot be, and for the same fault, which is the
first in the conditions: where all values have texts, that of the first group without pairs.  The
only exceptions are bounds with too many digits. -/
theorem compiles_alike
    {builder : Builder}
    (made : builder.IsMade)
    (driver : Driver state)
    (calls : List Call)
    (setting later other : Setting state) :
    let reached := (applyAll driver calls builder setting).2.1
    let fetches := (reached.apply driver .toSql later).2.1
    let counts := (reached.apply driver .countSql other).2.1
    (∃ limit offset : Nat, reached.spec.limit = .int limit ∧ reached.spec.offset = .int offset ∧
      ∀ fault, fetches = .error fault ↔
        if limit < 10 ^ Numeral.digitLimit ∧ offset < 10 ^ Numeral.digitLimit then
          counts = .error fault
        else fault = .refused .value) ∧
    (∀ fault, counts = .error fault ↔ reached.spec.fault? = some fault) ∧
    (reached.spec.HasTexts → ∀ fault, counts = .error fault ↔
      ∃ connective, reached.spec.predicates.findSome? Predicate.emptyGroup? = some connective ∧
        fault = .emptyGroup connective ∧ fault.kind = .compilation) := by
  intro reached fetches counts
  have reachedMade : reached.IsMade := made.applyAll driver calls setting
  obtain ⟨table, calls, history⟩ := reachedMade.history
  have collected : ∃ fields, reached.spec.searchFields = .list fields :=
    ⟨_, congrArg Spec.searchFields history⟩
  have shown : ∀ (compiled : Except Fault String) fault,
      compiled.map Call.Answer.statement = .error fault ↔ compiled = .error fault := by
    intro compiled fault
    cases compiled <;> simp [Except.map]
  have isFetched : ∀ fault, fetches = .error fault ↔
      statementBy driver reached.spec = .error fault := by
    intro fault
    rw [← shown, ← apply_toSql driver reached later]
  have isCounted : ∀ fault, counts = .error fault ↔
      countStatementBy driver reached.spec = .error fault := by
    intro fault
    rw [← shown, ← apply_countSql driver reached other]
  have counted : ∀ fault, counts = .error fault ↔ reached.spec.fault? = some fault := by
    intro fault
    rw [isCounted, countStatementBy_eq_error_iff driver collected reachedMade.added]
  refine ⟨?_, counted, fun texts fault => ?_⟩
  · refine ⟨_, _, congrArg Spec.limit history, congrArg Spec.offset history, fun fault => ?_⟩
    rw [isFetched, isCounted]
    exact statementBy_eq_error_iff driver (congrArg Spec.limit history)
      (congrArg Spec.offset history) fault
  · rw [counted, Spec.fault?_of_hasTexts texts, Option.map_eq_some_iff]
    constructor
    · rintro ⟨connective, first, rfl⟩
      exact ⟨connective, first, rfl, rfl⟩
    · rintro ⟨connective, first, same, _⟩
      exact ⟨connective, first, same.symm⟩

/-- A query for all staff after calls asks for what their history says. -/
theorem spec_of_ofStaff
    (driver : Driver state)
    (calls : List Call)
    (setting : Setting state) :
    (applyAll driver calls ofStaff setting).2.1.spec = .ofHistory (.text "staff") calls := by
  have new : ofStaff = { model := staffModel, spec := .ofHistory (.text "staff") [] } := rfl
  have reached := (applyAll_ofHistory driver staffModel (.text "staff") [] calls setting).1
  rw [new, reached, List.nil_append]

theorem isMade_ofStaff : ofStaff.IsMade :=
  .new (rfl : Builder.new staffModel = .ok ofStaff)

/-- Calls on a query for all staff that leave a group without pairs among its conditions. -/
def malformedCalls : List Call :=
  [.paginate (.int 2) (.int 3), .group .all (.list []), .first, .sortBy (.text "age")]

/-- A group without pairs keeps both statements from being compiled. -/
theorem compiles_alike_ofStaff :
    let driver := Script.driver Sql.doubleQuotes none
    let setting := (verbose "app.log", prepared)
    let reached := (applyAll driver malformedCalls ofStaff setting).2.1
    (reached.apply driver .toSql setting).2.1 = .error (.emptyGroup .all) ∧
      (reached.apply driver .countSql setting).2.1 = .error (.emptyGroup .all) := by
  intro driver setting
  have asked := spec_of_ofStaff driver malformedCalls setting
  have alike := compiles_alike isMade_ofStaff driver malformedCalls setting setting setting
  generalize (applyAll driver malformedCalls ofStaff setting).2.1 = reached at asked alike ⊢
  obtain ⟨⟨limit, offset, isLimit, isOffset, fetched⟩, _, counted⟩ := alike
  have texts : reached.spec.HasTexts := by
    rw [asked]
    exact ⟨fun searches => absurd searches Bool.false_ne_true, by decide⟩
  have counts := (counted texts (.emptyGroup .all)).mpr ⟨.all, by rw [asked]; rfl, rfl, rfl⟩
  refine ⟨(fetched (.emptyGroup .all)).mpr ?_, counts⟩
  have bounds : reached.spec.limit = .int 1 ∧ reached.spec.offset = .int 3 := by
    rw [asked]
    exact ⟨rfl, rfl⟩
  have one := Value.int.inj (isLimit.symm.trans bounds.1)
  have three := Value.int.inj (isOffset.symm.trans bounds.2)
  have few : ∀ number < 10, number < 10 ^ Numeral.digitLimit := fun number small =>
    small.trans_le (Nat.le_self_pow (by decide) 10)
  rw [if_pos ⟨few limit (by omega), few offset (by omega)⟩]
  exact counts

/-- Where the offset of a page has too many digits, only the count can be compiled. -/
theorem compiled_of_long
    (driver : Driver state)
    (setting : Setting state)
    {page : Nat}
    (long : 10 ^ Numeral.digitLimit ≤ (page - 1) * 100) :
    let reached := (applyAll driver [.paginate (.int page) (.int 100)] ofStaff setting).2.1
    (reached.apply driver .toSql setting).2.1 = .error (.refused .value) ∧
      (reached.apply driver .countSql setting).2.1 =
        .ok (.statement "SELECT COUNT(*) FROM `staff`") := by
  have asked := spec_of_ofStaff driver [.paginate (.int page) (.int 100)] setting
  generalize (applyAll driver [.paginate (.int page) (.int 100)] ofStaff setting).2.1 = reached
    at asked
  have isLimit : reached.spec.limit = .int (100 : Nat) := by
    rw [asked]
    rfl
  have isOffset : reached.spec.offset = .int ((max page 1 - 1) * 100 : Nat) := by
    rw [asked]
    rfl
  have same : max page 1 - 1 = page - 1 := by omega
  rw [same] at isOffset
  have refused : statementBy driver reached.spec = .error (.refused .value) := by
    rw [statementBy_eq_error_iff driver isLimit isOffset, if_neg]
    rintro ⟨_, short⟩
    exact absurd short (not_lt.mpr long)
  have counted : countStatementBy driver reached.spec =
      .ok "SELECT COUNT(*) FROM `staff`" := by
    rw [asked]
    rfl
  constructor
  · rw [apply_toSql, refused]
    rfl
  · rw [apply_countSql, counted]
    rfl

/-- The offset of a page can have more digits than each of its number and its size. -/
theorem not_compiles_alike :
    let driver := Script.driver Sql.doubleQuotes none
    let setting := (verbose "app.log", prepared)
    let reached := (applyAll driver [.paginate (.int (10 ^ 4299 : Nat)) (.int 100)]
      ofStaff setting).2.1
    (reached.apply driver .toSql setting).2.1 = .error (.refused .value) ∧
      (reached.apply driver .countSql setting).2.1 =
        .ok (.statement "SELECT COUNT(*) FROM `staff`") := by
  have long : ∀ digits, digits ≠ 0 → 10 ^ (digits + 1) ≤ (10 ^ digits - 1) * 100 := by
    intro digits some
    have several : 10 ≤ 10 ^ digits := Nat.le_self_pow some 10
    rw [pow_succ]
    omega
  have limit : Numeral.digitLimit = 4299 + 1 := rfl
  apply compiled_of_long
  rw [limit]
  exact long 4299 (by decide)

end Builder
end TableQuery
