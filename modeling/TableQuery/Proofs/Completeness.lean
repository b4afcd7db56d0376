import TableQuery.Proofs.Actions
import TableQuery.Proofs.Statements

/-!
# Complete conditions

The conditions of a specification can be compiled if and only if all its predicates are complete and
all its values have texts, the term of a search among them.  The first of these that is at fault, the
term before the predicates, gives the fault.  Nothing else that a query asks for keeps the conditions
from being compiled.
-/

namespace TableQuery

/-! ## Predicates -/

/-- A predicate that cannot be rendered, with what is said of it. -/
inductive Predicate.IsRefused : Predicate → String → Prop
  | noneOfAny :
      IsRefused (.group .any []) "where_any zahteva bar jedan par kolona -> vrednost"
  | noneOfAll :
      IsRefused (.group .all []) "where_all zahteva bar jedan par kolona -> vrednost"
  | foreign (typeName : String) :
      IsRefused (.foreign typeName) ("Nepoznat tip predikata: " ++ typeName)

/-- The predicates that are refused are those that are not complete. -/
theorem Predicate.isComplete_iff (given : Predicate) :
    given.IsComplete ↔ ¬ ∃ message, given.IsRefused message := by
  constructor
  · rintro complete ⟨message, refused⟩
    cases refused with
    | noneOfAny => exact complete rfl
    | noneOfAll => exact complete rfl
    | foreign typeName => exact complete
  · intro taken
    cases given with
    | comparison comparator column value => trivial
    | membership negated column members => trivial
    | group connective pairs =>
        rintro rfl
        cases connective with
        | any => exact taken ⟨_, .noneOfAny⟩
        | all => exact taken ⟨_, .noneOfAll⟩
    | foreign typeName => exact taken ⟨_, .foreign typeName⟩

namespace Sql

/-- A predicate has a fragment if and only if it is complete. -/
theorem layout_eq_ok_iff (given : Predicate) :
    (∃ fragment, layout given = .ok fragment) ↔ given.IsComplete := by
  cases given with
  | comparison comparator column value => exact ⟨fun _ => trivial, fun _ => ⟨_, rfl⟩⟩
  | membership negated column members => exact ⟨fun _ => trivial, fun _ => ⟨_, rfl⟩⟩
  | group connective pairs =>
      cases pairs with
      | nil => simp [layout, group, Predicate.IsComplete]
      | cons first rest => exact ⟨fun _ => List.cons_ne_nil first rest, fun _ => ⟨_, rfl⟩⟩
  | foreign typeName => simp [layout, Predicate.IsComplete]

/-- A predicate without a fragment is refused with a message that names it. -/
theorem isRefused_of_layout
    {given : Predicate}
    {fault : Fault}
    (failed : layout given = .error fault) :
    fault.kind = .compilation ∧ ∃ message, given.IsRefused message ∧
      fault.message? = some message := by
  cases given with
  | comparison comparator column value => cases failed
  | membership negated column members => cases failed
  | group connective pairs =>
      cases pairs with
      | cons first rest => cases failed
      | nil =>
          obtain rfl : .emptyGroup connective = fault := Except.error.inj failed
          cases connective with
          | any => exact ⟨rfl, _, .noneOfAny, rfl⟩
          | all => exact ⟨rfl, _, .noneOfAll, rfl⟩
  | foreign typeName =>
      obtain rfl : .unknownPredicate typeName = fault := Except.error.inj failed
      exact ⟨rfl, _, .foreign typeName, rfl⟩

/-- A predicate is rendered if and only if it is complete and its values have texts. -/
theorem exists_predicate_iff
    [Nesting]
    (given : Predicate) :
    (∃ fragment, predicate given = .ok fragment) ↔
      given.IsComplete ∧ ∀ value ∈ given.values, value.HasText := by
  simp only [predicate_eq_ok_iff, exists_and_left, layout_eq_ok_iff]
  exact and_comm

end Sql

/-- Why a predicate is not rendered: it is refused, or the first of its values without a text has
none. -/
inductive Predicate.Fails [Nesting] (given : Predicate) (fault : Fault) : Prop
  | refused
    {message : String}
    (refused : given.IsRefused message)
    (kind : fault.kind = .compilation)
    (shown : fault.message? = some message)
  | textless
    {earlier later : List Value}
    {value : Value}
    (divided : given.values = earlier ++ value :: later)
    (texts : ∀ other ∈ earlier, other.HasText)
    (lacks : value.textFault? = some fault)

/-- Nothing keeps a predicate from being rendered. -/
def Predicate.Renders [Nesting] (given : Predicate) : Prop :=
  (¬ ∃ message, given.IsRefused message) ∧ ∀ value ∈ given.values, value.HasText

/-- Why the conditions of a specification are not compiled: the term of its search has no text, or
the first of its predicates that is not rendered fails. -/
inductive Spec.Fails [Nesting] (spec : Spec) (fault : Fault) : Prop
  | term
    (searches : spec.hasSearch = true)
    (lacks : spec.searchTerm.textFault? = some fault)
  | predicate
    {earlier later : List Predicate}
    {given : Predicate}
    (text : spec.hasSearch = true → spec.searchTerm.HasText)
    (divided : spec.predicates = earlier ++ given :: later)
    (rendered : ∀ other ∈ earlier, other.Renders)
    (fails : given.Fails fault)

namespace Sql

section

variable [Nesting]

theorem exists_predicate_iff_renders (given : Predicate) :
    (∃ fragment, predicate given = .ok fragment) ↔ given.Renders := by
  rw [exists_predicate_iff, given.isComplete_iff, Predicate.Renders]

/-- A predicate that is not rendered fails. -/
theorem fails_of_predicate
    {given : Predicate}
    {fault : Fault}
    (failed : predicate given = .error fault) :
    given.Fails fault := by
  cases lacks : given.values.findSome? Value.textFault? with
  | some cause =>
      obtain rfl : cause = fault := Except.error.inj ((predicate_eq_error lacks).symm.trans failed)
      obtain ⟨earlier, value, later, divided, first, texts⟩ := List.findSome?_eq_some_iff.mp lacks
      exact .textless divided texts first
  | none =>
      rw [predicate_eq_layout (List.findSome?_eq_none_iff.mp lacks)] at failed
      obtain ⟨kind, message, refused, shown⟩ := isRefused_of_layout failed
      exact .refused refused kind shown

/-! ## Clauses -/

/-- Where the term has a text and the search fields can be collected, the search is rendered. -/
theorem search_eq_ok
    {spec : Spec}
    (collected : spec.hasSearch = true → ∃ fields, spec.searchFields.items = .ok fields)
    (text : spec.hasSearch = true → spec.searchTerm.HasText) :
    ∃ fragment?, search spec = .ok fragment? ∧ fragment?.isSome = spec.hasSearch := by
  cases searches : spec.hasSearch with
  | true =>
      obtain ⟨fields, known⟩ := collected searches
      exact ⟨_, search_eq_ok_iff.mpr (.inr ⟨searches, text searches, fields, known, rfl⟩), rfl⟩
  | false => exact ⟨none, search_eq_ok_iff.mpr (.inl ⟨searches, rfl⟩), rfl⟩

/-- Where the search is rendered, the conditions can be rendered if the predicates can. -/
theorem mapM_conditions_eq_error_iff
    {spec : Spec}
    (collected : spec.hasSearch = true → ∃ fields, spec.searchFields.items = .ok fields)
    (text : spec.hasSearch = true → spec.searchTerm.HasText)
    (fault : Fault) :
    (conditions spec).mapM id = .error fault ↔ spec.predicates.mapM predicate = .error fault := by
  obtain ⟨found, searched, _⟩ := search_eq_ok collected text
  rw [mapM_conditions, searched]
  cases spec.predicates.mapM predicate <;> simp [bind, Except.bind, pure, Except.pure]

/-- A term without a text keeps the conditions from being rendered. -/
theorem mapM_conditions_of_textless
    {spec : Spec}
    (searches : spec.hasSearch = true)
    {fault : Fault}
    (lacks : spec.searchTerm.textFault? = some fault) :
    (conditions spec).mapM id = .error fault := by
  have checked : Value.checkTexts [spec.searchTerm] = .error fault :=
    Value.checkTexts_eq_error_iff.mpr (by simp [lacks])
  have searched : search spec = .error fault := by
    rw [search, if_pos searches, checked]
    rfl
  rw [mapM_conditions, searched]
  rfl

/-- Where the conditions can be compiled, every predicate is rendered. -/
theorem renders_of_compileWhere
    {spec : Spec}
    {escape : Escape}
    {filter : String}
    (compiled : (compileWhere spec escape).outcome = .ok filter)
    {given : Predicate}
    (member : given ∈ spec.predicates) :
    ∃ fragment, predicate given = .ok fragment := by
  obtain ⟨fragments, rendered, _⟩ := (compileWhere_eq_ok_iff spec escape filter).mp compiled
  obtain ⟨_, _, _, known, _⟩ := (mapM_conditions_eq_ok_iff spec fragments).mp rendered
  obtain ⟨fragment, _, made⟩ := Except.exists_result_of_mapM known member
  exact ⟨fragment, made⟩

/-- The conditions can be compiled if and only if the columns of the search can be collected, every
value has a text and every predicate is complete. -/
theorem exists_compileWhere_iff
    (spec : Spec)
    (escape : Escape) :
    (∃ filter, (compileWhere spec escape).outcome = .ok filter) ↔
      (spec.hasSearch = true → ∃ fields, spec.searchFields.items = .ok fields) ∧
        spec.HasTexts ∧ ∀ given ∈ spec.predicates, given.IsComplete := by
  constructor
  · rintro ⟨filter, compiled⟩
    refine ⟨fun searches => ?_, hasTexts_of_compileWhere compiled, fun given member => ?_⟩
    · obtain ⟨fragments, rendered, _⟩ := (compileWhere_eq_ok_iff spec escape filter).mp compiled
      obtain ⟨found, _, searched, _⟩ := (mapM_conditions_eq_ok_iff spec fragments).mp rendered
      rcases search_eq_ok_iff.mp searched with ⟨absent, _⟩ | ⟨_, _, fields, collected, _⟩
      · cases searches.symm.trans absent
      · exact ⟨fields, collected⟩
    · exact ((exists_predicate_iff given).mp (renders_of_compileWhere compiled member)).1
  · rintro ⟨collected, texts, complete⟩
    obtain ⟨others, known⟩ := Except.exists_mapM_eq_ok fun given member =>
      (exists_predicate_iff given).mpr ⟨complete given member, texts.values given member⟩
    obtain ⟨found, searched, _⟩ := search_eq_ok collected texts.term
    have rendered := (mapM_conditions_eq_ok_iff spec _).mpr ⟨found, others, searched, known, rfl⟩
    exact ⟨_, (compileWhere_eq_ok_iff spec escape _).mpr ⟨_, rendered, rfl⟩⟩

/-- There are no conditions if and only if there are no predicates and there is no search. -/
theorem conditions_eq_nil_iff
    {spec : Spec}
    (collected : spec.hasSearch = true → ∃ fields, spec.searchFields.items = .ok fields)
    (text : spec.hasSearch = true → spec.searchTerm.HasText) :
    conditions spec = [] ↔ spec.predicates = [] ∧ spec.hasSearch = false := by
  obtain ⟨_ | fragment, searched, known⟩ := search_eq_ok collected text
  · simp [conditions, searched, ← known]
  · simp [conditions, searched, ← known]

omit [Nesting] in
/-- A clause of conditions begins with its keyword. -/
theorem render_whereOf
    (fragments : List Fragment)
    (escape : Escape) :
    (whereOf fragments).render escape =
      if fragments = [] then ""
      else "WHERE " ++ (Fragment.join " AND " fragments).render escape := by
  cases fragments with
  | nil => rfl
  | cons first rest => simp [whereOf, Fragment.render, Piece.render]

/-- Conditions that can be compiled are nothing if nothing is asked for, and a clause otherwise. -/
theorem compileWhere_eq_ok
    {spec : Spec}
    (collected : spec.hasSearch = true → ∃ fields, spec.searchFields.items = .ok fields)
    {escape : Escape}
    {filter : String}
    (compiled : (compileWhere spec escape).outcome = .ok filter) :
    (filter = "" ↔ spec.predicates = [] ∧ spec.hasSearch = false) ∧
      (filter ≠ "" → ∃ rest, filter = "WHERE " ++ rest) := by
  obtain ⟨fragments, rendered, rfl⟩ := (compileWhere_eq_ok_iff spec escape filter).mp compiled
  have lengths := (Except.mapM_eq_ok_iff.mp rendered).length_eq
  have empty : fragments = [] ↔ conditions spec = [] := by
    rw [← List.length_eq_zero_iff, ← lengths, List.length_eq_zero_iff]
  rw [← conditions_eq_nil_iff collected (hasTexts_of_compileWhere compiled).term, ← empty,
    render_whereOf]
  by_cases nothing : fragments = []
  · simp [nothing]
  · have nonempty : "WHERE " ++ (Fragment.join " AND " fragments).render escape ≠ "" := by
      intro same
      simpa using congrArg String.length same
    rw [if_neg nothing]
    exact ⟨iff_of_false nonempty nothing, fun _ => ⟨_, rfl⟩⟩

/-- Conditions that are not compiled fail for the first of their faults. -/
theorem fails_of_compileWhere
    {spec : Spec}
    (collected : spec.hasSearch = true → ∃ fields, spec.searchFields.items = .ok fields)
    {escape : Escape}
    {fault : Fault}
    (failed : (compileWhere spec escape).outcome = .error fault) :
    spec.Fails fault := by
  rw [compileWhere_eq_error_iff] at failed
  by_cases text : spec.hasSearch = true → spec.searchTerm.HasText
  · rw [mapM_conditions_eq_error_iff collected text, Except.mapM_eq_error_iff] at failed
    obtain ⟨earlier, given, later, divided, rendered, refused⟩ := failed
    exact .predicate text divided
      (fun other member => (exists_predicate_iff_renders other).mp (rendered other member))
      (fails_of_predicate refused)
  · obtain ⟨searches, lacks⟩ := Classical.not_imp.mp text
    obtain ⟨cause, lacks⟩ := Option.ne_none_iff_exists'.mp lacks
    obtain rfl : cause = fault := Except.error.inj <|
      (mapM_conditions_of_textless searches lacks).symm.trans failed
    exact .term searches lacks

/-- Conditions fail to compile exactly where a predicate is refused or a value has no text, the term
of a search among the values, whatever the escape and the rest of the specification are: the fault
is that of the first of these.  Otherwise they are empty if nothing is asked for, and a clause if
something is.  This holds for any bound on collections inside one another. -/
theorem compileWhere_fails_iff_refused
    {spec : Spec}
    (collected : spec.hasSearch = true → ∃ fields, spec.searchFields.items = .ok fields)
    (escape : Escape) :
    let outcome := (compileWhere spec escape).outcome
    ((∃ fault, outcome = .error fault) ↔
      ¬ spec.HasTexts ∨ ∃ given ∈ spec.predicates, ∃ message, given.IsRefused message) ∧
    (∀ fault, outcome = .error fault → spec.Fails fault) ∧
    ∀ filter, outcome = .ok filter →
      (filter = "" ↔ spec.predicates = [] ∧ spec.hasSearch = false) ∧
      (filter ≠ "" → ∃ rest, filter = "WHERE " ++ rest) := by
  intro outcome
  have compiles := exists_compileWhere_iff spec escape
  refine ⟨?_, fun fault failed => fails_of_compileWhere collected failed,
    fun filter compiled => compileWhere_eq_ok collected compiled⟩
  constructor
  · rintro ⟨fault, failed⟩
    by_contra sound
    obtain ⟨texts, taken⟩ := not_or.mp sound
    have complete : ∀ given ∈ spec.predicates, given.IsComplete := fun given member =>
      given.isComplete_iff.mpr fun refused => taken ⟨given, member, refused⟩
    obtain ⟨filter, compiled⟩ := compiles.mpr ⟨collected, not_not.mp texts, complete⟩
    cases failed.symm.trans compiled
  · intro unsound
    cases known : outcome with
    | error fault => exact ⟨fault, rfl⟩
    | ok filter =>
        obtain ⟨_, texts, complete⟩ := compiles.mp ⟨filter, known⟩
        rcases unsound with lacks | ⟨given, member, refused⟩
        · exact absurd texts lacks
        · exact absurd refused (given.isComplete_iff.mp (complete given member))

end

/-- A search for staff with two conditions that are refused, after two that are not. -/
def refusedStaff : Spec :=
  { Spec.staff with
    predicates :=
      [.comparison .equal (.text "name") .none, .membership false (.text "age") [],
        .foreign "dict", .group .any []] }

theorem compileWhere_refusedStaff :
    let fault := Fault.unknownPredicate "dict"
    (compileWhere refusedStaff id).outcome = .error fault ∧ fault.kind = .compilation ∧
      refusedStaff.Fails fault := by
  intro fault
  have failed : (compileWhere refusedStaff id).outcome = .error fault := rfl
  have collected : refusedStaff.hasSearch = true →
      ∃ fields, refusedStaff.searchFields.items = .ok fields := fun _ => ⟨_, rfl⟩
  obtain ⟨_, named, _⟩ := compileWhere_fails_iff_refused collected id
  exact ⟨failed, rfl, named fault failed⟩

/-- A specification with one complete predicate, whose value has too many digits. -/
def longStaff : Spec where
  table := .text "staff"
  predicates := [.comparison .equal (.text "age") (.int (10 ^ Numeral.digitLimit : Nat))]

/-- A search for staff in what is no collection of columns. -/
def uncollectedStaff : Spec where
  table := .text "staff"
  searchTerm := .text "Ana"
  searchFields := .int 5

/-- Conditions can fail to compile where no predicate is refused: an integer with too many digits
has no text, and an integer is no collection of columns. -/
theorem compileWhere_longStaff :
    (¬ ∃ given ∈ longStaff.predicates, ∃ message, given.IsRefused message) ∧
      (compileWhere longStaff id).outcome = .error (.refused .value) ∧
      uncollectedStaff.predicates = [] ∧
      (compileWhere uncollectedStaff id).outcome = .error (.refused .type) := by
  have complete : ∀ given ∈ longStaff.predicates, given.IsComplete :=
    List.forall_mem_singleton.mpr trivial
  refine ⟨?_, ?_, rfl, rfl⟩
  · rintro ⟨given, member, refused⟩
    exact given.isComplete_iff.mp (complete given member) refused
  · have lacks := Value.textFault?_int_of_long (10 ^ Numeral.digitLimit : Nat) le_rfl
    have first : longStaff.predicates.mapM predicate = .error (.refused .value) := by
      rw [longStaff, List.mapM_cons, predicate_eq_error]
      · rfl
      · rw [Predicate.values, List.findSome?_cons, lacks]
    have silent : ¬ longStaff.hasSearch = true := by decide
    rw [compileWhere_eq_error_iff, mapM_conditions_eq_error_iff (fun searches => absurd searches silent)
      fun searches => absurd searches silent]
    exact first

end Sql
end TableQuery
