import Mathlib.Algebra.Order.Ring.Int
import Mathlib.Data.List.TakeWhile
import TableQuery.Proofs.Actions
import TableQuery.Sql.Select

/-!
# Values that have a text

An integer has a text if it is short enough, a collection if there is room for it and all its parts
have one, and every other value has a text.  A predicate is rendered if its values have texts and
it is well formed, and the first value without a text is the one that counts.
-/

namespace TableQuery
namespace Value

/-! ## Texts of collections -/

theorem textFaultOfAny_eq_none_iff
    {room : Option Nat}
    {items : List Value} :
    textFaultOfAny room items = Option.none ↔
      ∀ item ∈ items, item.textFaultWithin room = Option.none := by
  induction items with
  | nil => simp [textFaultOfAny]
  | cons item rest inductionHypothesis =>
      simp [textFaultOfAny, Option.or_eq_none_iff, inductionHypothesis]

theorem textFaultOfEntries_eq_none_iff
    {room : Option Nat}
    {entries : List (Value × Value)} :
    textFaultOfEntries room entries = Option.none ↔
      ∀ entry ∈ entries, entry.1.textFaultWithin room = Option.none ∧
        entry.2.textFaultWithin room = Option.none := by
  induction entries with
  | nil => simp [textFaultOfEntries]
  | cons entry rest inductionHypothesis =>
      obtain ⟨key, value⟩ := entry
      simp [textFaultOfEntries, Option.or_eq_none_iff, inductionHypothesis]

/-- A list has a text if there is room for it and its members have texts in what is left. -/
theorem textFaultWithin_list_eq_none_iff
    {room : Option Nat}
    {items : List Value} :
    (list items).textFaultWithin room = Option.none ↔
      room ≠ some 0 ∧ ∀ item ∈ items, item.textFaultWithin (room.map (· - 1)) = Option.none := by
  rw [textFaultWithin]
  split
  next full => simp [full]
  next free => simp [free, textFaultOfAny_eq_none_iff]

theorem textFaultWithin_tuple
    (room : Option Nat)
    (items : List Value) :
    (tuple items).textFaultWithin room = (list items).textFaultWithin room := by
  rw [textFaultWithin, textFaultWithin]

theorem textFaultWithin_dict_eq_none_iff
    {room : Option Nat}
    {entries : List (Value × Value)} :
    (dict entries).textFaultWithin room = Option.none ↔
      room ≠ some 0 ∧ ∀ entry ∈ entries,
        entry.1.textFaultWithin (room.map (· - 1)) = Option.none ∧
          entry.2.textFaultWithin (room.map (· - 1)) = Option.none := by
  rw [textFaultWithin]
  split
  next full => simp [full]
  next free => simp [free, textFaultOfEntries_eq_none_iff]

/-! ## Values with texts -/

section

variable [Nesting]

@[simp] theorem hasText_none : none.HasText := rfl

@[simp] theorem hasText_bool (truth : Bool) : (bool truth).HasText := rfl

@[simp] theorem hasText_float (number : Binary64) : (float number).HasText := rfl

@[simp] theorem hasText_text (content : String) : (text content).HasText := rfl

@[simp] theorem hasText_bytes (content : List UInt8) : (bytes content).HasText := rfl

@[simp] theorem hasText_direction (given : Direction) : (direction given).HasText := rfl

@[simp] theorem hasText_stream (items : List Value) : (stream items).HasText := rfl

/-- An integer has a text if and only if it does not have too many digits. -/
theorem hasText_int_iff (number : Int) :
    (int number).HasText ↔ number.natAbs < 10 ^ Numeral.digitLimit := by
  rw [HasText, textFault?, textFaultWithin, Numeral.isTooLong]
  simp only [decide_eq_true_eq, ite_eq_right_iff, reduceCtorEq, imp_false, Nat.not_le]

theorem hasText_int_of_lt
    {number : Int}
    {digits : Nat}
    (short : number.natAbs < 10 ^ digits)
    (few : digits ≤ Numeral.digitLimit) :
    (int number).HasText :=
  (hasText_int_iff number).mpr
    (Nat.lt_of_lt_of_le short (Nat.pow_le_pow_right (by decide) few))

/-- An integer with too many digits has no text on account of its content. -/
theorem textFault?_int_of_long
    (number : Int)
    (long : 10 ^ Numeral.digitLimit ≤ number.natAbs) :
    (int number).textFault? = some wrongValue := by
  rw [textFault?, textFaultWithin, Numeral.isTooLong, if_pos (decide_eq_true long)]

/-! ## Checks -/

theorem checkTexts_eq_error_iff
    {values : List Value}
    {fault : Fault} :
    checkTexts values = .error fault ↔ values.findSome? textFault? = some fault := by
  unfold checkTexts
  cases values.findSome? textFault? <;> simp

theorem checkTexts_eq_ok_iff {values : List Value} :
    checkTexts values = .ok () ↔ ∀ value ∈ values, value.HasText := by
  unfold checkTexts
  rw [show (∀ value ∈ values, value.HasText) ↔ values.findSome? textFault? = Option.none from
    List.findSome?_eq_none_iff.symm]
  cases values.findSome? textFault? <;> simp

theorem checkTexts_cons_of_hasText
    {value : Value}
    (text : value.HasText)
    (rest : List Value) :
    checkTexts (value :: rest) = checkTexts rest := by
  unfold checkTexts
  rw [List.findSome?_cons, show value.textFault? = Option.none from text]

theorem checkTexts_cons_of_textless
    {value : Value}
    {fault : Fault}
    (lacks : value.textFault? = some fault)
    (rest : List Value) :
    checkTexts (value :: rest) = .error fault := by
  rw [checkTexts_eq_error_iff, List.findSome?_cons, lacks]

theorem textsUntilFault_cons_of_hasText
    {value : Value}
    (text : value.HasText)
    (rest : List Value) :
    textsUntilFault (value :: rest) = value.literalText :: textsUntilFault rest := by
  simp [textsUntilFault, text]

theorem textsUntilFault_cons_of_textless
    {value : Value}
    {fault : Fault}
    (lacks : value.textFault? = some fault)
    (rest : List Value) :
    textsUntilFault (value :: rest) = [] := by
  have textless : ¬ value.HasText := by simp [HasText, lacks]
  simp [textsUntilFault, textless]

/-- Where all values have texts, no text is left out. -/
theorem textsUntilFault_of_hasTexts
    {values : List Value}
    (texts : ∀ value ∈ values, value.HasText) :
    textsUntilFault values = values.map literalText := by
  unfold textsUntilFault
  rw [List.takeWhile_eq_self_iff.mpr (by simpa using texts)]

/-- What follows a check gives a result if and only if all values have texts and it does. -/
theorem bind_checkTexts_eq_ok_iff
    {α : Type}
    {values : List Value}
    {next : Unit → Except Fault α}
    {result : α} :
    (checkTexts values >>= next) = .ok result ↔
      (∀ value ∈ values, value.HasText) ∧ next () = .ok result := by
  rw [← checkTexts_eq_ok_iff, Except.bind_eq_ok_iff]
  exact ⟨fun ⟨_, checked, given⟩ => ⟨checked, given⟩,
    fun ⟨checked, given⟩ => ⟨(), checked, given⟩⟩

end

end Value

/-- A specification whose values have texts, and its term as well if it searches. -/
structure Spec.HasTexts [Nesting] (spec : Spec) : Prop where
  term : spec.hasSearch = true → spec.searchTerm.HasText
  values : ∀ given ∈ spec.predicates, ∀ value ∈ given.values, value.HasText

namespace Sql

section

variable [Nesting]

/-- A predicate is rendered if and only if its values have texts and it has a fragment. -/
theorem predicate_eq_ok_iff
    {given : Predicate}
    {fragment : Fragment} :
    predicate given = .ok fragment ↔
      (∀ value ∈ given.values, value.HasText) ∧ layout given = .ok fragment :=
  Value.bind_checkTexts_eq_ok_iff

/-- Where the values of a predicate have texts, only its form matters. -/
theorem predicate_eq_layout
    {given : Predicate}
    (texts : ∀ value ∈ given.values, value.HasText) :
    predicate given = layout given := by
  rw [predicate, Value.checkTexts_eq_ok_iff.mpr texts]
  rfl

/-- Where some value has no text, the first such value counts. -/
theorem predicate_eq_error
    {given : Predicate}
    {fault : Fault}
    (lacks : given.values.findSome? Value.textFault? = some fault) :
    predicate given = .error fault := by
  rw [predicate, Value.checkTexts_eq_error_iff.mpr lacks]
  rfl

/-- A search is rendered if and only if its term has a text and its columns can be collected; where
there is none, nothing is. -/
theorem search_eq_ok_iff
    {spec : Spec}
    {found : Option Fragment} :
    search spec = .ok found ↔
      spec.hasSearch = false ∧ found = none ∨
        spec.hasSearch = true ∧ spec.searchTerm.HasText ∧
          ∃ fields, spec.searchFields.items = .ok fields ∧
            found = some (searchIn spec.searchTerm.literalText fields) := by
  unfold search
  cases spec.hasSearch with
  | false => simp [pure, Except.pure, eq_comm]
  | true =>
      rw [if_pos rfl, Value.bind_checkTexts_eq_ok_iff, List.forall_mem_singleton,
        Except.bind_eq_ok_iff]
      constructor
      · rintro ⟨text, fields, collected, same⟩
        exact .inr ⟨rfl, text, fields, collected, (Except.ok.inj same).symm⟩
      · rintro (⟨absent, _⟩ | ⟨_, text, fields, collected, rfl⟩)
        · cases absent
        · exact ⟨text, fields, collected, rfl⟩

/-! ## Conditions -/

/-- The conditions are the search and then the predicates. -/
theorem mapM_conditions (spec : Spec) :
    (conditions spec).mapM id = do
      let found ← search spec
      let others ← spec.predicates.mapM predicate
      return found.toList ++ others := by
  have same : (spec.predicates.map predicate).mapM id = spec.predicates.mapM predicate :=
    List.mapM_map
  rcases searched : search spec with fault | _ | fragment
  · simp [conditions, searched, bind, Except.bind]
  · simp only [conditions, searched, same]
    cases spec.predicates.mapM predicate <;> rfl
  · simp only [conditions, searched, List.mapM_cons, same, id]
    rfl

/-- The fragments of the conditions are that of the search and those of the predicates. -/
theorem mapM_conditions_eq_ok_iff
    (spec : Spec)
    (fragments : List Fragment) :
    (conditions spec).mapM id = .ok fragments ↔
      ∃ found others, search spec = .ok found ∧ spec.predicates.mapM predicate = .ok others ∧
        fragments = found.toList ++ others := by
  rw [mapM_conditions]
  constructor
  · intro rendered
    obtain ⟨found, searched, rest⟩ := Except.bind_eq_ok_iff.mp rendered
    obtain ⟨others, known, joined⟩ := Except.bind_eq_ok_iff.mp rest
    exact ⟨found, others, searched, known, (Except.ok.inj joined).symm⟩
  · rintro ⟨found, others, searched, known, rfl⟩
    rw [searched, known]
    rfl

/-- The conditions cannot be compiled if and only if one of them cannot be rendered. -/
theorem compileWhere_eq_error_iff
    (spec : Spec)
    (escape : Escape)
    (fault : Fault) :
    (compileWhere spec escape).outcome = .error fault ↔
      (conditions spec).mapM id = .error fault := by
  unfold compileWhere whereClause
  cases (conditions spec).mapM id <;> simp

/-- The text of compiled conditions is that of the clause of their fragments. -/
theorem compileWhere_eq_ok_iff
    (spec : Spec)
    (escape : Escape)
    (filter : String) :
    (compileWhere spec escape).outcome = .ok filter ↔
      ∃ fragments, (conditions spec).mapM id = .ok fragments ∧
        (whereOf fragments).render escape = filter := by
  unfold compileWhere whereClause
  cases (conditions spec).mapM id <;> simp

/-- Where the conditions can be compiled, all values have texts, the term of a search as well. -/
theorem hasTexts_of_compileWhere
    {spec : Spec}
    {escape : Escape}
    {filter : String}
    (compiled : (compileWhere spec escape).outcome = .ok filter) :
    spec.HasTexts := by
  obtain ⟨fragments, rendered, _⟩ := (compileWhere_eq_ok_iff spec escape filter).mp compiled
  obtain ⟨_, _, searched, known, _⟩ := (mapM_conditions_eq_ok_iff spec fragments).mp rendered
  constructor
  · intro searches
    rcases search_eq_ok_iff.mp searched with ⟨absent, _⟩ | ⟨_, text, _⟩
    · cases searches.symm.trans absent
    · exact text
  · intro given member
    obtain ⟨_, _, fragment⟩ := Except.exists_result_of_mapM known member
    exact (predicate_eq_ok_iff.mp fragment).1

end

end Sql
end TableQuery
