import Mathlib.Data.List.Forall2
import Mathlib.Data.List.Induction
import TableQuery.Proofs.Execution
import TableQuery.Query.Builder

/-!
# Histories of queries

What a query asks for is determined by the history of its calls: each part of the specification is
what the last call that writes it has written, and the conditions are those of all calls.  A call
whose arguments are refused writes nothing.
-/

namespace TableQuery

/-! ## Arguments -/

/-- The columns that a collection names are its members, be there some or none. -/
theorem Spec.fieldsOf_of_items
    {fields : Value}
    {members : List Value}
    (collected : fields.items = .ok members) :
    fieldsOf fields = .ok members := by
  cases truth : fields.truthy with
  | true => rw [fieldsOf, if_pos truth, collected]
  | false =>
      -- A collection that counts as false is empty.
      have empty : fields.items = .ok [] := by
        cases fields <;> simp_all [Value.truthy, Value.items, Value.characters]
      rw [fieldsOf, if_neg (ne_true_of_eq_false truth), ← collected, empty]

/-- Lists and tuples name their members, and a dictionary its keys. -/
theorem Spec.fieldsOf_collection
    (members : List Value)
    (entries : List (Value × Value)) :
    fieldsOf (.list members) = .ok members ∧ fieldsOf (.tuple members) = .ok members ∧
      fieldsOf (.dict entries) = .ok (entries.map Prod.fst) :=
  ⟨fieldsOf_of_items rfl, fieldsOf_of_items rfl, fieldsOf_of_items rfl⟩

example : Spec.fieldsOf (.text "ab") = .ok [.text "a", .text "b"] := by rfl

namespace Value

/-- The pairs of a dictionary are its entries. -/
theorem pairs_dict (entries : List (Value × Value)) :
    (dict entries).pairs = .ok entries := rfl

theorem pair_eq_ok_iff
    {value first second : Value} :
    value.pair = .ok (first, second) ↔ value.items = .ok [first, second] := by
  rw [pair, Except.bind_eq_ok_iff]
  constructor
  · rintro ⟨members, collected, taken⟩
    split at taken
    · obtain ⟨rfl, rfl⟩ := Prod.mk.inj (Except.ok.inj taken)
      exact collected
    · cases taken
  · exact fun collected => ⟨_, collected, rfl⟩

/-- Any other collection gives pairs if and only if each of its members is a collection of two: the
text of the first with the second. -/
theorem pairs_eq_ok_iff
    {value : Value}
    (sequence : ∀ entries, value ≠ .dict entries)
    {members : List Value}
    (collected : value.items = .ok members)
    {pairs : List (Value × Value)} :
    value.pairs = .ok pairs ↔
      List.Forall₂
        (fun member pair => ∃ key,
          member.items = .ok [key, pair.2] ∧ pair.1 = .text key.display)
        members pairs := by
  have walked : value.pairs = members.mapM fun item =>
      (fun found => (Value.text found.1.display, found.2)) <$> item.pair := by
    unfold Value.pairs
    split
    · exact absurd rfl (sequence _)
    · rw [collected]
      refine congrArg (fun convert => members.mapM convert) (funext fun item => ?_)
      cases item.pair <;> rfl
  have each (member : Value) (pair : Value × Value) :
      (fun found => (Value.text found.1.display, found.2)) <$> member.pair = .ok pair ↔
        ∃ key, member.items = .ok [key, pair.2] ∧ pair.1 = .text key.display := by
    constructor
    · intro made
      cases both : member.pair with
      | error fault =>
          rw [both] at made
          cases made
      | ok found =>
          rw [both] at made
          obtain rfl := Except.ok.inj made
          exact ⟨found.1, pair_eq_ok_iff.mp both, rfl⟩
    · obtain ⟨first, second⟩ := pair
      rintro ⟨key, both, rfl⟩
      rw [pair_eq_ok_iff.mpr both]
      rfl
  rw [walked, Except.mapM_eq_ok_iff]
  simp only [each]

example :
    (Value.tuple [.list [.text "city", .int 7], .text "ab"]).pairs =
      .ok [(.text "city", .int 7), (.text "a", .text "b")] := by rfl

end Value

namespace Call

/-! ## What a call writes -/

/-- The fault with which a call refuses its arguments. -/
@[simp] def refusal? : Call → Option Fault
  | .bindSearchFields fields => faultOf (Spec.fieldsOf fields)
  | .order direction => faultOf (Direction.parse direction)
  | .isMember _ column members => faultOf (membersOf column members)
  | .group _ pairs => faultOf pairs.pairs
  | _ => none
where
  /-- The fault of an outcome, if it is one. -/
  faultOf {α : Type} : Except Fault α → Option Fault
    | .ok _ => none
    | .error fault => some fault

/-- The bound that a call sets. -/
@[simp] def limit? : Call → Option Nat
  | .limit count => some count.toCount
  | .first => some 1
  | .paginate _ perPage => some (atLeastOne perPage)
  | _ => none

/-- The count of rows that a call leaves out. -/
@[simp] def offset? : Call → Option Nat
  | .offset count => some count.toCount
  | .paginate page perPage => some ((atLeastOne page - 1) * atLeastOne perPage)
  | _ => none

/-- The primary key that a call names. -/
@[simp] def primaryKey? : Call → Option Value
  | .bindPrimaryKey column => some column
  | _ => none

/-- The column by which a call sorts. -/
@[simp] def sortColumn? : Call → Option Value
  | .sortBy column | .bindPrimaryKey column => some column
  | _ => none

/-- The direction in which a call sorts. -/
@[simp] def direction? : Call → Option Direction
  | .order direction => (Direction.parse direction).toOption
  | _ => none

/-- The term for which a call searches. -/
@[simp] def searchTerm? : Call → Option Value
  | .search term => some term
  | _ => none

/-- The columns that a call names for searches. -/
@[simp] def searchFields? : Call → Option (List Value)
  | .bindSearchFields fields => (Spec.fieldsOf fields).toOption
  | _ => none

/-- The condition that a call adds. -/
@[simp] def predicate? : Call → Option Predicate
  | .compare comparator column value => some (.comparison comparator column value)
  | .isMember negated column members =>
    (membersOf column members).toOption.map (.membership negated column)
  | .group connective pairs => pairs.pairs.toOption.map (.group connective)
  | _ => none

/-- Whether a call compiles or runs what has been built. -/
def isRun : Call → Bool
  | .toSql | .countSql | .find | .totalCount | .first | .paginate _ _ => true
  | _ => false

/-- What the last of the calls that write something has written. -/
def lastOf (write : Call → Option α) (calls : List Call) : Option α :=
  (calls.filterMap write).getLast?

theorem lastOf_concat
    (write : Call → Option α)
    (calls : List Call)
    (call : Call) :
    lastOf write (calls ++ [call]) = (write call).or (lastOf write calls) := by
  cases written : write call <;> simp [lastOf, List.filterMap_append, written]

end Call

/-! ## Specifications from histories -/

namespace Spec

open Call

/-- What a query of a table asks for after some calls. -/
def ofHistory (table : Value) (calls : List Call) : Spec where
  table
  primaryKey := (lastOf primaryKey? calls).getD (.text "id")
  limit := .int ((lastOf limit? calls).getD 0 : Nat)
  offset := .int ((lastOf offset? calls).getD 0 : Nat)
  sortColumn := (lastOf sortColumn? calls).getD (.text "id")
  sortDirection := (lastOf direction? calls).getD .ascending
  searchTerm := (lastOf searchTerm? calls).getD .none
  searchFields := .list ((lastOf searchFields? calls).getD [])
  predicates := calls.filterMap predicate?

/-- What a call writes takes the place of what has been there. -/
theorem ofHistory_concat
    (table : Value)
    (calls : List Call)
    (call : Call) :
    ofHistory table (calls ++ [call]) =
      { table
        primaryKey := call.primaryKey?.getD (ofHistory table calls).primaryKey
        limit := (call.limit?.map fun count => .int count).getD (ofHistory table calls).limit
        offset := (call.offset?.map fun count => .int count).getD (ofHistory table calls).offset
        sortColumn := call.sortColumn?.getD (ofHistory table calls).sortColumn
        sortDirection := call.direction?.getD (ofHistory table calls).sortDirection
        searchTerm := call.searchTerm?.getD (ofHistory table calls).searchTerm
        searchFields := (call.searchFields?.map .list).getD (ofHistory table calls).searchFields
        predicates := (ofHistory table calls).predicates ++ call.predicate?.toList } := by
  have kept : ∀ {α : Type} (written before : Option α) (default : α),
      (written.or before).getD default = written.getD (before.getD default) := by
    intro α written before default
    cases written <;> rfl
  have added : (calls ++ [call]).filterMap predicate? =
      calls.filterMap predicate? ++ call.predicate?.toList := by
    rw [List.filterMap_append, List.filterMap_cons, List.filterMap_nil]
    cases call.predicate? <;> rfl
  simp only [ofHistory, lastOf_concat, kept, added, Option.getD_map]

/-- A call adds itself to the history, unless it refuses its arguments. -/
theorem edit_ofHistory
    (table : Value)
    (calls : List Call)
    (call : Call) :
    call.edit (ofHistory table calls) =
      match call.refusal? with
      | some fault => .error fault
      | none => .ok (ofHistory table (calls ++ [call])) := by
  rw [ofHistory_concat]
  cases call with
  | bindSearchFields fields =>
      cases named : fieldsOf fields <;>
        simp [Call.edit, bindSearchFields, named, bind, Except.bind, pure, Except.pure,
          Except.toOption] <;> rfl
  | order given =>
      cases parsed : Direction.parse given <;>
        simp [Call.edit, setDirection, parsed, bind, Except.bind, pure, Except.pure,
          Except.toOption] <;> rfl
  | isMember negated column members =>
      cases collected : membersOf column members <;>
        simp [Call.edit, addPredicate, collected, bind, Except.bind, pure, Except.pure,
          Except.toOption] <;> rfl
  | group connective pairs =>
      cases paired : pairs.pairs <;>
        simp [Call.edit, addPredicate, paired, bind, Except.bind, pure, Except.pure,
          Except.toOption] <;> rfl
  | compare comparator column value => rfl
  | _ =>
      simp [Call.edit]
      rfl

/-- A specification that a call has edited has the call at the end of its history. -/
theorem history_of_edit
    {table : Value}
    {calls : List Call}
    (call : Call)
    {spec : Spec}
    (edited : call.edit (ofHistory table calls) = .ok spec) :
    spec = ofHistory table (calls ++ [call]) := by
  rw [edit_ofHistory] at edited
  split at edited
  · cases edited
  · exact (Except.ok.inj edited).symm

/-- A call that refuses its arguments writes nothing. -/
theorem ofHistory_concat_of_refused
    (table : Value)
    (calls : List Call)
    {call : Call}
    {fault : Fault}
    (refused : call.refusal? = some fault) :
    ofHistory table (calls ++ [call]) = ofHistory table calls := by
  rw [ofHistory_concat]
  cases call with
  | bindSearchFields fields =>
      cases named : fieldsOf fields <;> simp [named, refusal?.faultOf] at refused
      simp [named, Except.toOption]
      rfl
  | order given =>
      cases parsed : Direction.parse given <;> simp [parsed, refusal?.faultOf] at refused
      simp [parsed, Except.toOption]
      rfl
  | isMember negated column members =>
      cases collected : membersOf column members <;> simp [collected, refusal?.faultOf] at refused
      simp [collected, Except.toOption]
      rfl
  | group connective pairs =>
      cases paired : pairs.pairs <;> simp [paired, refusal?.faultOf] at refused
      simp [paired, Except.toOption]
      rfl
  | _ => cases refused

/-- Calls that refuse their arguments might as well not have been made. -/
theorem ofHistory_filter
    (table : Value)
    (calls : List Call) :
    ofHistory table (calls.filter fun call => call.refusal?.isNone) = ofHistory table calls := by
  induction calls using List.reverseRecOn with
  | nil => rfl
  | append_singleton earlier call inductionHypothesis =>
      rw [List.filter_append]
      cases refused : call.refusal? with
      | some fault =>
          have left : [call].filter (fun call => call.refusal?.isNone) = [] := by
            simp only [List.filter_cons, refused]
            rfl
          rw [left, List.append_nil, inductionHypothesis,
            ofHistory_concat_of_refused table earlier refused]
      | none =>
          have kept : [call].filter (fun call => call.refusal?.isNone) = [call] := by
            simp only [List.filter_cons, refused]
            rfl
          rw [kept, ofHistory_concat, ofHistory_concat, inductionHypothesis]

end Spec

/-! ## Runs -/

/-- What a call gives back by itself: the fault with which it refuses its arguments, or the query.
A call that runs may give back anything. -/
def Call.Gives (call : Call) (answer : Except Fault Answer) : Prop :=
  match call.refusal? with
  | some fault => answer = .error fault
  | none => call.isRun ∨ answer = .ok .query

namespace Builder

open Execution

/-- The queries that are built by calls, one after the other. -/
inductive IsMade : Builder → Prop where
  | new {model : Model} {builder : Builder} :
    Builder.new model = .ok builder → IsMade builder
  | ofModel {model : Model} {builder : Builder} :
    Builder.ofModel model = .ok builder → IsMade builder
  | edit {builder : Builder} {call : Call} {spec : Spec} :
    IsMade builder → call.edit builder.spec = .ok spec → IsMade { builder with spec }

/-- Makes calls one after the other and collects what they give back. -/
def applyAll (driver : Driver state) :
    List Call → Builder → Setting state →
      List (Except Fault Call.Answer) × Builder × Setting state
  | [], builder, setting => ([], builder, setting)
  | call :: calls, builder, setting =>
    let (next, answer, after) := builder.apply driver call setting
    let (answers, last, final) := applyAll driver calls next after
    (answer :: answers, last, final)

/-- A call whose arguments are taken gives back what comes of the edited specification. -/
theorem apply_of_edit
    (driver : Driver state)
    {builder : Builder}
    {call : Call}
    {spec : Spec}
    (edited : call.edit builder.spec = .ok spec)
    (setting : Setting state) :
    builder.apply driver call setting =
      ({ builder with spec }, (call.answer driver builder.model spec).runFrom setting) := by
  unfold apply
  rw [edited]
  rfl

theorem ofHistory_of_newSpec
    {model : Model}
    {spec : Spec}
    (fresh : model.newSpec = .ok spec) :
    spec = .ofHistory spec.table [] := by
  unfold Model.newSpec at fresh
  obtain ⟨table, _, named⟩ := Except.bind_eq_ok_iff.mp fresh
  split at named
  · obtain rfl := Except.ok.inj named
    rfl
  · cases named

/-- A new query has no history. -/
theorem spec_of_new
    {model : Model}
    {builder : Builder}
    (known : Builder.new model = .ok builder) :
    builder = { model, spec := .ofHistory builder.spec.table [] } := by
  obtain ⟨spec, fresh, made⟩ := Except.bind_eq_ok_iff.mp known
  obtain rfl := Except.ok.inj made
  simp only [← ofHistory_of_newSpec fresh]

/-- A call is added to the history of a query, whatever comes of its run. -/
theorem apply_ofHistory
    (driver : Driver state)
    (model : Model)
    (table : Value)
    (calls : List Call)
    (call : Call)
    (setting : Setting state) :
    (apply driver { model, spec := .ofHistory table calls } call setting).1 =
        { model, spec := .ofHistory table (calls ++ [call]) } ∧
      call.Gives (apply driver { model, spec := .ofHistory table calls } call setting).2.1 := by
  unfold apply Call.Gives
  rw [Spec.edit_ofHistory]
  cases refused : call.refusal? with
  | some fault => exact ⟨by rw [Spec.ofHistory_concat_of_refused table calls refused], rfl⟩
  | none =>
      refine ⟨rfl, ?_⟩
      cases call with
      | bindSearchFields | bindPrimaryKey | limit | offset | sortBy | order | compare | isMember
        | group | search => exact .inr rfl
      | toSql | countSql | find | totalCount | first | paginate => exact .inl rfl

/-- Calls are added to the history of a query one after the other. -/
theorem applyAll_ofHistory
    (driver : Driver state)
    (model : Model)
    (table : Value)
    (earlier calls : List Call)
    (setting : Setting state) :
    (applyAll driver calls { model, spec := .ofHistory table earlier } setting).2.1 =
        { model, spec := .ofHistory table (earlier ++ calls) } ∧
      List.Forall₂ Call.Gives calls
        (applyAll driver calls { model, spec := .ofHistory table earlier } setting).1 := by
  induction calls generalizing earlier setting with
  | nil => exact ⟨by rw [List.append_nil]; rfl, .nil⟩
  | cons call rest inductionHypothesis =>
      obtain ⟨next, gives⟩ := apply_ofHistory driver model table earlier call setting
      rcases applied : apply driver { model, spec := .ofHistory table earlier } call setting with
        ⟨builder, answer, after⟩
      rw [applied] at next gives
      obtain rfl : builder = _ := next
      obtain ⟨last, others⟩ := inductionHypothesis (earlier ++ [call]) after
      simp only [applyAll, applied]
      refine ⟨?_, .cons gives others⟩
      rw [last, List.append_assoc, List.singleton_append]

/-- After any calls a new query asks for what their history says, and each call that does not run
gives back the query or the fault with which it refuses its arguments.  Calls that refuse their
arguments might as well not have been made. -/
theorem spec_of_applyAll
    {model : Model}
    {builder : Builder}
    (known : Builder.new model = .ok builder)
    (driver : Driver state)
    (calls : List Call)
    (setting : Setting state) :
    (applyAll driver calls builder setting).2.1 =
        { model, spec := .ofHistory builder.spec.table calls } ∧
      List.Forall₂ Call.Gives calls (applyAll driver calls builder setting).1 ∧
      Spec.ofHistory builder.spec.table (calls.filter fun call => call.refusal?.isNone) =
        .ofHistory builder.spec.table calls := by
  obtain ⟨last, gives⟩ := applyAll_ofHistory driver model builder.spec.table [] calls setting
  rw [← spec_of_new known] at last gives
  exact ⟨last, gives, Spec.ofHistory_filter builder.spec.table calls⟩

/-- A refused collection and an earlier bound leave no trace in what a query asks for. -/
theorem spec_of_applyAll_staff :
    (applyAll Engine.driver
        [.limit (.text "7"), .isMember false (.text "city") (.text "Rome"), .first,
          .order (.text " DESC "), .bindPrimaryKey (.text "age")]
        { model := staffModel, spec := { table := .text "staff" } } quiet).2.1.spec =
      { table := .text "staff"
        primaryKey := .text "age"
        sortColumn := .text "age"
        limit := .int 1
        sortDirection := .descending } := by
  have known : Builder.new staffModel =
    .ok { model := staffModel, spec := { table := .text "staff" } } := rfl
  rw [(spec_of_applyAll known Engine.driver _ quiet).1]
  rfl

/-- Every query that is built by calls has a history. -/
theorem IsMade.history
    {builder : Builder}
    (made : builder.IsMade) :
    ∃ table calls, builder.spec = .ofHistory table calls := by
  induction made with
  | new known => exact ⟨_, [], congrArg spec (spec_of_new known)⟩
  | ofModel known =>
      obtain ⟨spec, bound, made⟩ := Except.bind_eq_ok_iff.mp known
      obtain ⟨fresh, new, rest⟩ := Except.bind_eq_ok_iff.mp bound
      obtain ⟨searching, named, keyed⟩ := Except.bind_eq_ok_iff.mp rest
      rw [ofHistory_of_newSpec new] at named
      have searched := Spec.history_of_edit (.bindSearchFields _) named
      rw [searched] at keyed
      have known := Spec.history_of_edit (.bindPrimaryKey _) keyed
      rw [← Except.ok.inj made]
      exact ⟨_, _, known⟩
  | edit _ edited inductionHypothesis =>
      obtain ⟨table, calls, known⟩ := inductionHypothesis
      rw [known] at edited
      exact ⟨_, _, Spec.history_of_edit _ edited⟩

end Builder
end TableQuery
