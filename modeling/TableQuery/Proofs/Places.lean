import TableQuery.Proofs.History

/-!
# Lists by reference

A list is shared by reference.  A query refers to two places of a memory: the columns that it
searches and its conditions are the lists there.  A copy of a collection is a list at a new place,
while a member is appended to the list at a place for everyone who refers to it.  Read from the
memory, a query is what its calls make of a specification, and no call changes a list that its query
does not refer to.
-/

namespace TableQuery

/-- Lists by their places. -/
abbrev Lists (α : Type) := List (List α)

namespace Lists

variable {α : Type}

/-- The members of the list at a place. -/
def membersAt (lists : Lists α) (place : Nat) : List α :=
  lists.getD place []

/-- A new list: its place, and all lists with it. -/
def allocate (lists : Lists α) (members : List α) : Nat × Lists α :=
  (lists.length, lists ++ [members])

/-- Appends a member to the list at a place. -/
def append (lists : Lists α) (place : Nat) (member : α) : Lists α :=
  lists.modify place (· ++ [member])

@[simp] theorem membersAt_allocate_self
    (lists : Lists α)
    (members : List α) :
    (lists.allocate members).2.membersAt (lists.allocate members).1 = members := by
  simp [allocate, membersAt]

theorem membersAt_allocate
    {lists : Lists α}
    {place : Nat}
    (old : place < lists.length)
    (members : List α) :
    (lists.allocate members).2.membersAt place = lists.membersAt place := by
  simp [allocate, membersAt, List.getElem?_append_left old]

theorem membersAt_append_self
    {lists : Lists α}
    {place : Nat}
    (inRange : place < lists.length)
    (member : α) :
    (lists.append place member).membersAt place = lists.membersAt place ++ [member] := by
  simp [append, membersAt, List.getElem?_eq_getElem inRange]

theorem membersAt_append_of_ne
    {lists : Lists α}
    {place other : Nat}
    (different : place ≠ other)
    (member : α) :
    (lists.append place member).membersAt other = lists.membersAt other := by
  simp [append, membersAt, different]

/-! ## Changes for one owner -/

/-- A change of lists for an owner: of the lists that were there only its own may be another one
now, and it refers to this one still, or to a new one. -/
structure ChangesFor (old? : Option Nat) (new : Nat) (before after : Lists α) : Prop where
  length_le : before.length ≤ after.length
  members : ∀ place, place < before.length → old? ≠ some place →
    after.membersAt place = before.membersAt place
  own : old? = some new ∨ before.length ≤ new
  inRange : new < after.length

namespace ChangesFor

theorem refl
    {lists : Lists α}
    {place : Nat}
    (inRange : place < lists.length) :
    ChangesFor (some place) place lists lists :=
  ⟨le_rfl, fun _ _ _ => rfl, .inl rfl, inRange⟩

theorem allocate
    (old? : Option Nat)
    (lists : Lists α)
    (members : List α) :
    ChangesFor old? (lists.allocate members).1 lists (lists.allocate members).2 where
  length_le := by simp [Lists.allocate]
  members := fun _ old _ => membersAt_allocate old members
  own := .inr le_rfl
  inRange := by simp [Lists.allocate]

theorem append
    {lists : Lists α}
    {place : Nat}
    (inRange : place < lists.length)
    (member : α) :
    ChangesFor (some place) place lists (lists.append place member) where
  length_le := by simp [Lists.append]
  members := fun _ _ other => membersAt_append_of_ne (fun same => other (congrArg some same)) member
  own := .inl rfl
  inRange := by simpa [Lists.append] using inRange

theorem trans
    {old? : Option Nat}
    {middle new : Nat}
    {first second third : Lists α}
    (earlier : ChangesFor old? middle first second)
    (later : ChangesFor (some middle) new second third) :
    ChangesFor old? new first third where
  length_le := earlier.length_le.trans later.length_le
  members := by
    intro place inRange other
    have apart : some middle ≠ some place := by
      rintro same
      obtain rfl := Option.some.inj same
      exact earlier.own.elim other inRange.not_ge
    rw [later.members place (inRange.trans_le earlier.length_le) apart,
      earlier.members place inRange other]
  own := by
    rcases later.own with same | fresh
    · obtain rfl := Option.some.inj same
      exact earlier.own
    · exact .inr (earlier.length_le.trans fresh)
  inRange := later.inRange

end ChangesFor

/-! ## Owners -/

/-- Every owner that has a list has one that nobody else has. -/
structure Apart (places : Option String → Option Nat) (lists : Lists α) : Prop where
  inRange : ∀ owner place, places owner = some place → place < lists.length
  injective : ∀ owner other place,
    places owner = some place → places other = some place → owner = other

/-- Owners stay apart where lists change for one of them. -/
theorem Apart.changesFor
    {places later : Option String → Option Nat}
    {before after : Lists α}
    (apart : Apart places before)
    {own : Option String}
    {new : Nat}
    (changes : ChangesFor (places own) new before after)
    (others : ∀ owner, owner ≠ own → later owner = places owner)
    (moved : later own = some new) :
    Apart later after := by
  -- Nobody else has the list, neither where it was there before nor where it is new.
  have alone : ∀ owner, owner ≠ own → places owner ≠ some new := by
    intro owner other same
    rcases changes.own with kept | fresh
    · exact other (apart.injective owner own new same kept)
    · exact (apart.inRange owner new same).not_ge fresh
  constructor
  · intro owner place known
    by_cases isOwn : owner = own
    · rw [isOwn, moved] at known
      exact Option.some.inj known ▸ changes.inRange
    · rw [others owner isOwn] at known
      exact (apart.inRange owner place known).trans_le changes.length_le
  · intro owner other place first second
    by_cases isOwn : owner = own <;> by_cases isOther : other = own
    · rw [isOwn, isOther]
    · rw [isOwn, moved] at first
      rw [others other isOther, ← first] at second
      exact absurd second (alone other isOther)
    · rw [isOther, moved] at second
      rw [others owner isOwn, ← second] at first
      exact absurd first (alone owner isOwn)
    · rw [others owner isOwn] at first
      rw [others other isOther] at second
      exact apart.injective owner other place first second

/-- The lists of all others stay as they are. -/
theorem Apart.membersAt_of_ne
    {places : Option String → Option Nat}
    {before after : Lists α}
    (apart : Apart places before)
    {own owner : Option String}
    {new place : Nat}
    (changes : ChangesFor (places own) new before after)
    (other : owner ≠ own)
    (known : places owner = some place) :
    after.membersAt place = before.membersAt place :=
  changes.members place (apart.inRange owner place known)
    fun same => other (apart.injective owner own place known same)

end Lists

/-! ## Queries in a memory -/

/-- The lists to which queries and their model refer. -/
structure Memory where
  fields : Lists Value
  conditions : Lists Predicate

/-- A query whose search fields and conditions are the lists at two places. -/
structure Held where
  builder : Builder
  fields : Nat
  conditions : Nat

/-- What is handed over to a query: a value, or the list at a place. -/
inductive Handed where
  | value (given : Value)
  | listAt (place : Nat)

/-- A held query whose lists are there. -/
structure Held.IsIn (held : Held) (memory : Memory) : Prop where
  fields : held.fields < memory.fields.length
  conditions : held.conditions < memory.conditions.length

namespace Memory

/-- What has been handed over, as it is now. -/
def valueOf (memory : Memory) : Handed → Value
  | .value given => given
  | .listAt place => .list (memory.fields.membersAt place)

/-- A held query as it is now. -/
def read (memory : Memory) (held : Held) : Builder :=
  { held.builder with
    spec := { held.builder.spec with
      searchFields := .list (memory.fields.membersAt held.fields)
      predicates := memory.conditions.membersAt held.conditions } }

/-- A new query of a model, with two new lists. -/
def new (memory : Memory) (model : Model) : Except Fault (Held × Memory) := do
  let spec ← model.newSpec
  let (fields, lists) := memory.fields.allocate []
  let (conditions, others) := memory.conditions.allocate []
  return (⟨⟨model, spec⟩, fields, conditions⟩, ⟨lists, others⟩)

/-- Binds a copy of what is handed over, which is a new list. -/
def bindSearchFields (memory : Memory) (held : Held) (handed : Handed) :
    Except Fault (Held × Memory) := do
  let (place, fields) := memory.fields.allocate (← Spec.fieldsOf (memory.valueOf handed))
  return ({ held with fields := place }, { memory with fields })

/-- Appends a column to the search fields of a query. -/
def addSearchField (memory : Memory) (held : Held) (field : Value) : Memory :=
  { memory with fields := memory.fields.append held.fields field }

/-- Appends a condition to those of a query. -/
def addPredicate (memory : Memory) (held : Held) (given : Predicate) : Memory :=
  { memory with conditions := memory.conditions.append held.conditions given }

/-- A new query with the search fields that a model declares and with its key. -/
def ofModel (memory : Memory) (model : Model) (declared : Handed) :
    Except Fault (Held × Memory) := do
  let (fresh, later) ← memory.new model
  let (held, last) ← later.bindSearchFields fresh declared
  let spec := held.builder.spec.bindPrimaryKey model.primaryKey
  return ({ held with builder := { held.builder with spec } }, last)

open Call in
/-- The held query and the memory after a call.  Only a call that binds search fields makes a new
list, and a call that adds a condition appends it; the other calls write no list. -/
def edit (memory : Memory) (held : Held) : Call → Except Fault (Held × Memory)
  | .bindSearchFields fields => memory.bindSearchFields held (.value fields)
  | .compare comparator column value =>
    return (held, memory.addPredicate held (.comparison comparator column value))
  | .isMember negated column members => do
    let given := Predicate.membership negated column (← membersOf column members)
    return (held, memory.addPredicate held given)
  | .group connective pairs => do
    return (held, memory.addPredicate held (.group connective (← pairs.pairs)))
  | call => do
    let spec ← call.edit held.builder.spec
    return ({ held with builder := { held.builder with spec } }, memory)

/-! ## What is read -/

section Read

variable (memory : Memory)
  (held : Held)

/-- A new specification searches no columns and has no conditions. -/
theorem lists_of_newSpec
    {model : Model}
    {spec : Spec}
    (fresh : model.newSpec = .ok spec) :
    spec.searchFields = .list [] ∧ spec.predicates = [] := by
  rw [Builder.ofHistory_of_newSpec fresh]
  exact ⟨rfl, rfl⟩

/-- A new query reads as one with nothing bound. -/
theorem read_new (model : Model) :
    (memory.new model).map (fun (held, after) => after.read held) = Builder.new model := by
  unfold new Builder.new
  cases fresh : model.newSpec with
  | error fault => rfl
  | ok spec =>
      obtain ⟨fields, conditions⟩ := lists_of_newSpec fresh
      simp [bind, Except.bind, pure, Except.pure, Except.map, read, ← fields, ← conditions]

/-- A query reads after search fields are bound as the specification does to which they are. -/
theorem read_bindSearchFields (handed : Handed) :
    (memory.bindSearchFields held handed).map (fun (held, after) => after.read held) =
      ((memory.read held).spec.bindSearchFields (memory.valueOf handed)).map fun spec =>
        { memory.read held with spec } := by
  unfold bindSearchFields Spec.bindSearchFields
  cases Spec.fieldsOf (memory.valueOf handed) with
  | error fault => rfl
  | ok members => simp [bind, Except.bind, pure, Except.pure, Except.map, read]

theorem read_addPredicate
    {held : Held}
    (isIn : held.IsIn memory)
    (given : Predicate) :
    (memory.addPredicate held given).read held =
      { memory.read held with spec := (memory.read held).spec.addPredicate given } := by
  simp [read, addPredicate, Spec.addPredicate, Lists.membersAt_append_self isIn.conditions]

theorem read_addSearchField
    {held : Held}
    (isIn : held.IsIn memory)
    (field : Value) :
    (memory.addSearchField held field).read held =
      { memory.read held with spec := (memory.read held).spec.addSearchField field } := by
  simp [read, addSearchField, Spec.addSearchField, Lists.membersAt_append_self isIn.fields]

/-- A query reads after a call as the specification does to which the call is made. -/
theorem read_edit
    {held : Held}
    (isIn : held.IsIn memory)
    (call : Call) :
    (memory.edit held call).map (fun (held, after) => after.read held) =
      (call.edit (memory.read held).spec).map fun spec => { memory.read held with spec } := by
  cases call with
  | bindSearchFields fields => exact memory.read_bindSearchFields held (.value fields)
  | compare comparator column value =>
      exact congrArg Except.ok (memory.read_addPredicate isIn _)
  | isMember negated column members =>
      cases collected : Call.membersOf column members with
      | error fault => simp [edit, Call.edit, collected, bind, Except.bind, Except.map]
      | ok items =>
          simp only [edit, Call.edit, collected, bind, Except.bind, pure, Except.pure, Except.map]
          exact congrArg Except.ok (memory.read_addPredicate isIn _)
  | group connective pairs =>
      cases paired : pairs.pairs with
      | error fault => simp [edit, Call.edit, paired, bind, Except.bind, Except.map]
      | ok items =>
          simp only [edit, Call.edit, paired, bind, Except.bind, pure, Except.pure, Except.map]
          exact congrArg Except.ok (memory.read_addPredicate isIn _)
  | order given =>
      cases parsed : Direction.parse given <;>
        simp [edit, Call.edit, Spec.setDirection, parsed, bind, Except.bind, pure, Except.pure,
          Except.map, read]
  | _ => rfl

end Read

/-! ## What is changed -/

/-- A change of a memory for one query. -/
structure ChangesFor (fields? conditions? : Option Nat) (held : Held) (before after : Memory) :
    Prop where
  fields : Lists.ChangesFor fields? held.fields before.fields after.fields
  conditions : Lists.ChangesFor conditions? held.conditions before.conditions after.conditions

theorem ChangesFor.isIn
    {fields? conditions? : Option Nat}
    {held : Held}
    {before after : Memory}
    (changes : ChangesFor fields? conditions? held before after) :
    held.IsIn after :=
  ⟨changes.fields.inRange, changes.conditions.inRange⟩

section Changes

variable {memory after : Memory}
  {held next : Held}

theorem changesFor_new
    (fields? conditions? : Option Nat)
    {model : Model}
    (made : memory.new model = .ok (next, after)) :
    ChangesFor fields? conditions? next memory after := by
  obtain ⟨spec, _, rest⟩ := Except.bind_eq_ok_iff.mp made
  obtain ⟨rfl, rfl⟩ := Prod.mk.inj (Except.ok.inj rest)
  exact ⟨.allocate _ _ _, .allocate _ _ _⟩

theorem changesFor_bindSearchFields
    (isIn : held.IsIn memory)
    {handed : Handed}
    (bound : memory.bindSearchFields held handed = .ok (next, after)) :
    ChangesFor (some held.fields) (some held.conditions) next memory after := by
  obtain ⟨members, _, rest⟩ := Except.bind_eq_ok_iff.mp bound
  obtain ⟨rfl, rfl⟩ := Prod.mk.inj (Except.ok.inj rest)
  exact ⟨.allocate _ _ _, .refl isIn.conditions⟩

theorem changesFor_addPredicate
    (isIn : held.IsIn memory)
    (given : Predicate) :
    ChangesFor (some held.fields) (some held.conditions) held memory
      (memory.addPredicate held given) :=
  ⟨.refl isIn.fields, .append isIn.conditions given⟩

theorem changesFor_addSearchField
    (isIn : held.IsIn memory)
    (field : Value) :
    ChangesFor (some held.fields) (some held.conditions) held memory
      (memory.addSearchField held field) :=
  ⟨.append isIn.fields field, .refl isIn.conditions⟩

theorem changesFor_ofModel
    (fields? conditions? : Option Nat)
    {model : Model}
    {declared : Handed}
    (made : memory.ofModel model declared = .ok (next, after)) :
    ChangesFor fields? conditions? next memory after := by
  obtain ⟨⟨fresh, later⟩, new, rest⟩ := Except.bind_eq_ok_iff.mp made
  obtain ⟨⟨held, last⟩, bound, same⟩ := Except.bind_eq_ok_iff.mp rest
  obtain ⟨rfl, rfl⟩ := Prod.mk.inj (Except.ok.inj same)
  have first := changesFor_new fields? conditions? new
  have second := changesFor_bindSearchFields first.isIn bound
  exact ⟨first.fields.trans second.fields, first.conditions.trans second.conditions⟩

/-- A call changes no list but those of its query. -/
theorem changesFor_edit
    (isIn : held.IsIn memory)
    {call : Call}
    (edited : memory.edit held call = .ok (next, after)) :
    ChangesFor (some held.fields) (some held.conditions) next memory after := by
  cases call with
  | bindSearchFields fields => exact changesFor_bindSearchFields isIn edited
  | compare comparator column value =>
      obtain ⟨rfl, rfl⟩ := Prod.mk.inj (Except.ok.inj edited)
      exact changesFor_addPredicate isIn _
  | isMember negated column members =>
      obtain ⟨items, _, rest⟩ := Except.bind_eq_ok_iff.mp edited
      obtain ⟨rfl, rfl⟩ := Prod.mk.inj (Except.ok.inj rest)
      exact changesFor_addPredicate isIn _
  | group connective pairs =>
      obtain ⟨items, _, rest⟩ := Except.bind_eq_ok_iff.mp edited
      obtain ⟨rfl, rfl⟩ := Prod.mk.inj (Except.ok.inj rest)
      exact changesFor_addPredicate isIn _
  | _ =>
      obtain ⟨spec, _, rest⟩ := Except.bind_eq_ok_iff.mp edited
      obtain ⟨rfl, rfl⟩ := Prod.mk.inj (Except.ok.inj rest)
      exact ⟨.refl isIn.fields, .refl isIn.conditions⟩

end Changes

/-- A query with the search fields of its model reads as one of the model, whose list stays. -/
theorem read_ofModel
    (memory : Memory)
    {model : Model}
    {declared : Handed}
    (known : memory.valueOf declared = model.searchFields)
    (inRange : ∀ place, declared = .listAt place → place < memory.fields.length) :
    (memory.ofModel model declared).map (fun (held, after) => after.read held) =
      Builder.ofModel model := by
  unfold ofModel new Builder.ofModel Model.querySpec bindSearchFields Spec.bindSearchFields
  cases fresh : model.newSpec with
  | error fault => rfl
  | ok spec =>
      obtain ⟨fields, conditions⟩ := lists_of_newSpec fresh
      have stays : valueOf ⟨(memory.fields.allocate []).2, (memory.conditions.allocate []).2⟩
          declared = model.searchFields := by
        rw [← known]
        cases declared with
        | value given => rfl
        | listAt place => exact congrArg Value.list (Lists.membersAt_allocate (inRange place rfl) [])
      simp only [bind, Except.bind, pure, Except.pure, stays]
      cases Spec.fieldsOf model.searchFields with
      | error fault => rfl
      | ok members => simp [Except.map, read, Spec.bindPrimaryKey, conditions]

end Memory
end TableQuery
