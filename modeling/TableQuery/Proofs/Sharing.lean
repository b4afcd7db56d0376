import TableQuery.Proofs.Places
import TableQuery.Proofs.Previews

/-!
# Queries side by side

Queries of one model are built in turns, with one driver and in one world.  The model and the queries
refer to lists in one memory, and a column is appended to a list in place.  Every query keeps its
search fields and its conditions in lists of its own, so what it asks for depends on its own steps
only.
-/

namespace TableQuery

/-- Whether a value can be walked through only once. -/
def Value.isStream : Value → Bool
  | .stream _ => true
  | _ => false

/-- A model whose search fields can be walked through again is not changed by queries. -/
theorem Model.afterQuery_of_lasting
    {model : Model}
    (lasting : model.searchFields.isStream = false) :
    model.afterQuery = model := by
  unfold afterQuery
  split
  · rename_i streamed
    rw [streamed] at lasting
    cases lasting
  · rfl

namespace Builder

/-- The query after a call, whatever comes of it. -/
def edited (builder : Builder) (call : Call) : Builder :=
  { builder with spec := (call.edit builder.spec).toOption.getD builder.spec }

/-- The query that is made for a model, either with its search fields and its key or with nothing
bound. -/
def made (model : Model) (bound : Bool) : Except Fault Builder :=
  if bound then ofModel model else new model

end Builder

/-! ## Sessions -/

/-- The state of a session: the world with the driver, a model, the memory of all lists, and the
queries by their names.  Where the search fields of the model are a list, `declared` is its
place. -/
structure Session (state : Type) where
  setting : Setting state
  model : Model
  declared : Option Nat
  memory : Memory
  held : String → Option Held

/-- A step of a session. -/
inductive Step (state : Type) where
  /-- A query is made under a name, with the search fields and the key of the model or without. -/
  | make (name : String) (bound : Bool)
  | call (name : String) (call : Call)
  /-- A column is appended in place to the search fields of a query. -/
  | addSearchField (name : String) (field : Value)
  /-- Anything else that happens to the world or to the driver. -/
  | elsewhere (change : Setting state → Setting state)

namespace Step

variable {state : Type}

/-- The name of the query that a step is one of. -/
def owner? : Step state → Option String
  | .make name _ | .call name _ | .addSearchField name _ => some name
  | .elsewhere _ => none

/-- Whether a step is one of the query under a name. -/
def concerns (name : String) (step : Step state) : Bool :=
  step.owner? = some name

/-- What a step makes of the query under a name, if all other steps are left out. -/
def alter (model : Model) (name : String) (builder? : Option Builder) :
    Step state → Option Builder
  | .make other bound =>
    if other = name then (Builder.made model bound).toOption.or builder? else builder?
  | .call other given => if other = name then builder?.map (·.edited given) else builder?
  | .addSearchField other field =>
    if other = name then
      builder?.map fun builder => { builder with spec := builder.spec.addSearchField field }
    else builder?
  | .elsewhere _ => builder?

/-- A query is not altered by the steps of others. -/
theorem alter_of_not_concerns
    {name : String}
    {step : Step state}
    (other : step.concerns name = false)
    (model : Model)
    (builder? : Option Builder) :
    step.alter model name builder? = builder? := by
  cases step <;> simp_all [alter, concerns, owner?]

/-- Of the steps of a session only those of a query matter to it. -/
theorem foldl_alter_filter
    (model : Model)
    (name : String)
    (steps : List (Step state))
    (builder? : Option Builder) :
    (steps.filter (·.concerns name)).foldl (alter model name) builder? =
      steps.foldl (alter model name) builder? := by
  rw [List.foldl_filter]
  congr 1
  funext builder? step
  split
  · rfl
  · rename_i other
    exact (alter_of_not_concerns (by simpa using other) model builder?).symm

end Step

namespace Session

variable {state : Type}

/-- The search fields that the model declares, as they are handed over to a query. -/
def handed (session : Session state) : Handed :=
  match session.declared with
  | some place => .listAt place
  | none => .value session.model.searchFields

/-- The model as it is now. -/
def currentModel (session : Session state) : Model :=
  { session.model with searchFields := session.memory.valueOf session.handed }

/-- The query under a name as it is now. -/
def builder? (session : Session state) (name : String) : Option Builder :=
  (session.held name).map session.memory.read

/-- Holds a query under a name. -/
def hold (session : Session state) (name : String) (held : Held) : Session state :=
  { session with held := fun other => if other = name then some held else session.held other }

/-- Makes a query of the model, either with its search fields and its key or with nothing bound. -/
def make (session : Session state) (bound : Bool) : Except Fault (Held × Memory) :=
  if bound then session.memory.ofModel session.currentModel session.handed
  else session.memory.new session.currentModel

/-- The session after a step. -/
def after (driver : Driver state) (session : Session state) : Step state → Session state
  | .make name bound =>
    match session.make bound with
    | .ok (held, memory) =>
      let model := if bound then session.model.afterQuery else session.model
      { session with model, memory }.hold name held
    | .error _ => session
  | .call name call =>
    match session.held name with
    | some held =>
      let (_, _, setting) := (session.memory.read held).apply driver call session.setting
      match session.memory.edit held call with
      | .ok (next, memory) => { session with setting, memory }.hold name next
      | .error _ => { session with setting }
    | none => session
  | .addSearchField name field =>
    match session.held name with
    | some held => { session with memory := session.memory.addSearchField held field }
    | none => session
  | .elsewhere change => { session with setting := change session.setting }

/-- The session after steps, one after the other. -/
def run (driver : Driver state) (steps : List (Step state)) (session : Session state) :
    Session state :=
  steps.foldl (after driver) session

/-- A session in which there is a model and no query. -/
def start (model : Model) (setting : Setting state) : Session state :=
  match model.searchFields with
  | .list fields => ⟨setting, model, some 0, ⟨[fields], []⟩, fun _ => none⟩
  | _ => ⟨setting, model, none, ⟨[], []⟩, fun _ => none⟩

/-! ## Places -/

/-- The place of the search fields of an owner: the query under a name, or the model. -/
def fieldsOf? (session : Session state) : Option String → Option Nat
  | some name => (session.held name).map Held.fields
  | none => session.declared

/-- The place of the conditions of an owner; the model has none. -/
def conditionsOf? (session : Session state) : Option String → Option Nat
  | some name => (session.held name).map Held.conditions
  | none => none

/-- Every owner has lists of its own. -/
structure IsSound (session : Session state) : Prop where
  fields : Lists.Apart session.fieldsOf? session.memory.fields
  conditions : Lists.Apart session.conditionsOf? session.memory.conditions

/-- The lists of a held query are there. -/
theorem IsSound.isIn
    {session : Session state}
    (sound : session.IsSound)
    {name : String}
    {held : Held}
    (known : session.held name = some held) :
    held.IsIn session.memory where
  fields := sound.fields.inRange (some name) held.fields (by simp [fieldsOf?, known])
  conditions := sound.conditions.inRange (some name) held.conditions (by simp [conditionsOf?, known])

section Hold

variable {session : Session state}
  (sound : session.IsSound)
  {name : String}
  {next : Held}
  {memory : Memory}
  (changes : Memory.ChangesFor (session.fieldsOf? (some name)) (session.conditionsOf? (some name))
    next session.memory memory)

include sound changes

/-- Every owner still has lists of its own where a memory has changed for one query. -/
theorem isSound_hold : ({ session with memory }.hold name next).IsSound where
  fields := by
    refine sound.fields.changesFor changes.fields (fun owner other => ?_) ?_
    · cases owner with
      | none => rfl
      | some given =>
          have different : given ≠ name := fun same => other (congrArg some same)
          simp [fieldsOf?, hold, different]
    · simp [fieldsOf?, hold]
  conditions := by
    refine sound.conditions.changesFor changes.conditions (fun owner other => ?_) ?_
    · cases owner with
      | none => rfl
      | some given =>
          have different : given ≠ name := fun same => other (congrArg some same)
          simp [conditionsOf?, hold, different]
    · simp [conditionsOf?, hold]

/-- The other queries stay as they are where a memory has changed for one query. -/
theorem builder?_hold_of_ne
    {other : String}
    (different : other ≠ name) :
    ({ session with memory }.hold name next).builder? other = session.builder? other := by
  have apart : some other ≠ some name := fun same => different (Option.some.inj same)
  unfold builder?
  simp only [hold, if_neg different]
  cases known : session.held other with
  | none => rfl
  | some held =>
      have fields : memory.fields.membersAt held.fields =
          session.memory.fields.membersAt held.fields :=
        sound.fields.membersAt_of_ne changes.fields apart (by simp [fieldsOf?, known])
      have conditions : memory.conditions.membersAt held.conditions =
          session.memory.conditions.membersAt held.conditions :=
        sound.conditions.membersAt_of_ne changes.conditions apart (by simp [conditionsOf?, known])
      simp only [Option.map_some, Memory.read, fields, conditions]

/-- The model stays as it is where a memory has changed for one query. -/
theorem currentModel_hold :
    ({ session with memory }.hold name next).currentModel = session.currentModel := by
  unfold currentModel
  simp only [hold, handed]
  cases known : session.declared with
  | none => rfl
  | some place =>
      have declared : session.fieldsOf? none = some place := known
      have fields : memory.fields.membersAt place = session.memory.fields.membersAt place :=
        sound.fields.membersAt_of_ne changes.fields (by simp) declared
      simp only [Memory.valueOf, fields]

end Hold

/-- To hold a query that is held already changes nothing. -/
theorem hold_of_held
    {session : Session state}
    {name : String}
    {held : Held}
    (known : session.held name = some held) :
    session.hold name held = session := by
  have same : (fun other => if other = name then some held else session.held other) =
      session.held := by
    funext other
    split
    next isName => rw [isName, known]
    next => rfl
  rw [hold, same]

/-! ## Steps -/

/-- What a step leaves of a session: every owner has lists of its own, the model is the same, and
the query under each name is what the step makes of it. -/
structure Keeps (step : Step state) (before after : Session state) : Prop where
  sound : after.IsSound
  model : after.model = before.model
  currentModel : after.currentModel = before.currentModel
  builder? : ∀ name,
    after.builder? name = step.alter before.currentModel name (before.builder? name)

/-- What happens to the world and to the driver meanwhile does not matter. -/
theorem Keeps.withSetting
    {step : Step state}
    {before after : Session state}
    (keeps : Keeps step before after)
    (setting : Setting state) :
    Keeps step before { after with setting } :=
  ⟨⟨keeps.sound.fields, keeps.sound.conditions⟩, keeps.model, keeps.currentModel, keeps.builder?⟩

section After

variable {session : Session state}
  (sound : session.IsSound)
  (driver : Driver state)
  (name : String)

include sound

/-- A step of one query that changes nothing does not matter if it makes nothing of that query. -/
theorem keeps_refl
    {step : Step state}
    (own : step.owner? = some name)
    (same : step.alter session.currentModel name (session.builder? name) =
      session.builder? name) :
    Keeps step session session := by
  refine ⟨sound, rfl, rfl, fun other => ?_⟩
  by_cases isName : other = name
  · rw [isName, same]
  · have others : step.concerns other = false := by
      simp [Step.concerns, own, Ne.symm isName]
    rw [Step.alter_of_not_concerns others]

/-- A step of one query that changes the memory for that query is known by what it makes of it. -/
theorem keeps_hold
    {step : Step state}
    (own : step.owner? = some name)
    {next : Held}
    {memory : Memory}
    (changes : Memory.ChangesFor (session.fieldsOf? (some name)) (session.conditionsOf? (some name))
      next session.memory memory)
    (made : step.alter session.currentModel name (session.builder? name) =
      some (memory.read next)) :
    Keeps step session ({ session with memory }.hold name next) where
  sound := isSound_hold sound changes
  model := rfl
  currentModel := currentModel_hold sound changes
  builder? := by
    intro other
    by_cases isName : other = name
    · rw [isName, made]
      simp [builder?, hold]
    · have others : step.concerns other = false := by
        simp [Step.concerns, own, Ne.symm isName]
      rw [builder?_hold_of_ne sound changes isName, Step.alter_of_not_concerns others]

/-- What is made for the model reads as a new query of it, and no list has changed. -/
theorem read_make (bound : Bool) :
    (session.make bound).map (fun (held, memory) => memory.read held) =
        Builder.made session.currentModel bound ∧
      ∀ held memory, session.make bound = .ok (held, memory) →
        Memory.ChangesFor (session.fieldsOf? (some name)) (session.conditionsOf? (some name)) held
          session.memory memory := by
  cases bound with
  | false =>
      exact ⟨session.memory.read_new _, fun held memory made => Memory.changesFor_new _ _ made⟩
  | true =>
      refine ⟨session.memory.read_ofModel rfl fun place listed => ?_,
        fun held memory made => Memory.changesFor_ofModel _ _ made⟩
      cases known : session.declared with
      | none => simp [handed, known] at listed
      | some own =>
          obtain rfl : own = place := by simpa [handed, known] using listed
          exact sound.fields.inRange none own known

/-- A query that is made for a name takes the place of the one under that name. -/
theorem keeps_make
    (lasting : session.model.searchFields.isStream = false)
    (bound : Bool) :
    Keeps (.make name bound) session (session.after driver (.make name bound)) := by
  obtain ⟨reads, changes⟩ := read_make sound name bound
  cases making : session.make bound with
  | error fault =>
      have same : session.after driver (.make name bound) = session := by
        simp only [after, making]
      rw [making] at reads
      have refused : Builder.made session.currentModel bound = .error fault := reads.symm
      rw [same]
      apply keeps_refl sound name rfl
      simp [Step.alter, refused, Except.toOption]
  | ok result =>
      obtain ⟨held, memory⟩ := result
      have unchanged : (if bound then session.model.afterQuery else session.model) =
          session.model := by
        rw [Model.afterQuery_of_lasting lasting, ite_self]
      have same : session.after driver (.make name bound) =
          { session with memory }.hold name held := by
        simp only [after, making, unchanged]
      rw [making] at reads
      have made : Builder.made session.currentModel bound = .ok (memory.read held) := reads.symm
      rw [same]
      apply keeps_hold sound name rfl (changes held memory making)
      simp [Step.alter, made, Except.toOption]

/-- A call edits its query, whatever comes of its run. -/
theorem keeps_call (call : Call) :
    Keeps (.call name call) session (session.after driver (.call name call)) := by
  cases known : session.held name with
  | none =>
      have same : session.after driver (.call name call) = session := by
        simp only [after, known]
      rw [same]
      apply keeps_refl sound name rfl
      simp [Step.alter, builder?, known]
  | some held =>
      have isIn := sound.isIn known
      have reads := session.memory.read_edit isIn call
      have altered : (Step.call name call : Step state).alter session.currentModel name
          (session.builder? name) = some ((session.memory.read held).edited call) := by
        simp [Step.alter, builder?, known]
      cases editing : session.memory.edit held call with
      | error fault =>
          have same : session.after driver (.call name call) =
              { session with
                setting :=
                  ((session.memory.read held).apply driver call session.setting).2.2 } := by
            simp only [after, known, editing]
          rw [editing] at reads
          have refused : call.edit (session.memory.read held).spec = .error fault := by
            cases outcome : call.edit (session.memory.read held).spec <;> rw [outcome] at reads
            · exact congrArg _ (Except.error.inj reads).symm
            · cases reads
          rw [same]
          apply Keeps.withSetting
          apply keeps_refl sound name rfl
          rw [altered, Builder.edited, refused]
          simp [builder?, known, Except.toOption]
      | ok result =>
          obtain ⟨next, memory⟩ := result
          have same : session.after driver (.call name call) =
              { ({ session with memory }.hold name next) with
                setting :=
                  ((session.memory.read held).apply driver call session.setting).2.2 } := by
            simp only [after, known, editing, hold]
          rw [editing] at reads
          have read : (session.memory.read held).edited call = memory.read next := by
            rw [Builder.edited]
            cases outcome : call.edit (session.memory.read held).spec <;> rw [outcome] at reads
            · cases reads
            · exact (Except.ok.inj reads).symm
          have changes := Memory.changesFor_edit isIn editing
          rw [same]
          apply Keeps.withSetting
          apply keeps_hold sound name rfl
          · simpa [fieldsOf?, conditionsOf?, known] using changes
          · rw [altered, read]

/-- A column is appended to the search fields of one query. -/
theorem keeps_addSearchField (field : Value) :
    Keeps (.addSearchField name field) session
      (session.after driver (.addSearchField name field)) := by
  cases known : session.held name with
  | none =>
      have same : session.after driver (.addSearchField name field) = session := by
        simp only [after, known]
      rw [same]
      apply keeps_refl sound name rfl
      simp [Step.alter, builder?, known]
  | some held =>
      have isIn := sound.isIn known
      let grown := { session with memory := session.memory.addSearchField held field }
      have same : session.after driver (.addSearchField name field) = grown.hold name held := by
        have still : grown.held name = some held := known
        rw [hold_of_held still]
        simp only [after, known, grown]
      rw [same]
      apply keeps_hold sound name rfl
      · simpa [fieldsOf?, conditionsOf?, known] using Memory.changesFor_addSearchField isIn field
      · simp [Step.alter, builder?, known, session.memory.read_addSearchField isIn]

/-- What any step leaves of a session. -/
theorem keeps_after
    (lasting : session.model.searchFields.isStream = false)
    (step : Step state) :
    Keeps step session (session.after driver step) := by
  cases step with
  | make name bound => exact keeps_make sound driver name lasting bound
  | call name call => exact keeps_call sound driver name call
  | addSearchField name field => exact keeps_addSearchField sound driver name field
  | elsewhere change =>
      exact ⟨⟨sound.fields, sound.conditions⟩, rfl, rfl, fun _ => rfl⟩

/-- After a run every query is what its own steps have made of it, and the model is the same. -/
theorem builder?_run
    (lasting : session.model.searchFields.isStream = false)
    (steps : List (Step state)) :
    (session.run driver steps).builder? name =
        steps.foldl (Step.alter session.currentModel name) (session.builder? name) ∧
      (session.run driver steps).currentModel = session.currentModel := by
  induction steps generalizing session with
  | nil => exact ⟨rfl, rfl⟩
  | cons step rest inductionHypothesis =>
      have keeps := keeps_after sound driver lasting step
      obtain ⟨made, model⟩ := inductionHypothesis keeps.sound (keeps.model ▸ lasting)
      rw [keeps.currentModel] at made model
      rw [keeps.builder?] at made
      exact ⟨made, model⟩

end After

/-! ## Runs from the start -/

/-- At the start there is no query, and the list of the model is nobody else's. -/
theorem isSound_start
    (model : Model)
    (setting : Setting state) :
    (start model setting).IsSound := by
  have fields : ∀ owner place, (start model setting).fieldsOf? owner = some place →
      owner = none ∧ place < (start model setting).memory.fields.length := by
    intro owner place given
    unfold start at given ⊢
    cases owner <;> cases fields : model.searchFields <;> simp_all [fieldsOf?]
  have conditions : ∀ owner, (start model setting).conditionsOf? owner = none := by
    intro owner
    unfold start
    cases owner <;> cases model.searchFields <;> rfl
  refine ⟨⟨fun owner place given => (fields owner place given).2, ?_⟩, ⟨?_, ?_⟩⟩
  · intro owner other place first second
    rw [(fields owner place first).1, (fields other place second).1]
  · intro owner place given
    rw [conditions owner] at given
    cases given
  · intro owner other place given
    rw [conditions owner] at given
    cases given

theorem currentModel_start
    (model : Model)
    (setting : Setting state) :
    (start model setting).currentModel = model := by
  cases model with
  | mk _ _ _ _ fields => cases fields <;> rfl

theorem model_start
    (model : Model)
    (setting : Setting state) :
    (start model setting).model = model := by
  unfold start
  split <;> rfl

theorem builder?_start
    (model : Model)
    (setting : Setting state)
    (name : String) :
    (start model setting).builder? name = none := by
  unfold start
  split <;> rfl

/-- After a run from the start every query is what its own steps have made of nothing, and the
model is the same. -/
theorem builder?_run_start
    (driver : Driver state)
    {model : Model}
    (lasting : model.searchFields.isStream = false)
    (setting : Setting state)
    (name : String)
    (steps : List (Step state)) :
    ((start model setting).run driver steps).builder? name =
        steps.foldl (Step.alter model name) none ∧
      ((start model setting).run driver steps).currentModel = model := by
  have lastingStart : (start model setting).model.searchFields.isStream = false := by
    rwa [model_start]
  have known := builder?_run (isSound_start model setting) driver name lastingStart steps
  rwa [currentModel_start, builder?_start] at known

/-- Each query of a session is what it would be if only its own steps had been made, and shows the
same statements.  At any point of the session the model gives the query that it gave at the
start. -/
theorem isolated_of_run
    (driver : Driver state)
    {model : Model}
    (lasting : model.searchFields.isStream = false)
    (setting : Setting state)
    (steps : List (Step state))
    (name : String) :
    let whole := (start model setting).run driver steps
    let alone := (start model setting).run driver (steps.filter (·.concerns name))
    whole.builder? name = alone.builder? name ∧
      (∀ builder ∈ whole.builder? name,
        (builder.apply driver .toSql whole.setting).2.1 =
            (builder.apply driver .toSql alone.setting).2.1 ∧
          (builder.apply driver .countSql whole.setting).2.1 =
            (builder.apply driver .countSql alone.setting).2.1) ∧
      ∀ earlier, earlier <+: steps →
        Builder.ofModel ((start model setting).run driver earlier).currentModel =
          Builder.ofModel model := by
  intro whole alone
  have built := builder?_run_start driver lasting setting name
  refine ⟨?_, ?_, ?_⟩
  · rw [(built steps).1, (built _).1, Step.foldl_alter_filter]
  · intro builder _
    simp only [Builder.apply_toSql, Builder.apply_countSql, and_self]
  · intro earlier _
    rw [(built earlier).2]

/-- A model of the staff whose names are searched. -/
def searchedStaff : Model :=
  { Execution.staffModel with searchFields := .list [.text "name"] }

/-- Steps of two queries in turns: search fields are appended to both and bound anew for one, a
direction is refused, and a driver fails. -/
def turns : List (Step Script) :=
  [.make "first" true, .make "second" true, .addSearchField "second" (.text "city"),
    .call "first" (.search (.text "Ann")), .call "second" (.order (.text "up")),
    .call "second" .first, .addSearchField "first" (.text "age"),
    .elsewhere fun setting => (setting.1.removeVariable "QUERY_LOG_SQL", setting.2),
    .call "second" (.bindSearchFields .none), .addSearchField "second" (.text "id"),
    .call "first" .find]

/-- The first query after its own steps. -/
def searching : Builder where
  model := searchedStaff
  spec :=
    { table := .text "staff"
      searchTerm := .text "Ann"
      searchFields := .list [.text "name", .text "age"] }

/-- The first query searches the columns that it has been given, and no others. -/
theorem isolated_of_run_turns :
    let driver := Script.driver Sql.doubleQuotes none
    let whole :=
      (start searchedStaff (Execution.verbose "app.log", Builder.prepared)).run driver turns
    searchedStaff.searchFields.isStream = false ∧
      ∃ builder, whole.builder? "first" = some builder ∧
        (builder.apply driver .toSql whole.setting).2.1 = .ok (.statement
          ("SELECT * FROM `staff` WHERE (`name` LIKE '%Ann%' OR `age` LIKE '%Ann%')" ++
            " ORDER BY `id` ASC")) := by
  intro driver whole
  have lasting : searchedStaff.searchFields.isStream = false := rfl
  have isolated := isolated_of_run driver lasting
    (Execution.verbose "app.log", Builder.prepared) turns "first"
  have alone : ((start searchedStaff (Execution.verbose "app.log", Builder.prepared)).run driver
      (turns.filter (·.concerns "first"))).builder? "first" = some searching := by
    rw [(builder?_run_start driver lasting _ "first" _).1]
    rfl
  refine ⟨lasting, _, isolated.1.trans alone, ?_⟩
  obtain ⟨statement, compiled, rfl⟩ := Except.exists_of_map_toOption
    (by decide +kernel : (Execution.statementBy driver searching.spec).toOption.map id =
      some ("SELECT * FROM `staff` WHERE (`name` LIKE '%Ann%' OR `age` LIKE '%Ann%')" ++
        " ORDER BY `id` ASC"))
  rw [Builder.apply_toSql, compiled]
  rfl

end Session
end TableQuery
