import TableQuery.Driver.Scripted
import TableQuery.Proofs.History
import TableQuery.Proofs.Recording

/-!
# Previews of statements

The statements that a driver is sent are those which the queries show beforehand: each call that
runs sends the statement of the query after it, once, and no other call sends one.
-/

namespace TableQuery

/-! ## Drivers that note statements -/

/-- A statement that a driver has been sent. -/
inductive Sent where
  | rows (statement : String)
  | value (statement : String)
deriving DecidableEq, Repr

namespace Driver

/-- Runs an action and notes what has been sent. -/
def note (sent : Sent) (action : Action state Value) : Action (state × List Sent) Value :=
  fun noted =>
    let (result, after) := action.run.run noted.1
    (result, (after, noted.2 ++ [sent]))

/-- The same driver, which also notes the statements that it is sent, the first one first. -/
def noting (driver : Driver state) : Driver (state × List Sent) where
  escape := driver.escape
  unboundedLimit := driver.unboundedLimit
  noteEscaped texts noted := (driver.noteEscaped texts noted.1, noted.2)
  selectRows statement := note (.rows statement) (driver.selectRows statement)
  selectValue statement := note (.value statement) (driver.selectValue statement)

/-- A driver does what another one does and notes each statement that it is sent, with its outcome. -/
structure Notes
    (noting : Driver (state × List remark))
    (driver : Driver state)
    (rows value : String → Except Fault Value → remark) : Prop where
  escape : noting.escape = driver.escape
  unboundedLimit : noting.unboundedLimit = driver.unboundedLimit
  noteEscaped : ∀ texts other earlier,
    noting.noteEscaped texts (other, earlier) = (driver.noteEscaped texts other, earlier)
  selectRows : ∀ statement other earlier,
    (noting.selectRows statement).runFrom (other, earlier) =
      (((driver.selectRows statement).runFrom other).1,
        (((driver.selectRows statement).runFrom other).2,
          earlier ++ [rows statement ((driver.selectRows statement).runFrom other).1]))
  selectValue : ∀ statement other earlier,
    (noting.selectValue statement).runFrom (other, earlier) =
      (((driver.selectValue statement).runFrom other).1,
        (((driver.selectValue statement).runFrom other).2,
          earlier ++ [value statement ((driver.selectValue statement).runFrom other).1]))

theorem notes_noting (driver : Driver state) :
    Notes driver.noting driver (fun statement _ => .rows statement)
      fun statement _ => .value statement :=
  ⟨rfl, rfl, fun _ _ _ => rfl, fun _ _ _ => rfl, fun _ _ _ => rfl⟩

end Driver

/-- An action does what another one does and makes notes on the way. -/
def Shadows
    (noting : Action (Setting (state × List remark)) α)
    (plain : Action (Setting state) α)
    (notes : Setting state → List remark) : Prop :=
  ∀ world other earlier, noting.runFrom (world, (other, earlier)) =
    ((plain.runFrom (world, other)).1,
      ((plain.runFrom (world, other)).2.1,
        ((plain.runFrom (world, other)).2.2, earlier ++ notes (world, other))))

namespace Shadows

section Steps

variable {state remark : Type}
  {noting : Action (Setting (state × List remark)) α}
  {plain : Action (Setting state) α}
  {notes : Setting state → List remark}

theorem congr
    (shadows : Shadows noting plain notes)
    {others : Setting state → List remark}
    (same : ∀ setting, notes setting = others setting) :
    Shadows noting plain others := by
  intro world other earlier
  rw [shadows world other earlier, same]

theorem map
    (shadows : Shadows noting plain notes)
    (f : α → β) :
    Shadows (f <$> noting) (f <$> plain) notes := by
  intro world other earlier
  simp [shadows world other earlier]

variable {notingNext : α → Action (Setting (state × List remark)) β}
  {plainNext : α → Action (Setting state) β}

/-- What two actions note one after the other. -/
theorem bind
    (first : Shadows noting plain notes)
    {notesNext : α → Setting state → List remark}
    (next : ∀ result, Shadows (notingNext result) (plainNext result) (notesNext result)) :
    Shadows (noting >>= notingNext) (plain >>= plainNext) fun setting =>
      notes setting ++
        match plain.runFrom setting with
        | (.ok result, after) => notesNext result after
        | (.error _, _) => [] := by
  intro world other earlier
  rw [ExceptT.runFrom_bind, ExceptT.runFrom_bind, first world other earlier]
  rcases ran : plain.runFrom (world, other) with ⟨fault | result, after, last⟩
  · simp [ran]
  · simp only [ran, next result after last, List.append_assoc]

/-- For a result that is known beforehand there is no note. -/
theorem bind_lift
    (first : Shadows noting plain notes)
    (outcome : α → Except Fault β) :
    Shadows (noting >>= fun result => liftM (outcome result))
      (plain >>= fun result => liftM (outcome result)) notes := by
  have known : ∀ result,
      Shadows (liftM (outcome result) : Action (Setting (state × List remark)) β)
        (liftM (outcome result) : Action (Setting state) β) fun _ => [] := by
    intro result world other earlier
    simp
  refine (first.bind known).congr fun setting => ?_
  rcases plain.runFrom setting with ⟨fault | result, after⟩ <;> simp

end Steps

end Shadows

namespace Execution

open Log

variable {state : Type}
  (driver : Driver state)
  (model : Model)
  (spec : Spec)

/-- The statement that a driver is sent for the rows of a specification. -/
def statementBy : Except Fault String :=
  (Sql.compile spec driver.escape).outcome.map fun clauses =>
    Sql.selectStatement spec.table clauses driver.unboundedLimit

/-- The statement that a driver is sent for the count of a specification. -/
def countStatementBy : Except Fault String :=
  (Sql.compileWhere spec driver.escape).outcome.map (Sql.countStatement spec.table)

theorem runFrom_compiledBy
    (compilation : Sql.Compilation α)
    (setting : Setting state) :
    (compiled driver compilation).runFrom setting =
      (compilation.outcome, (setting.1, driver.noteEscaped compilation.escaped setting.2)) := by
  unfold compiled
  rw [ExceptT.runFrom_bind, ExceptT.runFrom_modify]
  exact ExceptT.runFrom_lift compilation.outcome _

theorem runFrom_selectSqlBy (setting : Setting state) :
    (selectSql driver spec).runFrom setting =
      (statementBy driver spec,
        (setting.1,
          driver.noteEscaped (Sql.compile spec driver.escape).escaped setting.2)) := by
  unfold selectSql statementBy
  rw [ExceptT.runFrom_bind, runFrom_compiledBy]
  cases (Sql.compile spec driver.escape).outcome <;> rfl

theorem runFrom_countSqlBy (setting : Setting state) :
    (countSql driver spec).runFrom setting =
      (countStatementBy driver spec,
        (setting.1,
          driver.noteEscaped (Sql.compileWhere spec driver.escape).escaped setting.2)) := by
  unfold countSql countStatementBy
  rw [ExceptT.runFrom_bind, runFrom_compiledBy]
  cases (Sql.compileWhere spec driver.escape).outcome <;> rfl

/-- What a driver replies to the statement for the rows of a specification. -/
def rowsReply (statement : String) (other : state) : Except Fault Value :=
  ((driver.selectRows statement).runFrom
    (driver.noteEscaped (Sql.compile spec driver.escape).escaped other)).1

/-- What a driver replies to the statement for the count of a specification. -/
def valueReply (statement : String) (other : state) : Except Fault Value :=
  ((driver.selectValue statement).runFrom
    (driver.noteEscaped (Sql.compileWhere spec driver.escape).escaped other)).1

/-- What is noted of a statement that may not have been compiled: one note, where it has been and can
be announced. -/
def sends (note : String → remark) (compiled : Except Fault String) (setting : Setting state) :
    List remark :=
  match compiled with
  | .ok statement =>
    match (announce statement).runFrom setting.1 with
    | (.ok _, _) => [note statement]
    | (.error _, _) => []
  | .error _ => []

section Notes

variable {driver}
  {remark : Type}
  {noting : Driver (state × List remark)}
  {rows value : String → Except Fault Value → remark}
  (notes : Driver.Notes noting driver rows value)

include notes

theorem shadows_selectSql :
    Shadows (selectSql noting spec) (selectSql driver spec) fun _ => [] := by
  intro world other earlier
  have same : statementBy noting spec = statementBy driver spec := by
    rw [statementBy, notes.escape, notes.unboundedLimit, statementBy]
  rw [runFrom_selectSqlBy, runFrom_selectSqlBy, same, notes.escape, notes.noteEscaped,
    List.append_nil]

theorem shadows_countSql :
    Shadows (countSql noting spec) (countSql driver spec) fun _ => [] := by
  intro world other earlier
  have same : countStatementBy noting spec = countStatementBy driver spec := by
    rw [countStatementBy, notes.escape, countStatementBy]
  rw [runFrom_countSqlBy, runFrom_countSqlBy, same, notes.escape, notes.noteEscaped,
    List.append_nil]

omit notes in
/-- A statement is noted if and only if it has been announced. -/
theorem shadows_run
    {method : String → Action state Value}
    {notingMethod : String → Action (state × List remark) Value}
    {hears : String → Except Fault Value → remark}
    (noted : ∀ statement other earlier,
      (notingMethod statement).runFrom (other, earlier) =
        (((method statement).runFrom other).1,
          (((method statement).runFrom other).2,
            earlier ++ [hears statement ((method statement).runFrom other).1])))
    (statement : String) :
    Shadows (run notingMethod statement) (run method statement) fun setting =>
      sends (fun statement => hears statement ((method statement).runFrom setting.2).1)
        (.ok statement) setting := by
  intro world other earlier
  rw [runFrom_run, runFrom_run]
  rcases announced : (announce statement).runFrom world with ⟨fault | _, ready⟩
  · simp [sends, announced]
  · simp only [sends, announced, ExceptT.runFrom_tryCatch, Setting.runFrom_onOther, noted]
    rcases (method statement).runFrom other with ⟨fault | result, last⟩
    · simp only [ExceptT.runFrom_bind, Setting.runFrom_onWorld]
      rcases (recordFault statement fault).runFrom ready with ⟨_ | _, world⟩ <;> rfl
    · rfl

/-- To fetch rows sends the statement for them once, if it can be compiled and announced. -/
theorem shadows_find :
    Shadows (find noting model spec) (find driver model spec) fun setting =>
      sends (fun statement => rows statement (rowsReply driver spec statement setting.2))
        (statementBy driver spec) setting := by
  have whole := (shadows_selectSql spec notes).bind fun statement =>
    (shadows_run notes.selectRows statement).bind_lift (hydrateAll model)
  refine whole.congr fun setting => ?_
  rw [runFrom_selectSqlBy]
  cases statementBy driver spec <;> rfl

/-- To count rows sends the statement for that once, if it can be compiled and announced. -/
theorem shadows_totalCount :
    Shadows (totalCount noting spec) (totalCount driver spec) fun setting =>
      sends (fun statement => value statement (valueReply driver spec statement setting.2))
        (countStatementBy driver spec) setting := by
  have whole := (shadows_countSql spec notes).bind fun statement =>
    (shadows_run notes.selectValue statement).bind_lift countOf
  refine whole.congr fun setting => ?_
  rw [runFrom_countSqlBy]
  cases countStatementBy driver spec <;> rfl

end Notes

/-! ## Worlds between runs -/

/-- A world in which settings have been loaded and every statement can be announced. -/
structure IsReady (world : World) : Prop where
  loaded : world.settings.loaded
  takes : TakesStatements world

/-- An action after which a world is ready if it was so before, whatever comes of the action. -/
def KeepsReady (action : Action (Setting state) α) : Prop :=
  ∀ setting, IsReady setting.1 → IsReady (action.runFrom setting).2.1

theorem keepsReady_lift (outcome : Except Fault α) :
    KeepsReady (liftM outcome : Action (Setting state) α) := by
  intro setting ready
  rwa [ExceptT.runFrom_lift]

theorem keepsReady_map
    {action : Action (Setting state) α}
    (keeps : KeepsReady action)
    (f : α → β) :
    KeepsReady (f <$> action) := by
  intro setting ready
  rw [ExceptT.runFrom_map]
  exact keeps setting ready

theorem keepsReady_bind
    {action : Action (Setting state) α}
    (first : KeepsReady action)
    {next : α → Action (Setting state) β}
    (rest : ∀ result, KeepsReady (next result)) :
    KeepsReady (action >>= next) := by
  intro setting ready
  have between := first setting ready
  rw [ExceptT.runFrom_bind]
  rcases ran : action.runFrom setting with ⟨fault | result, after⟩
  · rwa [ran] at between
  · rw [ran] at between
    exact rest result after between

theorem keepsReady_selectSql : KeepsReady (selectSql driver spec) := by
  intro setting ready
  rwa [runFrom_selectSqlBy]

theorem keepsReady_countSql : KeepsReady (countSql driver spec) := by
  intro setting ready
  rwa [runFrom_countSqlBy]

theorem keepsReady_run
    (method : String → Action state Value)
    (statement : String) :
    KeepsReady (run method statement) := by
  intro setting ready
  have loaded := loaded_of_announce ready.loaded statement
  obtain ⟨world, announced⟩ := ready.takes statement
  rw [announced] at loaded
  have takes := (takesStatements_of_announce announced).2
  rw [runFrom_run, announced]
  simp only [ExceptT.runFrom_tryCatch, Setting.runFrom_onOther]
  rcases (method statement).runFrom setting.2 with ⟨fault | result, other⟩
  · have recorded : IsReady ((recordFault statement fault).runFrom world).2 :=
      ⟨loaded_of_recordFault loaded statement fault,
        takesStatements_of_recordFault loaded takes statement fault⟩
    simp only [ExceptT.runFrom_bind, Setting.runFrom_onWorld]
    rcases ran : (recordFault statement fault).runFrom world with ⟨_ | _, after⟩ <;>
      rw [ran] at recorded <;> exact recorded
  · exact ⟨loaded, takes⟩

theorem keepsReady_find : KeepsReady (find driver model spec) :=
  keepsReady_bind (keepsReady_selectSql driver spec) fun statement =>
    keepsReady_bind (keepsReady_run driver.selectRows statement) fun rows =>
      keepsReady_lift (hydrateAll model rows)

theorem keepsReady_totalCount : KeepsReady (totalCount driver spec) :=
  keepsReady_bind (keepsReady_countSql driver spec) fun statement =>
    keepsReady_bind (keepsReady_run driver.selectValue statement) fun value =>
      keepsReady_lift (countOf value)

/-- In a ready world every statement that can be compiled is sent. -/
theorem sends_of_isReady
    {setting : Setting state}
    (ready : IsReady setting.1)
    (note : String → remark)
    (compiled : Except Fault String) :
    sends note compiled setting =
      match compiled with
      | .ok statement => [note statement]
      | .error _ => [] := by
  cases compiled with
  | error fault => rfl
  | ok statement =>
      obtain ⟨world, announced⟩ := ready.takes statement
      simp only [sends, announced]

/-- Where statements cannot be announced, nothing is sent. -/
theorem sends_of_lost
    {setting : Setting state}
    (lost : ¬ TakesStatements setting.1)
    (note : String → remark)
    (compiled : Except Fault String) :
    sends note compiled setting = [] := by
  cases compiled with
  | error fault => rfl
  | ok statement =>
      rcases announced : (announce statement).runFrom setting.1 with ⟨fault | _, after⟩
      · simp only [sends, announced]
      · exact absurd (takesStatements_of_announce announced).1 lost

end Execution

/-! ## Calls -/

open Execution

variable {state : Type}

/-- What a call sends. -/
def Call.sends (driver : Driver state) (spec : Spec) : Call → Setting state → List Sent
  | .find | .first | .paginate _ _ => Execution.sends .rows (statementBy driver spec)
  | .totalCount => Execution.sends .value (countStatementBy driver spec)
  | _ => fun _ => []

theorem Call.shadows_answer
    (driver : Driver state)
    (model : Model)
    (spec : Spec)
    (call : Call) :
    Shadows (call.answer driver.noting model spec) (call.answer driver model spec)
      (call.sends driver spec) := by
  have notes := driver.notes_noting
  cases call with
  | toSql => exact (shadows_selectSql spec notes).map _
  | countSql => exact (shadows_countSql spec notes).map _
  | find => exact (shadows_find model spec notes).map _
  | totalCount => exact (shadows_totalCount spec notes).map _
  | first => exact (shadows_find model spec notes).map _
  | paginate page perPage => exact (shadows_find model spec notes).map _
  | _ =>
      intro world other sent
      simp [Call.answer, Call.sends]

theorem Call.keepsReady_answer
    (driver : Driver state)
    (model : Model)
    (spec : Spec)
    (call : Call) :
    KeepsReady (call.answer driver model spec) := by
  cases call with
  | toSql => exact keepsReady_map (keepsReady_selectSql driver spec) _
  | countSql => exact keepsReady_map (keepsReady_countSql driver spec) _
  | find => exact keepsReady_map (keepsReady_find driver model spec) _
  | totalCount => exact keepsReady_map (keepsReady_totalCount driver spec) _
  | first => exact keepsReady_map (keepsReady_find driver model spec) _
  | paginate page perPage => exact keepsReady_map (keepsReady_find driver model spec) _
  | _ => exact fun setting ready => ready

namespace Builder

/-- The statement that a call is to send: the one that the query shows after the call, if the call
runs and the query shows one. -/
def previews (driver : Driver state) (call : Call) (builder : Builder) (setting : Setting state) :
    List Sent :=
  match call with
  | .find | .first | .paginate _ _ =>
    match (builder.apply driver .toSql setting).2.1 with
    | .ok (.statement statement) => [.rows statement]
    | _ => []
  | .totalCount =>
    match (builder.apply driver .countSql setting).2.1 with
    | .ok (.statement statement) => [.value statement]
    | _ => []
  | _ => []

/-- The statements that calls are to send, one after the other. -/
def previewsOf (driver : Driver state) : List Call → Builder → Setting state → List Sent
  | [], _, _ => []
  | call :: calls, builder, setting =>
    let (next, _, after) := builder.apply driver call setting
    previews driver call next after ++ previewsOf driver calls next after

theorem apply_toSql
    (driver : Driver state)
    (builder : Builder)
    (setting : Setting state) :
    (builder.apply driver .toSql setting).2.1 =
      (statementBy driver builder.spec).map .statement := by
  have edited : Call.toSql.edit builder.spec = .ok builder.spec := rfl
  simp only [apply_of_edit driver edited, Call.answer, ExceptT.runFrom_map, runFrom_selectSqlBy]

theorem apply_countSql
    (driver : Driver state)
    (builder : Builder)
    (setting : Setting state) :
    (builder.apply driver .countSql setting).2.1 =
      (countStatementBy driver builder.spec).map .statement := by
  have edited : Call.countSql.edit builder.spec = .ok builder.spec := rfl
  simp only [apply_of_edit driver edited, Call.answer, ExceptT.runFrom_map, runFrom_countSqlBy]

/-- In a ready world a call sends what the query shows after it. -/
theorem sends_eq_previews
    (driver : Driver state)
    (call : Call)
    (builder : Builder)
    (setting : Setting state)
    (ready : IsReady setting.1)
    (after : Setting state) :
    call.sends driver builder.spec setting = previews driver call builder after := by
  have rows := sends_of_isReady ready Sent.rows (statementBy driver builder.spec)
  have values := sends_of_isReady ready Sent.value (countStatementBy driver builder.spec)
  cases call with
  | find | first | paginate =>
      simp only [Call.sends, previews, rows, apply_toSql]
      cases statementBy driver builder.spec <;> rfl
  | totalCount =>
      simp only [Call.sends, previews, values, apply_countSql]
      cases countStatementBy driver builder.spec <;> rfl
  | _ => rfl

/-- A call that refuses its arguments is to send nothing. -/
theorem previews_of_edit_error
    (driver : Driver state)
    {call : Call}
    {spec : Spec}
    {fault : Fault}
    (refused : call.edit spec = .error fault)
    (builder : Builder)
    (setting : Setting state) :
    previews driver call builder setting = [] := by
  cases call with
  | find | first | paginate | totalCount => cases refused
  | _ => rfl

/-- A call that is noted does what it does otherwise, and sends what the query shows after it. -/
theorem apply_noting
    (driver : Driver state)
    (builder : Builder)
    (call : Call)
    {world : World}
    (ready : IsReady world)
    (other : state)
    (sent : List Sent) :
    let ran := builder.apply driver call (world, other)
    builder.apply driver.noting call (world, (other, sent)) =
        (ran.1, ran.2.1, (ran.2.2.1, (ran.2.2.2, sent ++ previews driver call ran.1 ran.2.2))) ∧
      IsReady ran.2.2.1 := by
  intro ran
  have applied : ran = builder.apply driver call (world, other) := rfl
  unfold apply at applied ⊢
  cases edited : call.edit builder.spec with
  | error fault =>
      simp only [edited] at applied
      rw [applied]
      simp only [previews_of_edit_error driver edited, List.append_nil]
      exact ⟨trivial, ready⟩
  | ok spec =>
      have shadows := call.shadows_answer driver builder.model spec world other sent
      have keeps := call.keepsReady_answer driver builder.model spec (world, other) ready
      simp only [edited, ExceptT.run_run] at applied
      simp only [ExceptT.run_run, shadows]
      rw [applied]
      refine ⟨?_, keeps⟩
      rw [← sends_eq_previews driver call { builder with spec } (world, other) ready]

/-- Calls that are noted do what they do otherwise, and the driver is sent exactly the statements
that the query shows after each of them, in their order. -/
theorem applyAll_noting
    (driver : Driver state)
    (calls : List Call)
    (builder : Builder)
    {world : World}
    (ready : IsReady world)
    (other : state)
    (sent : List Sent) :
    let ran := applyAll driver calls builder (world, other)
    applyAll driver.noting calls builder (world, (other, sent)) =
      (ran.1, ran.2.1,
        (ran.2.2.1, (ran.2.2.2, sent ++ previewsOf driver calls builder (world, other)))) := by
  induction calls generalizing builder world other sent with
  | nil => simp [applyAll, previewsOf]
  | cons call rest inductionHypothesis =>
      obtain ⟨noted, readyAfter⟩ := apply_noting driver builder call ready other sent
      rcases applied : builder.apply driver call (world, other) with ⟨next, answer, after, last⟩
      simp only [applied] at noted readyAfter
      have others := inductionHypothesis next readyAfter last
        (sent ++ previews driver call next (after, last))
      simp only [applyAll, noted, applied, previewsOf, others, List.append_assoc]

/-- Where statements cannot be announced, nothing is sent for rows. -/
theorem sent_find_of_lost
    (driver : Driver state)
    (builder : Builder)
    {world : World}
    (lost : ¬ TakesStatements world)
    (other : state) :
    (applyAll driver.noting [.find] builder (world, (other, []))).2.2.2.2 = [] := by
  have silent : Call.find.sends driver builder.spec (world, other) = [] :=
    sends_of_lost lost _ _
  have shadows := Call.find.shadows_answer driver builder.model builder.spec world other []
  rw [silent] at shadows
  simp only [applyAll, apply, Call.edit]
  rw [ExceptT.run_run, shadows]
  rfl

/-- What a call for rows is to send. -/
theorem previewsOf_find
    (driver : Driver state)
    (builder : Builder)
    (setting : Setting state) :
    previewsOf driver [.find] builder setting =
      match statementBy driver builder.spec with
      | .ok statement => [.rows statement]
      | .error _ => [] := by
  have unchanged : (builder.apply driver .find setting).1 = builder := rfl
  simp only [previewsOf, previews, apply_toSql, unchanged, List.append_nil]
  cases statementBy driver builder.spec <;> rfl

/-- A failure of a driver. -/
def outage : Failure where
  kind := .runtime
  arguments := [.text "lost"]
  traced := true
  cause := none

/-- A driver that has been prepared to fail once and to count wrongly once. -/
def prepared : Script where
  rows := [.failure outage]
  values := [.value (.text "two")]

/-- A query for all staff. -/
def ofStaff : Builder where
  model := staffModel
  spec := { table := .text "staff" }

/-- Where settings and the memory of entries have been set up and the log file accepts what is to be
logged, a driver is sent exactly the statements that the query shows after each call that runs,
whatever it replies.  To note them changes nothing else. -/
theorem sent_of_applyAll
    (driver : Driver state)
    (calls : List Call)
    (builder : Builder)
    (setting : Setting state)
    (loaded : setting.1.settings.loaded)
    (initialized : setting.1.log.initialized)
    (accepts : asksForLog setting.1 → Log.Accepts setting.1 .debug) :
    let ran := applyAll driver calls builder setting
    applyAll driver.noting calls builder (setting.1, (setting.2, [])) =
      (ran.1, ran.2.1,
        (ran.2.2.1, (ran.2.2.2, previewsOf driver calls builder setting))) := by
  have takes : TakesStatements setting.1 :=
    (takesStatements_iff loaded).mpr fun asks => ⟨.inl initialized, accepts asks⟩
  exact applyAll_noting driver calls builder ⟨loaded, takes⟩ setting.2 []

/-- A failure and a wrong count change nothing in what is sent, and a refused direction sends
nothing. -/
theorem sent_of_applyAll_verbose :
    (applyAll (Script.driver Sql.doubleQuotes none).noting
        [.find, .totalCount, .toSql, .order (.text "up"), .paginate (.int 2) (.int 3)]
        ofStaff (verbose "app.log", (prepared, []))).2.2.2.2 =
      [.rows "SELECT * FROM `staff` ORDER BY `id` ASC", .value "SELECT COUNT(*) FROM `staff`",
        .rows "SELECT * FROM `staff` ORDER BY `id` ASC LIMIT 3 OFFSET 3"] := by
  rw [sent_of_applyAll (Script.driver Sql.doubleQuotes none) _ ofStaff (verbose "app.log", prepared)
    rfl rfl fun _ => accepts_verbose]
  decide +kernel

/-- A log file below too many directories keeps a statement from being sent. -/
theorem not_sent_of_nested :
    (verbose (Files.nested 1500)).settings.loaded ∧
      (verbose (Files.nested 1500)).log.initialized ∧
      (applyAll (Script.driver Sql.doubleQuotes none).noting [.find] ofStaff
        (verbose (Files.nested 1500), (prepared, []))).2.2.2.2 = [] ∧
      previewsOf (Script.driver Sql.doubleQuotes none) [.find] ofStaff
          (verbose (Files.nested 1500), prepared) =
        [.rows "SELECT * FROM `staff` ORDER BY `id` ASC"] := by
  have known : statementBy (Script.driver Sql.doubleQuotes none) ofStaff.spec =
    .ok "SELECT * FROM `staff` ORDER BY `id` ASC" := rfl
  have lost : ¬ TakesStatements (verbose (Files.nested 1500)) :=
    not_takesStatements_nested (by decide : Files.nestingLimit < 1500)
  generalize Files.nested 1500 = path at lost ⊢
  refine ⟨rfl, rfl, ?_, ?_⟩
  · exact sent_find_of_lost (Script.driver Sql.doubleQuotes none) ofStaff lost prepared
  · rw [previewsOf_find, known]

end Builder
end TableQuery
