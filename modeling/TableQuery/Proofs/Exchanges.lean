import TableQuery.Proofs.Previews

/-!
# Exchanges with drivers

Of a call for rows or for a count, the records keep the exchange with the driver and nothing else:
the statement where the settings ask for that, and the failure of the driver where there is one.  An
interrupt is no failure, and a failure whose message cannot be written has no log entry.
-/

namespace TableQuery

/-- A statement that a driver has been sent, and what has come of it. -/
structure Exchange where
  statement : String
  outcome : Except Fault Value

namespace Exchange

/-- The failure of the driver, where there is one.  What else may end a run, such as an interrupt, is
not a failure. -/
def failure? (exchange : Exchange) : Option Failure :=
  match exchange.outcome with
  | .ok _ => none
  | .error fault => if fault.kind.isA .general then some fault.toFailure else none

/-- The log entries about an exchange: one for the statement where that is asked for, and then one
for a failure whose message can be written. -/
def entries (asked : Bool) (exchange : Exchange) : List (Severity × Value) :=
  (if asked then [(.debug, .text ("[Query] " ++ exchange.statement))] else []) ++
    (exchange.failure?.toList.filter fun failure => Log.IsPrintable failure).map fun failure =>
      (.error, .text ("[Query] " ++ exchange.statement ++ ": " ++ failure.kind.name ++ ": " ++
        failure.message ++ "\n" ++ failure.report))

end Exchange

namespace Driver

/-- Runs a statement and notes the exchange. -/
def hear (method : String → Action state Value) (statement : String) :
    Action (state × List Exchange) Value :=
  fun heard =>
    let (outcome, after) := (method statement).run.run heard.1
    (outcome, (after, heard.2 ++ [⟨statement, outcome⟩]))

/-- The same driver, whose exchanges are noted, the first one first. -/
def overheard (driver : Driver state) : Driver (state × List Exchange) where
  escape := driver.escape
  unboundedLimit := driver.unboundedLimit
  noteEscaped texts heard := (driver.noteEscaped texts heard.1, heard.2)
  selectRows := hear driver.selectRows
  selectValue := hear driver.selectValue

theorem notes_overheard (driver : Driver state) :
    Notes driver.overheard driver Exchange.mk Exchange.mk :=
  ⟨rfl, rfl, fun _ _ _ => rfl, fun _ _ _ => rfl, fun _ _ _ => rfl⟩

end Driver

namespace LogMemory

/-- Remembers entries one after the other. -/
def pushAll (entries : List (Severity × Value)) (memory : LogMemory) : LogMemory :=
  entries.foldl (fun memory entry => memory.push entry) memory

theorem pushAll_append
    (entries more : List (Severity × Value))
    (memory : LogMemory) :
    memory.pushAll (entries ++ more) = (memory.pushAll entries).pushAll more :=
  List.foldl_append

theorem initialized_pushAll
    (entries : List (Severity × Value))
    (memory : LogMemory) :
    (memory.pushAll entries).initialized = memory.initialized := by
  induction entries generalizing memory with
  | nil => rfl
  | cons entry rest inductionHypothesis => exact inductionHypothesis (memory.push entry)

end LogMemory

namespace Log

open Execution

/-! ## Growth of the records -/

/-- Between two worlds the records have grown by some failures and by some entries, and neither
settings nor variables have changed. -/
structure Grows
    (failures : List Failure)
    (entries : List (Severity × Value))
    (before after : World) : Prop where
  settings : after.settings = before.settings
  environment : after.environment = before.environment
  initialized : after.errors.initialized = before.errors.initialized
  failures : after.errors.failures = before.errors.failures ++ failures
  log : after.log = before.log.pushAll entries
  accepts : Accepts before .debug → Accepts after .debug

namespace Grows

variable {failures moreFailures : List Failure}
  {entries moreEntries : List (Severity × Value)}
  {before between after : World}

theorem refl (world : World) : Grows [] [] world world where
  settings := rfl
  environment := rfl
  initialized := rfl
  failures := (List.append_nil _).symm
  log := rfl
  accepts := id

theorem trans
    (first : Grows failures entries before between)
    (next : Grows moreFailures moreEntries between after) :
    Grows (failures ++ moreFailures) (entries ++ moreEntries) before after where
  settings := next.settings.trans first.settings
  environment := next.environment.trans first.environment
  initialized := next.initialized.trans first.initialized
  failures := by rw [next.failures, first.failures, List.append_assoc]
  log := by rw [next.log, first.log, LogMemory.pushAll_append]
  accepts := next.accepts ∘ first.accepts

theorem initialized_log
    (grows : Grows failures entries before after)
    (initialized : before.log.initialized) :
    after.log.initialized := by
  rw [grows.log, LogMemory.initialized_pushAll]
  exact initialized

end Grows

/-- An entry is remembered whatever comes of its line, and no failure is. -/
theorem grows_record
    {world : World}
    (loaded : world.settings.loaded)
    (initialized : world.log.initialized)
    (severity : Severity)
    (message : Value) :
    Grows [] [(severity, message)] world ((record severity message).runFrom world).2 := by
  have loadedAgain : ∀ log : LogMemory, ({ world with log } : World).settings.loaded :=
    fun _ => loaded
  have accepts := fun accepts : Accepts world .debug =>
    accepts_past_record loaded (.inl initialized) accepts severity message
  rw [runFrom_record, runFrom_ensureInitialized_of_initialized initialized] at accepts ⊢
  obtain ⟨tree, diagnosis, same⟩ :=
    write_frame (loadedAgain (world.log.push (severity, message))) severity message
  simp only [same] at accepts ⊢
  exact ⟨rfl, rfl, rfl, (List.append_nil _).symm, rfl, accepts⟩

/-- A failure is remembered, and an entry for it if its message can be written, whatever comes of the
line of the entry. -/
theorem grows_recordFailure
    {world : World}
    (loaded : world.settings.loaded)
    (initialized : world.log.initialized)
    (ready : world.errors.initialized)
    (failure : Failure)
    (context : Value) :
    Grows [failure]
      (([failure].filter fun failure => IsPrintable failure).map fun failure =>
        (.error, .text (failureMessage failure context)))
      world ((recordFailure failure context).runFrom world).2 := by
  have keeps : Grows [failure] [] world (kept failure world) := by
    rw [kept_of_initialized ready]
    exact ⟨rfl, rfl, rfl, rfl, rfl, id⟩
  by_cases printable : IsPrintable failure
  · rw [runFrom_recordFailure_of_printable loaded printable,
      List.filter_cons_of_pos (by simpa using printable)]
    obtain ⟨diagnosis, same⟩ := noted_eq failure world
    have notes : Grows [failure] [] world (noted failure world) := by
      rw [same]
      exact { keeps with }
    have loadedNoted : (noted failure world).settings.loaded := notes.settings ▸ loaded
    exact notes.trans (grows_record loadedNoted (notes.initialized_log initialized) _ _)
  · obtain ⟨fault, failed⟩ := runFrom_recordFailure_of_not_printable loaded printable context
    rw [failed, List.filter_cons_of_neg (by simpa using printable)]
    exact keeps

end Log

namespace Execution

open Log

variable {state : Type}

/-- A statement is remembered where the settings ask for that, whatever comes of its line. -/
theorem grows_announce
    {world : World}
    (loaded : world.settings.loaded)
    (initialized : world.log.initialized)
    (statement : String) :
    Grows [] (if asksForLog world then [(.debug, mark statement)] else []) world
      ((announce statement).runFrom world).2 := by
  rw [runFrom_announce, Settings.runFrom_load_of_loaded loaded]
  by_cases asks : asksForLog world
  · simp only [asks, if_true]
    exact grows_record loaded initialized .debug (mark statement)
  · simp only [asks, if_false, Bool.false_eq_true]
    exact Grows.refl world

theorem failureMessage_mark
    (failure : Failure)
    (statement : String) :
    failureMessage failure (mark statement) =
      "[Query] " ++ statement ++ ": " ++ failure.kind.name ++ ": " ++ failure.message ++ "\n" ++
        failure.report := by
  have shown : (mark statement).truthy = true := by
    rw [mark, Value.truthy, bne_iff_ne]
    simp
  have text : (mark statement).display = "[Query] " ++ statement := rfl
  rw [failureMessage, if_pos shown, text, Failure.summary]
  simp only [String.append_assoc]

/-- The exchange over a statement that a driver is sent. -/
def exchangeOver (method : String → Action state Value) (statement : String) (other : state) :
    Exchange :=
  ⟨statement, ((method statement).runFrom other).1⟩

/-- Of an exchange that has ended with a fault the failure is recorded, where it is one. -/
theorem grows_recordFault
    {world : World}
    (loaded : world.settings.loaded)
    (initialized : world.log.initialized)
    (ready : world.errors.initialized)
    (statement : String)
    (fault : Fault) :
    Grows (Exchange.failure? ⟨statement, .error fault⟩).toList
      (Exchange.entries false ⟨statement, .error fault⟩) world
      ((recordFault statement fault).runFrom world).2 := by
  rw [runFrom_recordFault]
  by_cases general : fault.kind.isA .general
  · have failure : Exchange.failure? ⟨statement, .error fault⟩ = some fault.toFailure :=
      if_pos general
    rw [if_pos general, Exchange.entries, failure]
    have recorded := grows_recordFailure loaded initialized ready fault.toFailure (mark statement)
    simp only [failureMessage_mark] at recorded
    exact recorded
  · have failure : Exchange.failure? ⟨statement, .error fault⟩ = none := if_neg general
    rw [if_neg general, Exchange.entries, failure]
    exact Grows.refl world

/-- A statement that can be announced is run, and the exchange over it is recorded. -/
theorem grows_run
    {world : World}
    (loaded : world.settings.loaded)
    (initialized : world.log.initialized)
    (ready : world.errors.initialized)
    (takes : TakesStatements world)
    (method : String → Action state Value)
    (statement : String)
    (other : state) :
    Grows (exchangeOver method statement other).failure?.toList
      ((exchangeOver method statement other).entries (asksForLog world)) world
      ((run method statement).runFrom (world, other)).2.1 := by
  have announces := grows_announce loaded initialized statement
  obtain ⟨middle, announced⟩ := takes statement
  rw [announced] at announces
  rw [runFrom_run, announced, exchangeOver, Exchange.entries]
  simp only [ExceptT.runFrom_tryCatch, Setting.runFrom_onOther]
  rcases (method statement).runFrom other with ⟨fault | result, last⟩
  · have recorded := grows_recordFault (announces.settings ▸ loaded)
      (announces.initialized_log initialized) (announces.initialized.trans ready) statement fault
    simp only [ExceptT.runFrom_bind, Setting.runFrom_onWorld]
    rcases ran : (recordFault statement fault).runFrom middle with ⟨_ | _, after⟩
    all_goals
      rw [ran] at recorded
      exact announces.trans recorded
  · exact announces.trans (Grows.refl middle)

/-- A call compiles its statement and runs it; where there is no statement, nothing is recorded. -/
theorem grows_call
    {world : World}
    (loaded : world.settings.loaded)
    (initialized : world.log.initialized)
    (ready : world.errors.initialized)
    (takes : TakesStatements world)
    {compiles : Action (Setting state) String}
    {compiled : Except Fault String}
    {other noted : state}
    (ran : compiles.runFrom (world, other) = (compiled, (world, noted)))
    (method : String → Action state Value)
    (finish : Value → Except Fault α) :
    let exchange? := compiled.toOption.map fun statement => exchangeOver method statement noted
    Grows (exchange?.toList.filterMap Exchange.failure?)
      (exchange?.toList.flatMap (Exchange.entries (asksForLog world))) world
      ((do
          let statement ← compiles
          let value ← run method statement
          (finish value : Except Fault α)).runFrom (world, other)).2.1 := by
  rw [ExceptT.runFrom_bind, ran]
  cases compiled with
  | error fault => exact Grows.refl world
  | ok statement =>
      have grows := grows_run loaded initialized ready takes method statement noted
      simp only [ExceptT.runFrom_bind]
      rcases ran : (run method statement).runFrom (world, noted) with ⟨fault | value, after⟩
      all_goals
        rw [ran] at grows
        simpa [Except.toOption, List.filterMap_eq_flatMap_toList] using grows

end Execution

/-! ## Errands -/

open Execution

/-- What a caller does with drivers that share a state, and with the setting that asks for statements
to be logged. -/
inductive Errand (state : Type) where
  | find (driver : Driver state) (model : Model) (spec : Spec)
  | totalCount (driver : Driver state) (spec : Spec)
  /-- The setting is given a value, or removed. -/
  | setLogging (value : Option String)

namespace Errand

variable {state : Type}

/-- What is there after an errand, whatever comes of it. -/
def after (setting : Setting state) : Errand state → Setting state
  | .find driver model spec => ((Execution.find driver model spec).runFrom setting).2
  | .totalCount driver spec => ((Execution.totalCount driver spec).runFrom setting).2
  | .setLogging (some value) => (setting.1.assignVariable "QUERY_LOG_SQL" value, setting.2)
  | .setLogging none => (setting.1.removeVariable "QUERY_LOG_SQL", setting.2)

/-- The same errand with a driver whose exchanges are noted. -/
def overheard : Errand state → Errand (state × List Exchange)
  | .find driver model spec => .find driver.overheard model spec
  | .totalCount driver spec => .totalCount driver.overheard spec
  | .setLogging value => .setLogging value

/-- The exchange of an errand: a call has one if its statement can be compiled. -/
def exchange? (other : state) : Errand state → Option Exchange
  | .find driver _ spec =>
    (statementBy driver spec).toOption.map fun statement =>
      ⟨statement, rowsReply driver spec statement other⟩
  | .totalCount driver spec =>
    (countStatementBy driver spec).toOption.map fun statement =>
      ⟨statement, valueReply driver spec statement other⟩
  | .setLogging _ => none

/-- What is there after errands, one after the other. -/
def course : List (Errand state) → Setting state → Setting state
  | [], setting => setting
  | errand :: rest, setting => course rest (errand.after setting)

theorem course_singleton
    (errand : Errand state)
    (setting : Setting state) :
    course [errand] setting = errand.after setting := rfl

/-- The exchanges of errands in their order, each with whether the settings ask for the statement to
be logged. -/
def transcript : List (Errand state) → Setting state → List (Bool × Exchange)
  | [], _ => []
  | errand :: rest, setting =>
    (errand.exchange? setting.2).toList.map (asksForLog setting.1, ·) ++
      transcript rest (errand.after setting)

/-- Whether the settings ask for statements to be logged, now or after one of some errands. -/
def MayAsk (errands : List (Errand state)) (world : World) : Prop :=
  asksForLog world ∨ ∃ value, .setLogging (some value) ∈ errands ∧ Settings.isAffirmative value

/-- A world with both records, in which every statement that errands log is accepted. -/
structure IsPrepared (errands : List (Errand state)) (world : World) : Prop where
  loaded : world.settings.loaded
  log : world.log.initialized
  errors : world.errors.initialized
  accepts : MayAsk errands world → Log.Accepts world .debug

/-- The setting changes and no other variable does. -/
theorem after_setLogging
    (value : Option String)
    (setting : Setting state) :
    ∃ environment, (Errand.setLogging value).after setting =
        ({ setting.1 with environment }, setting.2) ∧
      ∀ name, environment.lookup name =
        if name = "QUERY_LOG_SQL" then value else setting.1.valueOf? name := by
  cases value with
  | none => exact ⟨_, rfl, World.valueOf?_removeVariable _ _⟩
  | some given => exact ⟨_, rfl, World.valueOf?_assignVariable _ _ _⟩

namespace IsPrepared

variable {errand : Errand state}
  {rest : List (Errand state)}
  {world : World}

theorem takesStatements
    (prepared : IsPrepared (errand :: rest) world) :
    TakesStatements world :=
  (takesStatements_iff prepared.loaded).mpr fun asks => ⟨.inl prepared.log, prepared.accepts (.inl asks)⟩

/-- A world stays prepared while the records grow. -/
theorem of_grows
    (prepared : IsPrepared (errand :: rest) world)
    {failures : List Failure}
    {entries : List (Severity × Value)}
    {after : World}
    (grows : Log.Grows failures entries world after) :
    IsPrepared rest after where
  loaded := grows.settings ▸ prepared.loaded
  log := grows.initialized_log prepared.log
  errors := grows.initialized.trans prepared.errors
  accepts := by
    have same : asksForLog after = asksForLog world := by
      rw [asksForLog, World.valueOf?, grows.environment]
      rfl
    rintro (asks | ⟨value, member, affirmative⟩)
    · exact grows.accepts (prepared.accepts (.inl (same ▸ asks)))
    · exact grows.accepts
        (prepared.accepts (.inr ⟨value, List.mem_cons_of_mem _ member, affirmative⟩))

/-- A world stays prepared when the setting changes. -/
theorem of_setLogging
    {value : Option String}
    (prepared : IsPrepared (.setLogging value :: rest) world)
    (other : state) :
    IsPrepared rest ((Errand.setLogging value).after (world, other)).1 := by
  obtain ⟨environment, changed, bound⟩ := after_setLogging value (world, other)
  rw [changed]
  refine ⟨prepared.loaded, prepared.log, prepared.errors, fun may => ?_⟩
  have mayBefore : MayAsk (.setLogging value :: rest) world := by
    refine .inr ?_
    rcases may with asks | ⟨given, member, affirmative⟩
    · rw [asksForLog, World.valueOf?, bound, if_pos rfl] at asks
      cases value with
      | none => cases asks
      | some given =>
          rw [Option.map_some, Option.getD_some] at asks
          exact ⟨given, List.mem_cons_self, asks⟩
    · exact ⟨given, List.mem_cons_of_mem _ member, affirmative⟩
  have others : ∀ name, name ≠ "QUERY_LOG_SQL" →
      environment.lookup name = world.valueOf? name := by
    intro name other
    rw [bound, if_neg other]
  exact Log.accepts_withEnvironment (others "LOG_LEVEL" (by decide))
    (others "LOG_FILE_PATH" (by decide)) (prepared.accepts mayBefore)

end IsPrepared

/-! ## What is recorded -/

/-- Between two worlds the records have grown by what is to be kept of exchanges. -/
structure Keeps
    (exchanges : List (Bool × Exchange))
    (before after : World) : Prop where
  failures : after.errors.failures =
    before.errors.failures ++ exchanges.filterMap fun exchange => exchange.2.failure?
  log : after.log =
    before.log.pushAll (exchanges.flatMap fun exchange => exchange.2.entries exchange.1)

theorem Keeps.trans
    {exchanges more : List (Bool × Exchange)}
    {before between after : World}
    (first : Keeps exchanges before between)
    (next : Keeps more between after) :
    Keeps (exchanges ++ more) before after where
  failures := by rw [next.failures, first.failures, List.filterMap_append, List.append_assoc]
  log := by rw [next.log, first.log, List.flatMap_append, LogMemory.pushAll_append]

theorem keeps_of_grows
    {exchange? : Option Exchange}
    {asked : Bool}
    {before after : World}
    (grows : Log.Grows (exchange?.toList.filterMap Exchange.failure?)
      (exchange?.toList.flatMap (Exchange.entries asked)) before after) :
    Keeps (exchange?.toList.map (asked, ·)) before after where
  failures := by
    rw [grows.failures, List.filterMap_map]
    rfl
  log := by
    rw [grows.log, List.flatMap_map]

/-- What an errand leaves, where the world is prepared for it and for others after it: its driver has
had its exchange, the records keep that, and the world is prepared for the others. -/
theorem after_overheard
    {errand : Errand state}
    {rest : List (Errand state)}
    {world : World}
    (prepared : IsPrepared (errand :: rest) world)
    (other : state)
    (earlier : List Exchange) :
    let next := errand.after (world, other)
    let exchanged := (errand.exchange? other).toList
    errand.overheard.after (world, (other, earlier)) = (next.1, (next.2, earlier ++ exchanged)) ∧
      IsPrepared rest next.1 ∧
      Keeps (exchanged.map (asksForLog world, ·)) world next.1 := by
  intro next exchanged
  have ready : Execution.IsReady (world, other).1 := ⟨prepared.loaded, prepared.takesStatements⟩
  cases errand with
  | find driver model spec =>
      have shadows := shadows_find model spec driver.notes_overheard world other earlier
      have grows := grows_call prepared.loaded prepared.log prepared.errors ready.takes
        (runFrom_selectSqlBy driver spec (world, other)) driver.selectRows (hydrateAll model)
      refine ⟨?_, prepared.of_grows grows, keeps_of_grows grows⟩
      simp only [sends_of_isReady ready] at shadows
      refine (congrArg Prod.snd shadows).trans ?_
      simp only [next, exchanged, after, exchange?]
      cases statementBy driver spec <;> rfl
  | totalCount driver spec =>
      have shadows := shadows_totalCount spec driver.notes_overheard world other earlier
      have grows := grows_call prepared.loaded prepared.log prepared.errors ready.takes
        (runFrom_countSqlBy driver spec (world, other)) driver.selectValue countOf
      refine ⟨?_, prepared.of_grows grows, keeps_of_grows grows⟩
      simp only [sends_of_isReady ready] at shadows
      refine (congrArg Prod.snd shadows).trans ?_
      simp only [next, exchanged, after, exchange?]
      cases countStatementBy driver spec <;> rfl
  | setLogging value =>
      refine ⟨?_, prepared.of_setLogging other, ?_⟩
      · cases value <;> simp [next, exchanged, overheard, after, exchange?]
      · cases value <;> exact ⟨(List.append_nil _).symm, rfl⟩

/-- Errands whose drivers are overheard have exactly the exchanges of their transcript, and the
records keep those. -/
theorem course_overheard
    (errands : List (Errand state))
    {world : World}
    (prepared : IsPrepared errands world)
    (other : state)
    (earlier : List Exchange) :
    let last := course errands (world, other)
    let exchanges := transcript errands (world, other)
    course (errands.map overheard) (world, (other, earlier)) =
        (last.1, (last.2, earlier ++ exchanges.map Prod.snd)) ∧
      Keeps exchanges world last.1 := by
  induction errands generalizing world other earlier with
  | nil => exact ⟨by simp [course, transcript], ⟨(List.append_nil _).symm, rfl⟩⟩
  | cons errand rest inductionHypothesis =>
      obtain ⟨heard, preparedRest, kept⟩ := after_overheard prepared other earlier
      obtain ⟨heardRest, keptRest⟩ := inductionHypothesis preparedRest
        (errand.after (world, other)).2 (earlier ++ (errand.exchange? other).toList)
      refine ⟨?_, kept.trans keptRest⟩
      simp only [List.map_cons, course, heard, heardRest, transcript, List.map_append, List.map_map,
        Function.comp_def, List.map_id', List.append_assoc]

/-- Where both records have been set up and every statement that may be logged is accepted, drivers
have exactly the exchanges of the transcript, the record of failures grows by the failures of drivers,
and the memory of entries by those about the exchanges.  To overhear drivers changes nothing else. -/
theorem recorded_of_course
    (errands : List (Errand state))
    (start : Setting state)
    (loaded : start.1.settings.loaded)
    (log : start.1.log.initialized)
    (errors : start.1.errors.initialized)
    (accepts : MayAsk errands start.1 → Log.Accepts start.1 .debug) :
    let last := course errands start
    let exchanges := transcript errands start
    course (errands.map overheard) (start.1, (start.2, [])) =
        (last.1, (last.2, exchanges.map Prod.snd)) ∧
      last.1.errors.failures =
        start.1.errors.failures ++ exchanges.filterMap (fun exchange => exchange.2.failure?) ∧
      last.1.log =
        start.1.log.pushAll (exchanges.flatMap fun exchange => exchange.2.entries exchange.1) := by
  intro last exchanges
  obtain ⟨heard, kept⟩ :=
    course_overheard errands ⟨loaded, log, errors, accepts⟩ start.2 []
  exact ⟨heard, kept.failures, kept.log⟩

/-- A world with both records, in which statements are logged to a file. -/
def watched (path : String) : World :=
  { verbose path with errors := { initialized := true } }

/-- A driver that has been prepared to fail twice, the second time with an argument that cannot be
written, and to be interrupted once. -/
def troubled : Script where
  rows := [.failure Builder.outage,
    .failure { Builder.outage with arguments := [.int (10 ^ Numeral.digitLimit : Nat)] },
    .failure { Builder.outage with kind := .base }]
  values := [.value (.text "two")]

/-- Errands of which two fail, one is interrupted, one counts wrongly, one is not logged and one asks
for nothing. -/
def mixed : List (Errand Script) :=
  let driver := Script.driver Sql.doubleQuotes none
  let empty : Predicate := .group .any []
  [.find driver staffModel Builder.ofStaff.spec, .totalCount driver Builder.ofStaff.spec,
    .setLogging none, .find driver staffModel romans, .setLogging (some "on"),
    .totalCount driver { romans with predicates := [empty] }, .find driver staffModel romans]

/-- Four statements are sent, of which three are logged.  Two failures are recorded, and one of them,
which has a text, has an entry. -/
theorem recorded_of_course_mixed :
    (course (mixed.map overheard) (watched "app.log", (troubled, []))).2.2.map
          Exchange.statement =
        ["SELECT * FROM `staff` ORDER BY `id` ASC", "SELECT COUNT(*) FROM `staff`",
          "SELECT * FROM `staff` WHERE `city` = 'Rome' ORDER BY `id` ASC LIMIT 1",
          "SELECT * FROM `staff` WHERE `city` = 'Rome' ORDER BY `id` ASC LIMIT 1"] ∧
      (course mixed (watched "app.log", troubled)).1.errors.failures.map Failure.kind =
        [.runtime, .runtime] ∧
      (course mixed (watched "app.log", troubled)).1.log.entries.map
          (fun entry => (entry.1.name, entry.2.display)) =
        [("DEBUG", "[Query] SELECT * FROM `staff` ORDER BY `id` ASC"),
          ("ERROR", "[Query] SELECT * FROM `staff` ORDER BY `id` ASC: RuntimeError: lost\n" ++
            "<traceback>\nRuntimeError: lost\n"),
          ("DEBUG", "[Query] SELECT COUNT(*) FROM `staff`"),
          ("DEBUG",
            "[Query] SELECT * FROM `staff` WHERE `city` = 'Rome' ORDER BY `id` ASC LIMIT 1")] := by
  have accepts : Log.Accepts (watched "app.log") .debug := accepts_verbose
  obtain ⟨heard, failures, log⟩ := recorded_of_course mixed (watched "app.log", troubled)
    rfl rfl rfl fun _ => accepts
  rw [heard, failures, log]
  decide +kernel

/-- Where statements cannot be announced, a call leaves an entry for its statement and does not send
it. -/
theorem unsent_of_lost
    {world : World}
    (loaded : world.settings.loaded)
    (initialized : world.log.initialized)
    (lost : ¬ TakesStatements world)
    (driver : Driver state)
    (model : Model)
    {spec : Spec}
    {statement : String}
    (compiled : statementBy driver spec = .ok statement)
    (other : state) :
    ((find driver model spec).overheard.after (world, (other, []))).2.2 = [] ∧
      ((find driver model spec).after (world, other)).1.log =
        world.log.push (.debug, mark statement) := by
  constructor
  · have shadows := shadows_find model spec driver.notes_overheard world other []
    have silent : sends (fun statement => Exchange.mk statement (rowsReply driver spec statement other))
        (statementBy driver spec) (world, other) = [] := sends_of_lost lost _ _
    rw [overheard, after, shadows]
    exact silent
  · have grows := grows_announce loaded initialized statement
    have asks : asksForLog world := by
      by_contra silent
      exact lost ((takesStatements_iff loaded).mpr fun asks => absurd asks silent)
    rcases announced : (announce statement).runFrom world with ⟨fault | _, left⟩
    · rw [announced, if_pos asks] at grows
      have selects := runFrom_selectSqlBy driver spec (world, other)
      rw [compiled] at selects
      simp only [after, Execution.find, ExceptT.runFrom_bind, selects, runFrom_run, announced]
      exact grows.log
    · exact absurd (takesStatements_of_announce announced).1 lost

/-- A log file below too many directories leaves an entry for a statement that is not sent. -/
theorem recorded_unsent_of_nested :
    let driver := Script.driver Sql.doubleQuotes none
    let start := watched (Files.nested 1500)
    start.settings.loaded ∧ start.log.initialized ∧ start.errors.initialized ∧
      (course [(find driver staffModel Builder.ofStaff.spec).overheard]
        (start, (Builder.prepared, []))).2.2 = [] ∧
      (course [find driver staffModel Builder.ofStaff.spec]
          (start, Builder.prepared)).1.log.entries =
        [(.debug, .text "[Query] SELECT * FROM `staff` ORDER BY `id` ASC")] := by
  have verboseLost : ¬ TakesStatements (verbose (Files.nested 1500)) :=
    not_takesStatements_nested (by decide : Files.nestingLimit < 1500)
  generalize Files.nested 1500 = path at verboseLost ⊢
  intro driver start
  have loaded : start.settings.loaded := rfl
  have lost : ¬ TakesStatements start := fun takes =>
    verboseLost ((takesStatements_withErrors rfl _).mp takes)
  have compiled : statementBy driver Builder.ofStaff.spec =
    .ok "SELECT * FROM `staff` ORDER BY `id` ASC" := rfl
  obtain ⟨unsent, remembered⟩ := unsent_of_lost loaded rfl lost driver staffModel compiled Builder.prepared
  refine ⟨rfl, rfl, rfl, ?_, ?_⟩
  · rw [course_singleton]
    exact unsent
  · have marked : mark "SELECT * FROM `staff` ORDER BY `id` ASC" =
        .text "[Query] SELECT * FROM `staff` ORDER BY `id` ASC" :=
      congrArg Value.text (by decide +kernel)
    rw [course_singleton, remembered, marked]
    simp [LogMemory.push, LogMemory.suffix, start, watched, verbose]

end Errand
end TableQuery
