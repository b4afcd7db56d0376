import TableQuery.Proofs.Announcements

/-!
# Recording failures

Where settings have been loaded, a failure is recorded unless the log has no room for a memory or
its file is refused for a reason that does not come from the system.  Recording one does not change
whether statements can be announced.
-/

namespace TableQuery
namespace Log

/-! ## The memory of entries -/

/-- The capacity of the memory that the settings name, where they have been loaded. -/
def capacityIn (world : World) : Int :=
  max 1 (((world.valueOf? "LOG_MEMORY_SIZE").bind Settings.integerOf?).getD 500)

/-- Whether there is a memory of entries, or the settings name one that is not too large. -/
def HasMemory (world : World) : Prop :=
  world.log.initialized ∨ capacityIn world ≤ capacityLimit

/-- The memory of entries after it has been initialized. -/
def memoryIn (world : World) : LogMemory :=
  if world.log.initialized then world.log
  else { entries := [], capacity := (capacityIn world).toNat, initialized := true }

theorem initialized_memoryIn (world : World) : (memoryIn world).initialized := by
  unfold memoryIn
  split
  · assumption
  · rfl

/-- A memory that is not too large is set up. -/
theorem runFrom_initializeMemory_of_loaded
    {world : World}
    (loaded : world.settings.loaded)
    (small : capacityIn world ≤ capacityLimit) :
    initializeMemory.runFrom world =
      (.ok (),
        { world with
          log := { entries := [], capacity := (capacityIn world).toNat, initialized := true } }) := by
  have small : ¬ capacityLimit < capacityIn world := by omega
  unfold initializeMemory Settings.integer
  simp only [ExceptT.runFrom_bind, Settings.runFrom_find?_of_loaded loaded, ExceptT.runFrom_pure]
  rw [capacityIn] at small
  rw [if_neg small]
  rfl

/-- The memory is initialized unless it would be too large. -/
theorem runFrom_ensureInitialized_of_loaded
    {world : World}
    (loaded : world.settings.loaded)
    (memory : HasMemory world) :
    ensureInitialized.runFrom world = (.ok (), { world with log := memoryIn world }) := by
  by_cases initialized : world.log.initialized
  · simp [runFrom_ensureInitialized_of_initialized initialized, memoryIn, initialized]
  · have initializes := runFrom_initializeMemory_of_loaded loaded (memory.resolve_left initialized)
    unfold ensureInitialized
    simp only [ExceptT.runFrom_bind, ExceptT.runFrom_get, initialized, if_false,
      Bool.false_eq_true, initializes, memoryIn]

/-- A memory that would be too large is not set up. -/
theorem runFrom_initializeMemory_of_large
    {world : World}
    (loaded : world.settings.loaded)
    (large : capacityLimit < capacityIn world) :
    initializeMemory.runFrom world = (.error (.refused .overflow), world) := by
  unfold initializeMemory Settings.integer
  simp only [ExceptT.runFrom_bind, Settings.runFrom_find?_of_loaded loaded, ExceptT.runFrom_pure]
  rw [capacityIn] at large
  rw [if_pos large]
  rfl

/-- Where there is no memory, it is not initialized. -/
theorem runFrom_ensureInitialized_of_lost
    {world : World}
    (loaded : world.settings.loaded)
    (lost : ¬ HasMemory world) :
    ensureInitialized.runFrom world = (.error (.refused .overflow), world) := by
  obtain ⟨initialized, large⟩ := not_or.mp lost
  have refuses := runFrom_initializeMemory_of_large loaded (by omega)
  unfold ensureInitialized
  simp only [ExceptT.runFrom_bind, ExceptT.runFrom_get, initialized, if_false,
    Bool.false_eq_true, refuses]

/-! ## Entries -/

/-- To write an entry changes at most the files and the diagnosis, whatever comes of it. -/
theorem write_frame
    {world : World}
    (loaded : world.settings.loaded)
    (severity : Severity)
    (message : Value) :
    ∃ tree diagnosis, ((write severity message).runFrom world).2 = { world with tree, diagnosis } := by
  rw [runFrom_write_of_loaded loaded]
  split
  · rcases (appendLine world.nesting world.place (pathIn world)
      (line severity world.clock message)).runFrom world.tree with ⟨error | _, tree⟩
    · simp only
      split <;> exact ⟨_, _, rfl⟩
    · exact ⟨_, _, rfl⟩
  · exact ⟨_, _, rfl⟩

/-- To write an entry leaves the settings, the variables and the memory as they are, whatever comes
of it. -/
theorem write_keeps
    {world : World}
    (loaded : world.settings.loaded)
    (severity : Severity)
    (message : Value) :
    ((write severity message).runFrom world).2.settings = world.settings ∧
      ((write severity message).runFrom world).2.environment = world.environment ∧
      ((write severity message).runFrom world).2.log = world.log := by
  obtain ⟨tree, diagnosis, same⟩ := write_frame loaded severity message
  rw [same]
  exact ⟨rfl, rfl, rfl⟩

/-- To record an entry leaves the settings and the variables as they are, and a memory stays. -/
theorem record_keeps
    {world : World}
    (loaded : world.settings.loaded)
    (severity : Severity)
    (message : Value) :
    ((record severity message).runFrom world).2.settings = world.settings ∧
      ((record severity message).runFrom world).2.environment = world.environment ∧
      (HasMemory world → HasMemory ((record severity message).runFrom world).2) := by
  rw [runFrom_record]
  by_cases memory : HasMemory world
  · rw [runFrom_ensureInitialized_of_loaded loaded memory]
    have loadedAgain : ∀ log : LogMemory, ({ world with log } : World).settings.loaded :=
      fun _ => loaded
    obtain ⟨settings, environment, log⟩ := write_keeps (loadedAgain _) severity message
    refine ⟨settings, environment, fun _ => .inl ?_⟩
    rw [log]
    exact initialized_memoryIn world
  · rw [runFrom_ensureInitialized_of_lost loaded memory]
    exact ⟨rfl, rfl, id⟩

/-- An entry is recorded if and only if there is a memory and the file accepts it. -/
theorem record_ok_iff
    {world : World}
    (loaded : world.settings.loaded)
    {severity : Severity}
    {message : Value} :
    (∃ after, (record severity message).runFrom world = (.ok (), after)) ↔
      HasMemory world ∧ Accepts world severity := by
  have loadedAgain : ∀ log : LogMemory, ({ world with log } : World).settings.loaded :=
    fun _ => loaded
  rw [runFrom_record]
  by_cases memory : HasMemory world
  · rw [runFrom_ensureInitialized_of_loaded loaded memory]
    constructor
    · rintro ⟨after, ran⟩
      exact ⟨memory, (accepts_withLog _ _ _).mp (accepts_of_write (loadedAgain _) ran).1⟩
    · rintro ⟨_, accepts⟩
      exact write_of_accepts (loadedAgain _) ((accepts_withLog _ _ _).mpr accepts) message
  · rw [runFrom_ensureInitialized_of_lost loaded memory]
    simp [memory]

theorem thresholdIn_of_valueOf?
    {world after : World}
    (same : after.valueOf? "LOG_LEVEL" = world.valueOf? "LOG_LEVEL") :
    thresholdIn after = thresholdIn world := by
  unfold thresholdIn Settings.textIn
  rw [same]

theorem pathIn_of_valueOf?
    {world after : World}
    (same : after.valueOf? "LOG_FILE_PATH" = world.valueOf? "LOG_FILE_PATH") :
    pathIn after = pathIn world := by
  unfold pathIn Settings.textIn
  rw [same]

theorem thresholdIn_of_environment
    {world after : World}
    (same : after.environment = world.environment) :
    thresholdIn after = thresholdIn world :=
  thresholdIn_of_valueOf? (by rw [World.valueOf?, same, World.valueOf?])

/-- Of the variables only two matter to the file. -/
theorem accepts_withEnvironment
    {world : World}
    {environment : List (String × String)}
    (level : environment.lookup "LOG_LEVEL" = world.valueOf? "LOG_LEVEL")
    (path : environment.lookup "LOG_FILE_PATH" = world.valueOf? "LOG_FILE_PATH")
    {severity : Severity}
    (accepts : Accepts world severity) :
    Accepts { world with environment } severity := by
  have sameThreshold : thresholdIn { world with environment } = thresholdIn world :=
    thresholdIn_of_valueOf? level
  have samePath : pathIn { world with environment } = pathIn world := pathIn_of_valueOf? path
  unfold Accepts
  rw [sameThreshold, samePath]
  exact accepts

/-- Entries of a severity that have been accepted are still accepted after one of any severity has
been written. -/
theorem accepts_after_write
    {world after : World}
    (loaded : world.settings.loaded)
    {severity other : Severity}
    {message : Value}
    (ran : (write severity message).runFrom world = (.ok (), after))
    (accepts : Accepts world other) :
    Accepts after other := by
  obtain ⟨_, acceptsAfter, _, environment, _⟩ := accepts_of_write loaded ran
  -- Either the same file has just taken a line, or nothing has been written.
  by_cases enabled : (thresholdIn world).rank ≤ severity.rank
  · rw [← thresholdIn_of_environment environment] at enabled
    exact fun _ => acceptsAfter enabled
  · rw [runFrom_write_of_loaded loaded, if_neg enabled] at ran
    obtain rfl : world = after := congrArg Prod.snd ran
    exact accepts

theorem accepts_after_record
    {world after : World}
    (loaded : world.settings.loaded)
    {severity other : Severity}
    {message : Value}
    (ran : (record severity message).runFrom world = (.ok (), after))
    (accepts : Accepts world other) :
    Accepts after other := by
  rw [runFrom_record] at ran
  rcases prepared : ensureInitialized.runFrom world with ⟨fault | _, middle⟩
  · simp [prepared] at ran
  · obtain ⟨log, _, rfl⟩ := runFrom_ensureInitialized_ok loaded prepared
    have loadedAgain : ∀ log : LogMemory, ({ world with log } : World).settings.loaded :=
      fun _ => loaded
    simp only [prepared] at ran
    exact accepts_after_write (loadedAgain _) ran ((accepts_withLog _ _ _).mpr accepts)

/-- Entries of a severity that have been accepted are still accepted after one of any severity,
even where that one could not be recorded. -/
theorem accepts_past_record
    {world : World}
    (loaded : world.settings.loaded)
    (memory : HasMemory world)
    {other : Severity}
    (accepts : Accepts world other)
    (severity : Severity)
    (message : Value) :
    Accepts ((record severity message).runFrom world).2 other := by
  have same : thresholdIn ((record severity message).runFrom world).2 = thresholdIn world :=
    thresholdIn_of_environment (record_keeps loaded severity message).2.1
  -- A file that takes entries of the one severity takes the other entry if that is offered to it.
  intro reached
  have reachedBefore : (thresholdIn world).rank ≤ other.rank := same ▸ reached
  have acceptsEntry : Accepts world severity := fun _ => accepts reachedBefore
  obtain ⟨after, recorded⟩ := (record_ok_iff loaded).mpr ⟨memory, acceptsEntry⟩
  rw [recorded] at reached ⊢
  exact accepts_after_record loaded recorded accepts reached

/-- To see that entries are accepted it is enough to write one. -/
theorem accepts_of_written
    {world : World}
    (loaded : world.settings.loaded)
    {severity : Severity}
    (message : Value)
    (written : ((write severity message).runFrom world).1.toOption = some ()) :
    Accepts world severity := by
  rcases ran : (write severity message).runFrom world with ⟨_ | _, after⟩
  · simp [ran, Except.toOption] at written
  · exact (accepts_of_write loaded ran).1

/-! ## Failures -/

/-- The record of failures once it has been initialized. -/
def errorsIn (world : World) : ErrorMemory :=
  if world.errors.initialized then world.errors
  else
    { failures := []
      developer := ((world.valueOf? "APP_DEBUG").map Settings.isAffirmative).getD false
      initialized := true }

/-- A failure whose message can be written. -/
def IsPrintable (failure : Failure) : Prop :=
  ∀ value ∈ failure.shown, value.HasText

instance (failure : Failure) : Decidable (IsPrintable failure) :=
  inferInstanceAs (Decidable (∀ value ∈ failure.shown, value.HasText))

/-- The world after a failure has been remembered. -/
def kept (failure : Failure) (world : World) : World :=
  { world with errors :=
      { errorsIn world with failures := (errorsIn world).failures ++ [failure] } }

/-- The world after a failure has been remembered and, in developer mode, printed. -/
def noted (failure : Failure) (world : World) : World :=
  display (errorsIn world).developer failure (kept failure world)

/-- To note a failure changes only the record of failures and the diagnosis. -/
theorem noted_eq
    (failure : Failure)
    (world : World) :
    ∃ diagnosis, noted failure world = { kept failure world with diagnosis } := by
  unfold noted display
  split <;> exact ⟨_, rfl⟩

/-- Where there is a record of failures, a failure that is remembered is added to it. -/
theorem kept_of_initialized
    {world : World}
    (initialized : world.errors.initialized)
    (failure : Failure) :
    kept failure world =
      { world with
        errors := { world.errors with failures := world.errors.failures ++ [failure] } } := by
  unfold kept errorsIn
  rw [if_pos initialized]

/-- A failure is remembered, and then, if its message can be written, logged as an error. -/
theorem runFrom_recordFailure_of_loaded
    {world : World}
    (loaded : world.settings.loaded)
    (failure : Failure)
    (context : Value) :
    (recordFailure failure context).runFrom world =
      match Value.checkTexts failure.shown with
      | .ok _ =>
        (record .error (.text (failureMessage failure context))).runFrom (noted failure world)
      | .error fault => (.error fault, kept failure world) := by
  unfold recordFailure
  by_cases initialized : world.errors.initialized
  · simp only [ExceptT.runFrom_bind, ExceptT.runFrom_get, initialized, if_true,
      ExceptT.runFrom_modify, ExceptT.runFrom_lift]
    cases Value.checkTexts failure.shown <;> simp [noted, kept, errorsIn, initialized]
  · have loadedAgain : ∀ errors : ErrorMemory, ({ world with errors } : World).settings.loaded :=
      fun _ => loaded
    have asked : ∀ errors : ErrorMemory,
        (Settings.find? "APP_DEBUG").runFrom { world with errors } =
          (.ok (world.valueOf? "APP_DEBUG"), { world with errors }) :=
      fun errors => Settings.runFrom_find?_of_loaded (loadedAgain errors) "APP_DEBUG"
    simp only [ExceptT.runFrom_bind, ExceptT.runFrom_get, initialized, if_false,
      Bool.false_eq_true, initializeFailures, Value.isNone, Settings.flag, asked, if_true,
      ExceptT.runFrom_pure, ExceptT.runFrom_modify, ExceptT.runFrom_lift]
    cases Value.checkTexts failure.shown <;> simp [noted, kept, errorsIn, initialized]

/-- A failure whose message can be written is noted and then logged as an error. -/
theorem runFrom_recordFailure_of_printable
    {world : World}
    (loaded : world.settings.loaded)
    {failure : Failure}
    (printable : IsPrintable failure)
    (context : Value) :
    (recordFailure failure context).runFrom world =
      (record .error (.text (failureMessage failure context))).runFrom (noted failure world) := by
  rw [runFrom_recordFailure_of_loaded loaded, Value.checkTexts_eq_ok_iff.mpr printable]

/-- A failure whose message cannot be written is remembered, and nothing else happens. -/
theorem runFrom_recordFailure_of_not_printable
    {world : World}
    (loaded : world.settings.loaded)
    {failure : Failure}
    (unprintable : ¬ IsPrintable failure)
    (context : Value) :
    ∃ fault, (recordFailure failure context).runFrom world = (.error fault, kept failure world) := by
  rw [runFrom_recordFailure_of_loaded loaded]
  cases checked : Value.checkTexts failure.shown with
  | ok _ => exact absurd (Value.checkTexts_eq_ok_iff.mp checked) unprintable
  | error fault => exact ⟨fault, rfl⟩

/-- Settings that have been loaded stay so when a failure is recorded, whatever comes of it. -/
theorem loaded_of_recordFailure
    {world : World}
    (loaded : world.settings.loaded)
    (failure : Failure)
    (context : Value) :
    ((recordFailure failure context).runFrom world).2.settings.loaded := by
  by_cases printable : IsPrintable failure
  · rw [runFrom_recordFailure_of_printable loaded printable]
    obtain ⟨diagnosis, same⟩ := noted_eq failure world
    have loadedNoted : (noted failure world).settings.loaded := same ▸ loaded
    rw [(record_keeps loadedNoted _ _).1]
    exact loadedNoted
  · obtain ⟨fault, failed⟩ := runFrom_recordFailure_of_not_printable loaded printable context
    rw [failed]
    exact loaded

/-- A failure is recorded if and only if its message can be written, there is a memory and the file
accepts errors. -/
theorem recordFailure_ok_iff
    {world : World}
    (loaded : world.settings.loaded)
    {failure : Failure}
    {context : Value} :
    (∃ after, (recordFailure failure context).runFrom world = (.ok (), after)) ↔
      IsPrintable failure ∧ HasMemory world ∧ Accepts world .error := by
  by_cases printable : IsPrintable failure
  · rw [runFrom_recordFailure_of_printable loaded printable]
    obtain ⟨diagnosis, same⟩ := noted_eq failure world
    rw [same]
    have loadedNoted : ({ kept failure world with diagnosis } : World).settings.loaded := loaded
    simp only [printable, true_and]
    exact record_ok_iff loadedNoted
  · obtain ⟨fault, failed⟩ := runFrom_recordFailure_of_not_printable loaded printable context
    simp [failed, printable]

/-- Where there is no memory, recording a failure whose message can be written overflows. -/
theorem recordFailure_of_lost
    {world : World}
    (loaded : world.settings.loaded)
    (lost : ¬ HasMemory world)
    {failure : Failure}
    (printable : IsPrintable failure)
    (context : Value) :
    ∃ after, (recordFailure failure context).runFrom world =
      (.error (.refused .overflow), after) := by
  rw [runFrom_recordFailure_of_printable loaded printable, runFrom_record]
  obtain ⟨diagnosis, same⟩ := noted_eq failure world
  rw [same]
  have loadedNoted : ({ kept failure world with diagnosis } : World).settings.loaded := loaded
  have lostNoted : ¬ HasMemory { kept failure world with diagnosis } := lost
  rw [runFrom_ensureInitialized_of_lost loadedNoted lostNoted]
  exact ⟨_, rfl⟩

end Log

namespace Execution

open Log

/-! ## Announcements and failures -/

/-- Statements can be announced if and only if, where the settings ask for it, there is a memory and
the file accepts their entries. -/
theorem takesStatements_iff
    {world : World}
    (loaded : world.settings.loaded) :
    TakesStatements world ↔
      (asksForLog world → HasMemory world ∧ Accepts world .debug) := by
  have announced := fun statement => runFrom_announce statement world
  simp only [Settings.runFrom_load_of_loaded loaded] at announced
  by_cases asks : asksForLog world
  · simp only [asks, if_true] at announced
    simp only [TakesStatements, announced, record_ok_iff loaded, forall_const, asks]
  · simp only [asks, if_false, Bool.false_eq_true] at announced
    simp [TakesStatements, announced, asks]

/-- An announcement leaves settings that have been loaded as they are. -/
theorem loaded_of_announce
    {world : World}
    (loaded : world.settings.loaded)
    (statement : String) :
    ((announce statement).runFrom world).2.settings.loaded := by
  rw [runFrom_announce, Settings.runFrom_load_of_loaded loaded]
  simp only
  split
  · rw [(record_keeps loaded _ _).1]
    exact loaded
  · exact loaded

/-- The record of failures does not matter to announcements. -/
theorem takesStatements_withErrors
    {world : World}
    (loaded : world.settings.loaded)
    (errors : ErrorMemory) :
    TakesStatements { world with errors } ↔ TakesStatements world := by
  have loadedWith : ({ world with errors } : World).settings.loaded := loaded
  rw [takesStatements_iff loaded, takesStatements_iff loadedWith]
  rfl

/-- Statements can be announced after a failure if they could be before it, even where the failure
could not be recorded. -/
theorem takesStatements_of_recordFailure
    {world : World}
    (loaded : world.settings.loaded)
    (takes : TakesStatements world)
    (failure : Failure)
    (context : Value) :
    TakesStatements ((recordFailure failure context).runFrom world).2 := by
  by_cases printable : IsPrintable failure
  · rw [runFrom_recordFailure_of_printable loaded printable]
    obtain ⟨diagnosis, same⟩ := noted_eq failure world
    rw [same]
    have loadedNoted : ({ kept failure world with diagnosis } : World).settings.loaded := loaded
    obtain ⟨settings, environment, memory⟩ :=
      record_keeps loadedNoted .error (.text (failureMessage failure context))
    rcases ran : (record .error (.text (failureMessage failure context))).runFrom
      { kept failure world with diagnosis } with ⟨result, after⟩
    rw [ran] at settings environment memory
    have loadedAfter : after.settings.loaded := by
      rw [settings]
      exact loaded
    rw [takesStatements_iff loadedAfter]
    intro asks
    have asksBefore : asksForLog world := by
      rw [asksForLog, World.valueOf?, environment] at asks
      exact asks
    obtain ⟨memoryBefore, accepts⟩ := (takesStatements_iff loaded).mp takes asksBefore
    have acceptsDebug : Accepts { kept failure world with diagnosis } .debug := accepts
    have stillAccepts := accepts_past_record loadedNoted memoryBefore acceptsDebug .error
      (.text (failureMessage failure context))
    rw [ran] at stillAccepts
    exact ⟨memory memoryBefore, stillAccepts⟩
  · obtain ⟨fault, failed⟩ := runFrom_recordFailure_of_not_printable loaded printable context
    rw [failed]
    exact (takesStatements_withErrors loaded _).mpr takes

/-- Errors are recorded; whatever else may end a run leaves the world as it is. -/
theorem runFrom_recordFault
    (statement : String)
    (fault : Fault)
    (world : World) :
    (recordFault statement fault).runFrom world =
      if fault.kind.isA .general then
        (recordFailure fault.toFailure (mark statement)).runFrom world
      else (.ok (), world) := by
  unfold recordFault
  split <;> rfl

theorem loaded_of_recordFault
    {world : World}
    (loaded : world.settings.loaded)
    (statement : String)
    (fault : Fault) :
    ((recordFault statement fault).runFrom world).2.settings.loaded := by
  rw [runFrom_recordFault]
  split
  · exact loaded_of_recordFailure loaded _ _
  · exact loaded

theorem takesStatements_of_recordFault
    {world : World}
    (loaded : world.settings.loaded)
    (takes : TakesStatements world)
    (statement : String)
    (fault : Fault) :
    TakesStatements ((recordFault statement fault).runFrom world).2 := by
  rw [runFrom_recordFault]
  split
  · exact takesStatements_of_recordFailure loaded takes _ _
  · exact takes

/-! ## Statements in a log file -/

/-- A world in which statements are logged to a file. -/
def verbose (path : String) : World :=
  { quiet.1 with
    environment := [("QUERY_LOG_SQL", "true"), ("LOG_LEVEL", "debug"), ("LOG_FILE_PATH", path)]
    settings := { loaded := true }
    log := { initialized := true } }

/-- A log file in the working directory takes statements. -/
theorem accepts_verbose : Log.Accepts (verbose "app.log") .debug :=
  accepts_of_written rfl (.text "") (by decide +kernel)

/-- A log file that is nested too deeply takes no statement. -/
theorem not_takesStatements_nested
    {depth : Nat}
    (deep : Files.nestingLimit < depth) :
    ¬ TakesStatements (verbose (Files.nested depth)) := by
  have nonempty := Files.nested_ne_empty depth
  obtain ⟨above, rfl⟩ := Nat.exists_eq_add_one.mpr (Nat.zero_lt_of_lt deep)
  generalize named : Files.nested (above + 1) = path at nonempty ⊢
  have asked : (verbose path).valueOf? "QUERY_LOG_SQL" = some "true" := by
    simp [World.valueOf?, verbose]
  have level : (verbose path).valueOf? "LOG_LEVEL" = some "debug" := by
    simp [World.valueOf?, verbose, List.lookup_cons]
  have file : (verbose path).valueOf? "LOG_FILE_PATH" = some path := by
    simp [World.valueOf?, verbose, List.lookup_cons]
  have asks : asksForLog (verbose path) := by
    rw [asksForLog, asked]
    decide +kernel
  have reached : (Log.thresholdIn (verbose path)).rank ≤ Severity.debug.rank := by
    rw [Log.thresholdIn, Settings.textIn, level]
    decide +kernel
  have deepFile : Log.pathIn (verbose path) = Files.nested (above + 1) := by
    rw [Log.pathIn, Settings.textIn, file, named]
    exact if_neg nonempty
  have missing : Files.find? quiet.1.tree quiet.1.place "a" = none := by decide +kernel
  have refuses := Log.not_accepts_of_nested deepFile (Nat.le_of_lt_succ deep) missing reached
  rw [takesStatements_iff rfl]
  exact fun given => refuses (given asks).2

end Execution
end TableQuery
