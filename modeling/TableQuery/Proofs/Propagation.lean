import TableQuery.Proofs.Previews

/-!
# Failures of drivers

A failure of a driver is recorded and then passed on.  Where it can be recorded, what a caller sees
is the failure itself and not one that recording it has caused.  What is no error, such as an
interrupt, is passed on without a record.
-/

namespace TableQuery
namespace Execution

open Log

variable {state : Type}

/-- After an announcement there is still a memory of entries, and the log file accepts what it has
accepted. -/
theorem recordsErrors_of_announce
    {world ready : World}
    (loaded : world.settings.loaded)
    (memory : HasMemory world)
    {severity : Severity}
    (accepts : Accepts world severity)
    {statement : String}
    (announced : (announce statement).runFrom world = (.ok (), ready)) :
    HasMemory ready ∧ Accepts ready severity := by
  rw [runFrom_announce, Settings.runFrom_load_of_loaded loaded] at announced
  simp only at announced
  by_cases asks : asksForLog world
  · rw [if_pos asks] at announced
    have kept := (record_keeps loaded .debug (mark statement)).2.2 memory
    rw [announced] at kept
    exact ⟨kept, accepts_after_record loaded announced accepts⟩
  · obtain rfl : world = ready := by simpa [asks] using announced
    exact ⟨memory, accepts⟩

/-- A fault can be recorded if it is an error at all: its message can be written, there is a memory of
entries, and the log file accepts errors. -/
def CanRecord (world : World) (fault : Fault) : Prop :=
  fault.kind.isA .general →
    IsPrintable fault.toFailure ∧ HasMemory world ∧ Accepts world .error

/-- A statement is compiled and announced, and then a driver fails on it. -/
def FailsOn
    (compiles : Action (Setting state) String)
    (method : String → Action state Value)
    (setting : Setting state)
    (fault : Fault) : Prop :=
  ∃ statement other ready,
    compiles.runFrom setting = (.ok statement, (setting.1, other)) ∧
      (announce statement).runFrom setting.1 = (.ok (), ready) ∧
      ((method statement).runFrom other).1 = .error fault

namespace FailsOn

variable {compiles : Action (Setting state) String}
  {method : String → Action state Value}
  {setting : Setting state}
  {fault : Fault}

/-- What a run ends with after a driver has failed: the failure of the driver if it can be recorded,
and otherwise what recording it has ended with. -/
theorem outcome
    (fails : FailsOn compiles method setting fault)
    (next : Value → Action (Setting state) α) :
    ∃ statement ready,
      (announce statement).runFrom setting.1 = (.ok (), ready) ∧
      ((do
          let statement ← compiles
          let value ← run method statement
          next value).runFrom setting).1 =
        match ((recordFault statement fault).runFrom ready).1 with
        | .ok _ => .error fault
        | .error masking => .error masking := by
  obtain ⟨statement, other, ready, compiled, announced, failed⟩ := fails
  refine ⟨statement, ready, announced, ?_⟩
  rcases replied : (method statement).runFrom other with ⟨reply, last⟩
  obtain rfl : reply = .error fault := by rw [← failed, replied]
  rw [ExceptT.runFrom_bind, compiled]
  simp only [ExceptT.runFrom_bind, runFrom_run, announced, ExceptT.runFrom_tryCatch,
    Setting.runFrom_onOther, replied, Setting.runFrom_onWorld]
  rcases (recordFault statement fault).runFrom ready with ⟨_ | _, after⟩ <;> rfl

/-- A failure that can be recorded is passed on. -/
theorem passedOn
    (fails : FailsOn compiles method setting fault)
    (loaded : setting.1.settings.loaded)
    (records : CanRecord setting.1 fault)
    (next : Value → Action (Setting state) α) :
    ((do
        let statement ← compiles
        let value ← run method statement
        next value).runFrom setting).1 = .error fault := by
  obtain ⟨statement, ready, announced, ends⟩ := fails.outcome next
  have loadedReady := loaded_of_announce loaded statement
  rw [announced] at loadedReady
  rw [ends, runFrom_recordFault]
  by_cases general : fault.kind.isA .general
  · obtain ⟨printable, memory, accepts⟩ := records general
    obtain ⟨after, recorded⟩ := (recordFailure_ok_iff loadedReady).mpr
      ⟨printable, recordsErrors_of_announce loaded memory accepts announced⟩
    rw [if_pos general, recorded]
  · rw [if_neg general]

/-- Without room for a memory of entries, every failure that has a message is masked by an
overflow. -/
theorem masked
    (fails : FailsOn compiles method setting fault)
    (loaded : setting.1.settings.loaded)
    (lost : ¬ HasMemory setting.1)
    (general : fault.kind.isA .general)
    (printable : IsPrintable fault.toFailure)
    (next : Value → Action (Setting state) α) :
    ((do
        let statement ← compiles
        let value ← run method statement
        next value).runFrom setting).1 = .error (.refused .overflow) := by
  obtain ⟨statement, ready, announced, ends⟩ := fails.outcome next
  have asks : ¬ asksForLog setting.1 := fun asks =>
    lost ((takesStatements_iff loaded).mp (takesStatements_of_announce announced).1 asks).1
  rw [runFrom_announce, Settings.runFrom_load_of_loaded loaded] at announced
  obtain rfl : setting.1 = ready := by simpa [asks] using announced
  obtain ⟨after, masks⟩ := recordFailure_of_lost loaded lost printable (mark statement)
  rw [ends, runFrom_recordFault, if_pos general, masks]

end FailsOn

/-- A world whose settings name a capacity for the memory of entries. -/
def sized (capacity : String) : World :=
  { quiet.1 with
    environment := [("LOG_MEMORY_SIZE", capacity)]
    settings := { loaded := true } }

/-- A driver that has been prepared to fail. -/
def failing : Script where
  rows := [.failure Builder.outage]
  values := [.failure Builder.outage]

theorem announce_sized (capacity statement : String) :
    (announce statement).runFrom (sized capacity) = (.ok (), sized capacity) := by
  have silent : ¬ asksForLog (sized capacity) := by
    simp [asksForLog, World.valueOf?, sized]
  have loaded : (sized capacity).settings.loaded := rfl
  rw [runFrom_announce, Settings.runFrom_load_of_loaded loaded]
  exact if_neg silent

theorem failsOn_sized (capacity : String) :
    FailsOn (selectSql (Script.driver Sql.doubleQuotes none) Builder.ofStaff.spec)
        (Script.driver Sql.doubleQuotes none).selectRows (sized capacity, failing)
        (.raised Builder.outage) ∧
      FailsOn (countSql (Script.driver Sql.doubleQuotes none) Builder.ofStaff.spec)
        (Script.driver Sql.doubleQuotes none).selectValue (sized capacity, failing)
        (.raised Builder.outage) := by
  constructor
  · exact ⟨_, _, _, runFrom_selectSqlBy _ _ _, announce_sized capacity _, rfl⟩
  · exact ⟨_, _, _, runFrom_countSqlBy _ _ _, announce_sized capacity _, rfl⟩

/-- Where a fault can be recorded, rows and counts end with it: the log has room for a memory of
entries and its file accepts errors, or what has happened is no error. -/
theorem fault_of_failsOn
    (driver : Driver state)
    (model : Model)
    (spec : Spec)
    (setting : Setting state)
    (loaded : setting.1.settings.loaded)
    (fault : Fault)
    (records : CanRecord setting.1 fault) :
    (FailsOn (selectSql driver spec) driver.selectRows setting fault →
        ((find driver model spec).runFrom setting).1 = .error fault) ∧
      (FailsOn (countSql driver spec) driver.selectValue setting fault →
        ((totalCount driver spec).runFrom setting).1 = .error fault) :=
  ⟨fun fails => fails.passedOn loaded records fun rows => hydrateAll model rows,
    fun fails => fails.passedOn loaded records fun value => countOf value⟩

/-- Both managers are set up only once the driver has failed. -/
theorem fault_of_failsOn_sized :
    ((find (Script.driver Sql.doubleQuotes none) staffModel Builder.ofStaff.spec).runFrom
        (sized "20", failing)).1 = .error (.raised Builder.outage) ∧
      ((totalCount (Script.driver Sql.doubleQuotes none) Builder.ofStaff.spec).runFrom
        (sized "20", failing)).1 = .error (.raised Builder.outage) := by
  have memory : HasMemory (sized "20") := .inr (by decide +kernel)
  have accepts : Accepts (sized "20") .error :=
    accepts_of_written rfl (.text "") (by decide +kernel)
  have passed := fault_of_failsOn (Script.driver Sql.doubleQuotes none) staffModel
    Builder.ofStaff.spec (sized "20", failing) rfl (.raised Builder.outage)
    fun _ => ⟨by decide, memory, accepts⟩
  have fails := failsOn_sized "20"
  exact ⟨passed.1 fails.1, passed.2 fails.2⟩

/-- A capacity above the greatest one masks the failure of the driver. -/
theorem fault_masked_of_sized :
    (sized "9223372036854775808").settings.loaded ∧
      FailsOn (selectSql (Script.driver Sql.doubleQuotes none) Builder.ofStaff.spec)
        (Script.driver Sql.doubleQuotes none).selectRows (sized "9223372036854775808", failing)
        (.raised Builder.outage) ∧
      ((find (Script.driver Sql.doubleQuotes none) staffModel Builder.ofStaff.spec).runFrom
        (sized "9223372036854775808", failing)).1 ≠ .error (.raised Builder.outage) := by
  have lost : ¬ HasMemory (sized "9223372036854775808") := by
    unfold HasMemory
    decide +kernel
  have fails := (failsOn_sized "9223372036854775808").1
  refine ⟨rfl, fails, ?_⟩
  have masked := fails.masked rfl lost rfl (by decide) fun rows => hydrateAll staffModel rows
  unfold find
  rw [masked]
  simp

end Execution
end TableQuery
