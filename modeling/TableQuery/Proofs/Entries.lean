import Mathlib.Data.List.DropRight
import Mathlib.Data.List.Infix
import TableQuery.Proofs.Recording

/-!
# Entries of the log memory

The memory holds the latest of the entries that have been created since it was last emptied, as many
as the settings had room for when it was last initialized.  What comes of the log file does not
matter to it.
-/

namespace TableQuery

namespace LogMemory

@[simp] theorem suffix_nil (count : Nat) : suffix count ([] : List α) = [] := by
  simp [suffix]

/-- What is kept of a list does not depend on what has been forgotten before. -/
theorem suffix_append_suffix
    (count : Nat)
    (entries added : List α) :
    suffix count (suffix count entries ++ added) = suffix count (entries ++ added) := by
  unfold suffix
  by_cases short : entries.length ≤ count
  · simp [Nat.sub_eq_zero_of_le short]
  · rw [← List.drop_append_of_le_length (Nat.sub_le _ _), List.drop_drop]
    congr 1
    simp only [List.length_drop, List.length_append]
    omega

theorem map_suffix
    (f : α → β)
    (count : Nat)
    (entries : List α) :
    (suffix count entries).map f = suffix count (entries.map f) := by
  simp [suffix, List.map_drop]

end LogMemory

namespace Log

/-! ## Acts -/

/-- Something that a program does with its log, or that happens around it. -/
inductive Act where
  /-- The memory is initialized in any case. -/
  | setUp
  /-- An entry is created with the text of a level, or without one. -/
  | create (level : Option String) (message : Value)
  /-- An entry is created by the call for its severity. -/
  | enter (severity : Severity) (message : Value)
  /-- A line is offered to the file and not remembered. -/
  | line (severity : Severity) (message : Value)
  | delete
  /-- A variable is set to a value, or removed. -/
  | assign (name : String) (value : Option String)
  | wait (moment : Moment)

/-- A level as a value. -/
def levelValue : Option String → Value
  | some level => .text level
  | none => .none

/-- The name under which an entry of a level is remembered. -/
def levelName (level : Option String) : String :=
  let name := Text.upper (level.getD "")
  if name ∈ ["DEBUG", "INFO", "SUCCESS", "WARNING", "ERROR", "CRITICAL"] then name else "INFO"

namespace Act

/-- What an act does. -/
def action : Act → Action World Unit
  | .setUp => initializeMemory
  | .create level message => Log.create (levelValue level) message
  | .enter severity message => record severity message
  | .line severity message => write severity message
  | .delete => modify clear
  | .assign name (some value) => modify (World.assignVariable name value)
  | .assign name none => modify (World.removeVariable name)
  | .wait moment => modify fun world => { world with clock := moment }

/-- The world after an act, whatever comes of it. -/
def after (act : Act) (world : World) : World :=
  (act.action.runFrom world).2

/-- The entry that an act creates, as it is shown. -/
def entry? : Act → Option (String × Value)
  | .create level message => some (levelName level, message)
  | .enter severity message => some (severity.name, message)
  | _ => none

/-- Whether an act empties the memory. -/
def empties : Act → Bool
  | .setUp | .delete => true
  | _ => false

/-- Whether an act initializes the memory in any case. -/
def isSetUp : Act → Bool
  | .setUp => true
  | _ => false

end Act

/-- The world after acts, one after the other. -/
def course (acts : List Act) (start : World) : World :=
  acts.foldl (fun world act => act.after world) start

@[simp] theorem course_concat
    (acts : List Act)
    (act : Act)
    (start : World) :
    course (acts ++ [act]) start = act.after (course acts start) := by
  simp [course]

/-- The entries that have been created since the memory was last emptied. -/
def history (acts : List Act) : List (String × Value) :=
  (acts.rtakeWhile fun act => !act.empties).filterMap Act.entry?

/-- The acts before the memory was last initialized: before the last act that does so in any case or,
where there is none, before the first one that creates an entry. -/
def beforeInitialization (acts : List Act) : List Act :=
  if acts.any Act.isSetUp then (acts.rdropWhile fun act => !act.isSetUp).dropLast
  else acts.takeWhile fun act => act.entry?.isNone

/-- An entry as it is shown. -/
def shown (entry : Severity × Value) : String × Value :=
  (entry.1.name, entry.2)

/-! ## Levels -/

theorem name_ofName (name : String) :
    (Severity.ofName name).name =
      if name ∈ ["DEBUG", "INFO", "SUCCESS", "WARNING", "ERROR", "CRITICAL"] then name
      else "INFO" := by
  unfold Severity.ofName Severity.ofName?
  cases found : Severity.all.find? fun severity => severity.name = name with
  | none =>
      have absent := List.find?_eq_none.mp found
      rw [if_neg]
      · rfl
      · simpa [Severity.all, Severity.name, eq_comm] using absent
  | some severity =>
      obtain rfl : severity.name = name := by simpa using List.find?_some found
      cases severity <;> rfl

/-- Every level that is a text or missing stands for a severity. -/
theorem severityOf_levelValue (level : Option String) :
    ∃ severity, severityOf (levelValue level) = .ok severity ∧ severity.name = levelName level := by
  have blank : Text.upper "" = "" := by decide +kernel
  cases level with
  | none => exact ⟨.info, rfl, by simp [levelName, blank, Severity.name]⟩
  | some text =>
      by_cases empty : text = ""
      · subst empty
        exact ⟨.info, rfl, by simp [levelName, blank, Severity.name]⟩
      · refine ⟨Severity.ofName (Text.upper text), ?_, name_ofName (Text.upper text)⟩
        simp [severityOf, levelValue, Value.truthy, empty, upperName, Value.asText?]

/-- An entry of a level is created as by the call for the severity that the level stands for. -/
theorem runFrom_create_of_loaded
    {world : World}
    (loaded : world.settings.loaded)
    {level : Option String}
    {severity : Severity}
    (stands : severityOf (levelValue level) = .ok severity)
    (message : Value) :
    (create (levelValue level) message).runFrom world = (record severity message).runFrom world := by
  unfold create
  rw [runFrom_record, ExceptT.runFrom_bind]
  rcases prepared : ensureInitialized.runFrom world with ⟨fault | _, middle⟩
  · rfl
  · obtain ⟨log, initialized, rfl⟩ := runFrom_ensureInitialized_ok loaded prepared
    have again : ensureInitialized.runFrom { world with log } = (.ok (), { world with log }) :=
      runFrom_ensureInitialized_of_initialized initialized
    simp only [stands, ExceptT.runFrom_bind, ExceptT.runFrom_lift, runFrom_record, again]

/-! ## Effects of acts -/

/-- An entry is remembered in the memory that there is, whatever comes of its line. -/
theorem log_record
    {world : World}
    (loaded : world.settings.loaded)
    (memory : HasMemory world)
    (severity : Severity)
    (message : Value) :
    ((record severity message).runFrom world).2.log =
      (memoryIn world).push (severity, message) := by
  have loadedAgain : ∀ log : LogMemory, ({ world with log } : World).settings.loaded :=
    fun _ => loaded
  rw [runFrom_record, runFrom_ensureInitialized_of_loaded loaded memory]
  exact (write_keeps (loadedAgain _) severity message).2.2

namespace Act

/-- An act with the text of a level does what one with the severity does. -/
theorem exists_enter
    (level : Option String)
    (message : Value) :
    ∃ severity : Severity, severity.name = levelName level ∧
      ∀ world : World, world.settings.loaded →
        (create level message).after world = (enter severity message).after world := by
  obtain ⟨severity, stands, named⟩ := severityOf_levelValue level
  refine ⟨severity, named, fun world loaded => ?_⟩
  unfold after action
  simp only [runFrom_create_of_loaded loaded stands]

/-- Settings that have been loaded stay so. -/
theorem loaded_after
    (act : Act)
    {world : World}
    (loaded : world.settings.loaded) :
    (act.after world).settings.loaded := by
  cases act with
  | setUp =>
      unfold after action
      by_cases small : capacityIn world ≤ capacityLimit
      · rw [runFrom_initializeMemory_of_loaded loaded small]
        exact loaded
      · rw [runFrom_initializeMemory_of_large loaded (by omega)]
        exact loaded
  | create level message =>
      obtain ⟨severity, _, same⟩ := exists_enter level message
      rw [same world loaded]
      exact (record_keeps loaded severity message).1 ▸ loaded
  | enter severity message => exact (record_keeps loaded severity message).1 ▸ loaded
  | line severity message => exact (write_keeps loaded severity message).1 ▸ loaded
  | delete => exact loaded
  | assign name value => cases value <;> exact loaded
  | wait moment => exact loaded

end Act

/-! ## Acts one after the other -/

/-- Whether an act initializes a memory that has not been initialized. -/
def Act.initializes (act : Act) : Bool :=
  act.isSetUp || act.entry?.isSome

theorem history_concat
    (acts : List Act)
    (act : Act) :
    history (acts ++ [act]) =
      if act.empties then [] else history acts ++ act.entry?.toList := by
  unfold history
  by_cases empties : act.empties
  · rw [List.rtakeWhile_concat_neg _ _ _ (by simp [empties]), if_pos empties]
    rfl
  · rw [List.rtakeWhile_concat_pos _ _ _ (by simp [empties]), if_neg empties,
      List.filterMap_append]
    cases entry : act.entry? <;> simp [entry]

/-- Where nothing has initialized a memory, no entry has been created. -/
theorem history_eq_nil
    {acts : List Act}
    (none : acts.any Act.initializes = false) :
    history acts = [] := by
  refine List.filterMap_eq_nil_iff.mpr fun act member => ?_
  have listed := (List.rtakeWhile_suffix _ _).subset member
  have silent : ¬ act.initializes := List.any_eq_false.mp none act listed
  simp only [Act.initializes, Bool.or_eq_true, not_or, Option.not_isSome_iff_eq_none] at silent
  exact silent.2

/-- An act that initializes the memory in any case comes after the acts before it. -/
theorem beforeInitialization_concat_setUp
    (acts : List Act) :
    beforeInitialization (acts ++ [.setUp]) = acts := by
  have setsUp : (acts ++ [Act.setUp]).any Act.isSetUp := by simp [Act.isSetUp]
  rw [beforeInitialization, if_pos setsUp,
    List.rdropWhile_concat_neg _ _ _ (by simp [Act.isSetUp]), List.dropLast_concat]

/-- The first act that initializes a memory comes after the acts before it. -/
theorem beforeInitialization_concat_first
    {acts : List Act}
    (none : acts.any Act.initializes = false)
    {act : Act}
    (initializes : act.initializes) :
    beforeInitialization (acts ++ [act]) = acts := by
  have silent : ∀ other ∈ acts, other.isSetUp = false ∧ other.entry?.isNone := by
    intro other member
    have calm : ¬ other.initializes := List.any_eq_false.mp none other member
    simpa [Act.initializes] using calm
  by_cases setsUp : act.isSetUp
  · obtain rfl : act = .setUp := by cases act <;> first | rfl | cases setsUp
    exact beforeInitialization_concat_setUp acts
  · have noSetUp : ¬ (acts ++ [act]).any Act.isSetUp := by
      simp only [List.any_append, List.any_cons, List.any_nil, setsUp, Bool.or_false,
        List.any_eq_true, not_exists, not_and]
      exact fun other member => by simp [(silent other member).1]
    have creates : act.entry?.isNone = false := by
      simpa [Act.initializes, setsUp, Option.isSome_iff_ne_none] using initializes
    rw [beforeInitialization, if_neg noSetUp,
      List.takeWhile_append_of_pos fun other member => (silent other member).2,
      List.takeWhile_cons_of_neg (by simp [creates]), List.append_nil]

/-- Other acts do not initialize it again. -/
theorem beforeInitialization_concat
    {acts : List Act}
    (some : acts.any Act.initializes)
    {act : Act}
    (other : act.isSetUp = false) :
    beforeInitialization (acts ++ [act]) = beforeInitialization acts := by
  unfold beforeInitialization
  by_cases setsUp : acts.any Act.isSetUp
  · have still : (acts ++ [act]).any Act.isSetUp := by simp [List.any_append, setsUp]
    rw [if_pos setsUp, if_pos still, List.rdropWhile_concat_pos _ _ _ (by simp [other])]
  · have still : ¬ (acts ++ [act]).any Act.isSetUp := by simp [List.any_append, setsUp, other]
    rw [if_neg setsUp, if_neg still]
    obtain ⟨first, member, initializes⟩ := List.any_eq_true.mp some
    have creates : first.entry?.isNone = false := by
      have noSetUp : ¬ first.isSetUp := fun sets => setsUp (List.any_eq_true.mpr ⟨first, member, sets⟩)
      simpa [Act.initializes, noSetUp, Option.isSome_iff_ne_none] using initializes
    rw [List.takeWhile_append, if_neg]
    intro whole
    have all := (List.takeWhile_prefix _).eq_of_length whole
    have calm := List.takeWhile_eq_self_iff.mp all first member
    simp [creates] at calm

/-! ## What the memory holds -/

/-- What is known of the world after acts, seen from their start. -/
structure Remembers (acts : List Act) (start world : World) : Prop where
  loaded : world.settings.loaded
  initialized : world.log.initialized = acts.any Act.initializes
  capacity : world.log.initialized →
    world.log.capacity = (capacityIn (course (beforeInitialization acts) start)).toNat
  entries : world.log.entries.map shown = LogMemory.suffix world.log.capacity (history acts)

namespace Remembers

variable {acts : List Act} {start world : World}

/-- An act that does nothing to the memory. -/
theorem concat_of_log
    (remembers : Remembers acts start world)
    {act : Act}
    (silent : act.entry? = none)
    (keeps : act.empties = false)
    (same : (act.after world).log = world.log) :
    Remembers (acts ++ [act]) start (act.after world) := by
  have other : act.isSetUp = false := by cases act <;> first | rfl | cases keeps
  have calm : act.initializes = false := by simp [Act.initializes, other, silent]
  have initialized : world.log.initialized = (acts ++ [act]).any Act.initializes := by
    simp [List.any_append, calm, remembers.initialized]
  refine ⟨act.loaded_after remembers.loaded, same ▸ initialized, ?_, ?_⟩
  · intro known
    rw [same] at known ⊢
    rw [beforeInitialization_concat (remembers.initialized ▸ known) other]
    exact remembers.capacity known
  · rw [same, history_concat, if_neg (by simp [keeps]), silent]
    simpa using remembers.entries

theorem concat_setUp
    (remembers : Remembers acts start (course acts start))
    (small : capacityIn (course acts start) ≤ capacityLimit) :
    Remembers (acts ++ [.setUp]) start (Act.setUp.after (course acts start)) := by
  have ran := runFrom_initializeMemory_of_loaded remembers.loaded small
  have log : (Act.setUp.after (course acts start)).log =
      { entries := [], capacity := (capacityIn (course acts start)).toNat, initialized := true } := by
    unfold Act.after Act.action
    rw [ran]
  refine ⟨Act.setUp.loaded_after remembers.loaded, ?_, ?_, ?_⟩
  · simp [log, List.any_append, Act.initializes, Act.isSetUp]
  · intro _
    rw [log, beforeInitialization_concat_setUp]
  · have emptied : history (acts ++ [.setUp]) = [] := by
      rw [history_concat]
      rfl
    rw [log, emptied]
    simp

theorem concat_delete (remembers : Remembers acts start world) :
    Remembers (acts ++ [.delete]) start (Act.delete.after world) := by
  have log : (Act.delete.after world).log = { world.log with entries := [] } := rfl
  have emptied : history (acts ++ [.delete]) = [] := by
    rw [history_concat]
    rfl
  refine ⟨remembers.loaded, ?_, ?_, ?_⟩
  · simp [log, List.any_append, Act.initializes, Act.isSetUp, Act.entry?, remembers.initialized]
  · intro known
    rw [log] at known ⊢
    rw [beforeInitialization_concat (remembers.initialized ▸ known) rfl]
    exact remembers.capacity known
  · rw [log, emptied]
    simp

/-- An entry is added to those that the memory holds; a memory that has not been initialized is so
before it. -/
theorem concat_of_push
    (remembers : Remembers acts start (course acts start))
    {act : Act}
    {severity : Severity}
    {message : Value}
    (entry : act.entry? = some (severity.name, message))
    (log : (act.after (course acts start)).log =
      (memoryIn (course acts start)).push (severity, message)) :
    Remembers (acts ++ [act]) start (act.after (course acts start)) := by
  have keeps : act.empties = false := by cases act <;> first | rfl | cases entry
  have other : act.isSetUp = false := by cases act <;> first | rfl | cases entry
  have initializes : act.initializes := by simp [Act.initializes, entry]
  have capacity : (memoryIn (course acts start)).capacity =
      (capacityIn
        (course (beforeInitialization (acts ++ [act])) start)).toNat := by
    by_cases known : (course acts start).log.initialized
    · rw [memoryIn, if_pos known, beforeInitialization_concat (remembers.initialized ▸ known) other]
      exact remembers.capacity known
    · have none : acts.any Act.initializes = false := by simpa [remembers.initialized] using known
      rw [memoryIn, if_neg known, beforeInitialization_concat_first none initializes]
  have entries : (memoryIn (course acts start)).entries.map shown =
      LogMemory.suffix (memoryIn (course acts start)).capacity (history acts) := by
    by_cases known : (course acts start).log.initialized
    · rw [memoryIn, if_pos known]
      exact remembers.entries
    · have none : acts.any Act.initializes = false := by simpa [remembers.initialized] using known
      rw [memoryIn, if_neg known, history_eq_nil none]
      simp
  refine ⟨act.loaded_after remembers.loaded, ?_, ?_, ?_⟩
  · rw [log, LogMemory.push, initialized_memoryIn]
    simp [List.any_append, initializes]
  · intro _
    rw [log, LogMemory.push, capacity]
  · have grown : history (acts ++ [act]) = history acts ++ [shown (severity, message)] := by
      rw [history_concat, if_neg (by simp [keeps]), entry]
      rfl
    rw [log, LogMemory.push, grown, LogMemory.map_suffix, List.map_append, entries,
      LogMemory.suffix_append_suffix]
    rfl

/-- What is known after acts is known after one more. -/
theorem concat
    (remembers : Remembers acts start (course acts start))
    (small : capacityIn (course acts start) ≤ capacityLimit)
    (act : Act) :
    Remembers (acts ++ [act]) start (act.after (course acts start)) := by
  cases act with
  | setUp => exact remembers.concat_setUp small
  | create level message =>
      obtain ⟨severity, named, same⟩ := Act.exists_enter level message
      refine remembers.concat_of_push (by rw [Act.entry?, named]) ?_
      rw [same _ remembers.loaded]
      exact log_record remembers.loaded (.inr small) severity message
  | enter severity message =>
      exact remembers.concat_of_push rfl (log_record remembers.loaded (.inr small) severity message)
  | line severity message =>
      exact remembers.concat_of_log rfl rfl (write_keeps remembers.loaded severity message).2.2
  | delete => exact remembers.concat_delete
  | assign name value =>
      refine remembers.concat_of_log rfl rfl ?_
      cases value <;> rfl
  | wait moment => exact remembers.concat_of_log rfl rfl rfl

end Remembers

theorem remembers_course
    {acts : List Act}
    {start : World}
    (loaded : start.settings.loaded)
    (fresh : start.log = {})
    (bounded : ∀ past, past <+: acts → capacityIn (course past start) < 2 ^ 63) :
    Remembers acts start (course acts start) := by
  induction acts using List.reverseRecOn with
  | nil =>
      refine ⟨loaded, ?_, ?_, ?_⟩ <;> simp [course, fresh, history]
  | append_singleton acts act inductionHypothesis =>
      have remembers := inductionHypothesis fun past before =>
        bounded past (before.trans (List.prefix_append acts [act]))
      have small : capacityIn (course acts start) ≤ capacityLimit := by
        have below := bounded acts (List.prefix_append acts [act])
        have limit : capacityLimit = 2 ^ 63 - 1 := rfl
        omega
      rw [course_concat]
      exact remembers.concat small act

/-! ## What is read -/

/-- The entries that are read for a level: all of them without one or for an empty one, and otherwise
those of the name that is its upper case. -/
def selected (level : Option String) (entries : List (String × Value)) : List (String × Value) :=
  if level.getD "" = "" then entries
  else entries.filter fun entry => entry.1 = Text.upper (level.getD "")

theorem entriesOf_levelValue
    (level : Option String)
    (memory : LogMemory) :
    ∃ found, entriesOf (levelValue level) memory = .ok found ∧
      found.map shown = selected level (memory.entries.map shown) := by
  cases level with
  | none => exact ⟨memory.entries, rfl, rfl⟩
  | some text =>
      by_cases empty : text = ""
      · subst empty
        exact ⟨memory.entries, rfl, rfl⟩
      · have asked : (Value.text text).truthy := by simp [Value.truthy, empty]
        unfold entriesOf
        by_cases bare : memory.entries.isEmpty
        · refine ⟨memory.entries, by simp [bare, pure, Except.pure], ?_⟩
          simp [List.isEmpty_iff.mp bare, selected]
        · refine ⟨memory.entries.filter fun entry => entry.1.name = Text.upper text, ?_, ?_⟩
          · simp [asked, bare, levelValue, upperName, Value.asText?, bind, Except.bind, pure,
              Except.pure]
          · rw [selected, if_neg (by simpa using empty), List.filter_map]
            rfl

/-- What is read of the memory for a level are those of the latest entries since the memory was last
emptied that have the level, or the last one of them.  The memory holds as many entries as the
settings had room for when it was last initialized. -/
theorem read_course
    (acts : List Act)
    (start : World)
    (loaded : start.settings.loaded)
    (fresh : start.log = {})
    (bounded : ∀ past, past <+: acts → capacityIn (course past start) < 2 ^ 63)
    (level : Option String) :
    ∃ found,
      found.map shown =
          selected level
            ((history acts).rtake (capacityIn (course (beforeInitialization acts) start)).toNat) ∧
        ∀ lastOnly : Bool,
          read (.bool lastOnly) (levelValue level) (course acts start).log =
            .ok (if lastOnly then .last found.getLast? else .entries found) := by
  have remembers := remembers_course loaded fresh bounded
  obtain ⟨found, known, same⟩ := entriesOf_levelValue level (course acts start).log
  refine ⟨found, ?_, fun lastOnly => ?_⟩
  · rw [same, remembers.entries]
    by_cases initialized : (course acts start).log.initialized
    · rw [remembers.capacity initialized]
      rfl
    · have none : acts.any Act.initializes = false := by
        simpa [remembers.initialized] using initialized
      rw [history_eq_nil none, List.rtake_nil, LogMemory.suffix_nil]
  · simp only [read, known, Value.truthy]
    cases lastOnly <;> rfl

/-- A world at the start of a program, in which settings have been loaded. -/
def attentive : World :=
  { Execution.quiet.1 with settings := { loaded := true } }

/-- Entries of several levels in a memory that holds two of them, with a log file that cannot be
written. -/
def chatter : List Act :=
  [.assign "LOG_MEMORY_SIZE" (some "2"), .assign "LOG_FILE_PATH" (some "/"),
    .create (some "info") (.text "one"), .assign "LOG_MEMORY_SIZE" (some "many"),
    .enter .debug (.text "two"), .create (some "wARNing") (.text "three"),
    .create none (.text "four")]

/-- The first entries have been forgotten, and the memory has kept its size. -/
theorem read_course_chatter :
    ∃ found, (found.map shown).map (fun entry => (entry.1, entry.2.display)) =
        [("INFO", "four")] ∧
      read (.bool false) (levelValue (some "info")) (course chatter attentive).log =
        .ok (.entries found) := by
  have bounded : ∀ past, past <+: chatter → capacityIn (course past attentive) < 2 ^ 63 := by
    simp only [← List.mem_inits]
    decide +kernel
  obtain ⟨found, same, known⟩ := read_course chatter attentive rfl rfl bounded (some "info")
  refine ⟨found, ?_, known false⟩
  rw [same]
  decide +kernel

/-- An empty level is not the name of any entry, and yet all are read for it. -/
theorem read_blank_unfiltered :
    ∃ found,
      read (.bool false) (levelValue (some "")) (course [.enter .info (.text "one")] attentive).log =
          .ok (.entries found) ∧
        found.map shown = [("INFO", .text "one")] ∧
        (history [.enter .info (.text "one")]).filter (fun entry => entry.1 = Text.upper "") = [] := by
  have small : capacityIn attentive ≤ capacityLimit := by decide +kernel
  have log : (course [.enter .info (.text "one")] attentive).log =
      (memoryIn attentive).push (.info, .text "one") := by
    have loaded : attentive.settings.loaded := rfl
    rw [course, List.foldl_cons, List.foldl_nil, Act.after, Act.action]
    exact log_record loaded (.inr small) .info (.text "one")
  have blank : Text.upper "" = "" := by decide +kernel
  refine ⟨[(.info, .text "one")], ?_⟩
  rw [log, blank]
  constructor
  · have capacity : capacityIn attentive = 500 := by decide +kernel
    simp only [memoryIn, capacity]
    rfl
  · exact ⟨rfl, rfl⟩

end Log
end TableQuery
