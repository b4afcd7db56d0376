import TableQuery.Proofs.Entries

/-!
# Lines of the log file

The log file keeps what it holds and gains a line for each entry that is as serious as the settings
ask for at that moment, in the order of the entries.  The other entries leave the files alone.
-/

namespace TableQuery
namespace Files

/-! ## Directories that have been made -/

/-- Nothing has happened to a tree but that directories have been made where nothing stood. -/
def MakesDirectories (before after : Tree) : Prop :=
  ∀ place, after.node? place = before.node? place ∨
    before.node? place = none ∧ after.node? place = some .directory

namespace MakesDirectories

theorem refl (tree : Tree) : MakesDirectories tree tree :=
  fun _ => .inl rfl

theorem trans
    {first second third : Tree}
    (begins : MakesDirectories first second)
    (ends : MakesDirectories second third) :
    MakesDirectories first third := by
  intro place
  rcases ends place with same | ⟨free, made⟩
  · rw [same]
    exact begins place
  · rcases begins place with same | ⟨_, made⟩
    · exact .inr ⟨same ▸ free, made⟩
    · simp [made] at free

theorem put
    {tree : Tree}
    {place : List String}
    (free : tree.node? place = none) :
    MakesDirectories tree (tree.put place .directory) := by
  intro other
  by_cases same : place = other
  · subst same
    have below : place ≠ [] := by
      rintro rfl
      simp at free
    exact .inr ⟨free, Tree.node?_put tree below .directory⟩
  · exact .inl (Tree.node?_put_of_ne tree same .directory)

end MakesDirectories

theorem makesDirectories_makeDirectory
    (directory : List String)
    (path : String)
    (tree : Tree) :
    MakesDirectories tree ((makeDirectory directory path).runFrom tree).2 := by
  rw [runFrom_makeDirectory]
  split
  · exact .refl tree
  · split
    · exact .refl tree
    next free => exact .put free

theorem makesDirectories_ensureDirectory
    (directory : List String)
    (path : String)
    (tree : Tree) :
    MakesDirectories tree ((ensureDirectory directory path).runFrom tree).2 := by
  have makes := makesDirectories_makeDirectory directory path tree
  rw [runFrom_ensureDirectory]
  rcases made : (makeDirectory directory path).runFrom tree with ⟨error | _, after⟩ <;>
    rw [made] at makes
  · simp only
    split <;> exact makes
  · exact makes

theorem makesDirectories_makeDirectoriesWithin
    (directory : List String)
    (bound : Nat)
    (path : String)
    (tree : Tree) :
    MakesDirectories tree ((makeDirectoriesWithin directory bound path).runFrom tree).2 := by
  induction bound generalizing path tree with
  | zero => exact .refl tree
  | succ bound inductionHypothesis =>
      by_cases lacks : LacksParent tree directory path
      · rw [runFrom_makeDirectoriesWithin_of_lacksParent lacks]
        have above := inductionHypothesis (parentAndName path).1 tree
        rcases made : (makeDirectoriesWithin directory bound (parentAndName path).1).runFrom tree with
          ⟨error | _, middle⟩ <;>
          rw [made] at above <;>
          dsimp only at above ⊢
        · have whole := above.trans (makesDirectories_ensureDirectory directory path middle)
          split_ifs
          · exact above
          · exact whole
          · exact above
        · have whole := above.trans (makesDirectories_ensureDirectory directory path middle)
          split_ifs
          · exact above
          · exact whole
      · rw [runFrom_makeDirectoriesWithin_of_parent lacks]
        exact makesDirectories_ensureDirectory directory path tree

end Files

namespace Log

open Files

/-! ## Lines that are added -/

/-- A path leads to a place for a file to which lines can be added, once the directories above it
have been made. -/
def LeadsTo
    (nesting : Nat)
    (tree : Tree)
    (directory : List String)
    (path : String)
    (target : List String) : Prop :=
  ∃ after, (appendLine nesting directory path "").runFrom tree = (.ok (), after) ∧
    locate after directory path = .ok target

/-- A path that leads somewhere needs no directories any more, but room for the one that is there. -/
theorem runFrom_appendLine_of_located
    {nesting : Nat}
    {directory target : List String}
    {path : String}
    {tree : Tree}
    (located : locate tree directory path = .ok target)
    (room : directoryOf path ≠ "" → 0 < nesting)
    (line : String) :
    (appendLine nesting directory path line).runFrom tree =
      (appendFile directory path line).runFrom tree := by
  rw [runFrom_appendLine]
  split
  next => rfl
  next folder =>
      have found := (find?_parent folder located).1
      rw [runFrom_makeDirectories_of_found (withoutSlashes_directoryOf path) found (room folder)]

/-- The directories of a path are made in the same way for every line, and nothing else is done
before the line is added. -/
theorem exists_runFrom_appendLine
    {nesting : Nat}
    {tree last : Tree}
    {directory : List String}
    {path : String}
    (ran : (appendLine nesting directory path "").runFrom tree = (.ok (), last)) :
    (directoryOf path ≠ "" → 0 < nesting) ∧
      ∃ middle, MakesDirectories tree middle ∧
        ∀ line, (appendLine nesting directory path line).runFrom tree =
          (appendFile directory path line).runFrom middle := by
  by_cases folder : directoryOf path = ""
  · exact ⟨fun below => absurd folder below, tree, .refl tree,
      fun line => by rw [runFrom_appendLine, if_pos folder]⟩
  · have makes := makesDirectories_makeDirectoriesWithin directory nesting (directoryOf path) tree
    rw [← makeDirectories] at makes
    rw [runFrom_appendLine, if_neg folder] at ran
    rcases made : (makeDirectories directory (directoryOf path) nesting).runFrom tree with
      ⟨error | _, middle⟩
    · simp [made] at ran
    · rw [made] at makes
      exact ⟨fun _ => pos_of_makeDirectories made (by simp), middle, makes,
        fun line => by rw [runFrom_appendLine, if_neg folder, made]⟩

/-- A path that leads to a file, and has no slash at its end, leads to a place for lines. -/
theorem leadsTo_of_located
    {nesting : Nat}
    {tree : Tree}
    {directory target : List String}
    {path : String}
    (noSlash : path.toList.getLast? ≠ some '/')
    (located : locate tree directory path = .ok target)
    (free : tree.node? target ≠ some .directory)
    (room : directoryOf path ≠ "" → 0 < nesting) :
    LeadsTo nesting tree directory path target :=
  ⟨_, (runFrom_appendLine_of_located located room "").trans
    (runFrom_appendFile noSlash located free ""), locate_put free _ located⟩

/-- Directories that are made hold no text. -/
theorem textAt_of_makesDirectories
    {before after : Tree}
    (makes : MakesDirectories before after)
    {place : List String}
    (free : after.node? place ≠ some .directory) :
    textAt after place = textAt before place := by
  rcases makes place with same | ⟨_, made⟩
  · rw [textAt, same, textAt]
  · exact absurd made free

/-- A line is added to what the file held before, and so will the next one be. -/
theorem appendLine_of_leadsTo
    {nesting : Nat}
    {tree : Tree}
    {directory target : List String}
    {path : String}
    (leads : LeadsTo nesting tree directory path target)
    (line : String) :
    ∃ after, (appendLine nesting directory path line).runFrom tree = (.ok (), after) ∧
      after.node? target = some (.file (textAt tree target ++ line)) ∧
        LeadsTo nesting after directory path target := by
  obtain ⟨last, ran, located⟩ := leads
  obtain ⟨room, middle, makes, appends⟩ := exists_runFrom_appendLine ran
  rw [appends] at ran
  rcases appendFile_cases directory path middle with ⟨place, noSlash, leads, free⟩ | ⟨_, failed, _⟩
  · have added := fun line => runFrom_appendFile noSlash leads free line
    have put := fun line => locate_put free (.file (textAt middle place ++ line)) leads
    obtain rfl : place = target := by
      have same : middle.put place (.file (textAt middle place ++ "")) = last :=
        congrArg Prod.snd ((added "").symm.trans ran)
      exact Except.ok.inj ((put "").symm.trans (same ▸ located))
    have below : place ≠ [] := by
      rintro rfl
      exact free rfl
    have holds : (middle.put place (.file (textAt middle place ++ line))).node? place =
        some (.file (textAt tree place ++ line)) := by
      rw [Tree.node?_put middle below, textAt_of_makesDirectories makes free]
    exact ⟨_, (appends line).trans (added line), holds,
      leadsTo_of_located noSlash (put line) (by simp [holds]) room⟩
  · simp [failed] at ran

/-! ## Lines of acts -/

namespace Act

/-- The severity and the message of the line that an act offers to the log file. -/
def offer? : Act → Option (Severity × Value)
  | .create level message => some (Severity.ofName (levelName level), message)
  | .enter severity message => some (severity, message)
  | .line severity message => some (severity, message)
  | _ => none

/-- The line that an act adds to the log file: none if it offers none, or one that is less serious
than the settings ask for. -/
def line? (act : Act) (world : World) : Option String :=
  act.offer?.bind fun offered =>
    if (thresholdIn world).rank ≤ offered.1.rank then
      some ("[" ++ offered.1.name ++ "] " ++ world.clock.text ++ " - " ++ offered.2.display ++ "\n")
    else none

end Act

/-- The lines that acts add to the log file, each as it is at the moment of its act. -/
def lines : List Act → World → List String
  | [], _ => []
  | act :: rest, world => (act.line? world).toList ++ lines rest (act.after world)

/-- A world in which settings have been loaded and the memory has been initialized, with a log file
at a place. -/
structure IsLogging (target : List String) (world : World) : Prop where
  loaded : world.settings.loaded
  initialized : world.log.initialized
  leads : LeadsTo world.nesting world.tree world.place (pathIn world) target

/-- The world after an act that may have added a line to the file at a place. -/
structure Gains (target : List String) (line? : Option String) (before after : World) : Prop where
  logging : IsLogging target after
  calm : line? = none → after.tree = before.tree
  added : ∀ line, line? = some line →
    after.tree.node? target = some (.file (textAt before.tree target ++ line))

section Steps

variable {target : List String} {world : World}

/-- An entry adds its line where it is serious enough. -/
theorem gains_write
    (logging : IsLogging target world)
    (severity : Severity)
    (message : Value) :
    Gains target ((Act.line severity message).line? world) world
      ((write severity message).runFrom world).2 := by
  rw [runFrom_write_of_loaded logging.loaded]
  by_cases enabled : (thresholdIn world).rank ≤ severity.rank
  · obtain ⟨tree, added, stands, leads⟩ :=
      appendLine_of_leadsTo logging.leads (line severity world.clock message)
    simp only [if_pos enabled, added]
    have known : (Act.line severity message).line? world =
        some (line severity world.clock message) := by
      rw [Act.line?, Act.offer?, Option.bind_some, if_pos enabled, line]
    refine ⟨⟨logging.loaded, logging.initialized, leads⟩, ?_, ?_⟩
    · simp [known]
    · intro text same
      rw [known] at same
      rw [← Option.some.inj same, stands]
  · have known : (Act.line severity message).line? world = none := by
      rw [Act.line?, Act.offer?, Option.bind_some, if_neg enabled]
    rw [if_neg enabled]
    exact ⟨logging, fun _ => rfl, by simp [known]⟩

/-- A change of the world that leaves its log file alone. -/
theorem gains_none
    (logging : IsLogging target world)
    {after : World}
    (loaded : after.settings.loaded)
    (initialized : after.log.initialized)
    (tree : after.tree = world.tree)
    (place : after.place = world.place)
    (nesting : after.nesting = world.nesting)
    (path : pathIn after = pathIn world) :
    Gains target none world after := by
  refine ⟨⟨loaded, initialized, ?_⟩, fun _ => tree, by simp⟩
  rw [tree, place, nesting, path]
  exact logging.leads

theorem gains_enter
    (logging : IsLogging target world)
    (severity : Severity)
    (message : Value) :
    Gains target ((Act.enter severity message).line? world) world
      ((Act.enter severity message).after world) := by
  let pushed := { world with log := world.log.push (severity, message) }
  have logs : IsLogging target pushed := ⟨logging.loaded, logging.initialized, logging.leads⟩
  have ran : (record severity message).runFrom world = (write severity message).runFrom pushed := by
    rw [runFrom_record, runFrom_ensureInitialized_of_initialized logging.initialized]
  obtain ⟨logs, calm, added⟩ := gains_write logs severity message
  unfold Act.after Act.action
  rw [ran]
  exact ⟨logs, calm, added⟩

/-- An act adds its line to the file, as long as the path of the file stays. -/
theorem gains_after
    (logging : IsLogging target world)
    (act : Act)
    (fixed : ∀ value, act ≠ .assign "LOG_FILE_PATH" value) :
    Gains target (act.line? world) world (act.after world) := by
  have loaded := act.loaded_after logging.loaded
  cases act with
  | setUp =>
      unfold Act.after Act.action at loaded ⊢
      by_cases small : capacityIn world ≤ capacityLimit
      · rw [runFrom_initializeMemory_of_loaded logging.loaded small] at loaded ⊢
        exact gains_none logging loaded rfl rfl rfl rfl rfl
      · rw [runFrom_initializeMemory_of_large logging.loaded (by omega)]
        exact gains_none logging logging.loaded logging.initialized rfl rfl rfl rfl
  | create level message =>
      obtain ⟨severity, named, same⟩ := Act.exists_enter level message
      have offered : Severity.ofName (levelName level) = severity := by
        rw [← named]
        cases severity <;> rfl
      have line : (Act.create level message).line? world =
          (Act.enter severity message).line? world := by
        rw [Act.line?, Act.line?, Act.offer?, Act.offer?, offered]
      rw [line, same world logging.loaded]
      exact gains_enter logging severity message
  | enter severity message => exact gains_enter logging severity message
  | line severity message => exact gains_write logging severity message
  | delete => exact gains_none logging loaded logging.initialized rfl rfl rfl rfl
  | assign name value =>
      have other : "LOG_FILE_PATH" ≠ name := fun same => fixed value (same ▸ rfl)
      cases value with
      | none =>
          refine gains_none logging loaded logging.initialized rfl rfl rfl (pathIn_of_valueOf? ?_)
          exact (World.valueOf?_removeVariable name world _).trans (if_neg other)
      | some text =>
          refine gains_none logging loaded logging.initialized rfl rfl rfl (pathIn_of_valueOf? ?_)
          exact (World.valueOf?_assignVariable name text world _).trans (if_neg other)
  | wait moment => exact gains_none logging loaded logging.initialized rfl rfl rfl rfl

end Steps

theorem lines_append
    (past rest : List Act)
    (start : World) :
    lines (past ++ rest) start = lines past start ++ lines rest (course past start) := by
  induction past generalizing start with
  | nil => rfl
  | cons act past inductionHypothesis =>
      rw [List.cons_append, lines, inductionHypothesis, lines, List.append_assoc]
      rfl

/-- The log file after acts: it has gained their lines, and where there are none the files are as
before. -/
structure HasGained (target : List String) (acts : List Act) (start : World) : Prop where
  logging : IsLogging target (course acts start)
  calm : lines acts start = [] → (course acts start).tree = start.tree
  added : lines acts start ≠ [] →
    (course acts start).tree.node? target =
      some (.file (textAt start.tree target ++ String.join (lines acts start)))

theorem HasGained.textAt_course
    {target : List String}
    {acts : List Act}
    {start : World}
    (gained : HasGained target acts start) :
    textAt (course acts start).tree target =
      textAt start.tree target ++ String.join (lines acts start) := by
  by_cases none : lines acts start = []
  · rw [gained.calm none, none]
    simp
  · rw [textAt, gained.added none]

theorem hasGained_course
    {target : List String}
    {acts : List Act}
    {start : World}
    (logging : IsLogging target start)
    (fixed : ∀ value, Act.assign "LOG_FILE_PATH" value ∉ acts) :
    HasGained target acts start := by
  induction acts using List.reverseRecOn with
  | nil => exact ⟨logging, fun _ => rfl, fun some => absurd rfl some⟩
  | append_singleton acts act inductionHypothesis =>
      have gained := inductionHypothesis fun value member =>
        fixed value (List.mem_append_left _ member)
      have stays : ∀ value, act ≠ .assign "LOG_FILE_PATH" value := by
        rintro value rfl
        exact fixed value (by simp)
      have gains := gains_after gained.logging act stays
      have last : lines (acts ++ [act]) start =
          lines acts start ++ (act.line? (course acts start)).toList := by
        rw [lines_append, lines, lines, List.append_nil]
      rw [← course_concat] at gains
      cases known : act.line? (course acts start) with
      | none =>
          rw [known, Option.toList_none, List.append_nil] at last
          have same := gains.calm known
          refine ⟨gains.logging, fun none => ?_, fun some => ?_⟩
          · rw [same, gained.calm (last ▸ none)]
          · rw [last] at some ⊢
            rw [same, gained.added some]
      | some text =>
          rw [known, Option.toList_some] at last
          refine ⟨gains.logging, fun none => ?_, fun _ => ?_⟩
          · simp [last] at none
          · rw [gains.added text known, gained.textAt_course, last, String.join_append,
              String.append_assoc]
            simp

/-- The log file gains the lines of the entries that are as serious as the settings ask for at their
moments, in their order.  Where there are none the files are left alone, an act without a line
touches none of them, and what the file has held it goes on holding. -/
theorem file_course
    (acts : List Act)
    (start : World)
    (target : List String)
    (loaded : start.settings.loaded)
    (initialized : start.log.initialized)
    (leads : LeadsTo start.nesting start.tree start.place (pathIn start) target)
    (fixed : ∀ value, Act.assign "LOG_FILE_PATH" value ∉ acts) :
    let after := course acts start
    (lines acts start = [] → after.tree = start.tree) ∧
      (lines acts start ≠ [] →
        after.tree.node? target =
          some (.file (textAt start.tree target ++ String.join (lines acts start)))) ∧
        (∀ past act rest, acts = past ++ act :: rest → act.line? (course past start) = none →
          (course (past ++ [act]) start).tree = (course past start).tree) ∧
          (∀ past rest, acts = past ++ rest →
            ∃ added, textAt after.tree target = textAt (course past start).tree target ++ added) := by
  intro after
  have logging : IsLogging target start := ⟨loaded, initialized, leads⟩
  have gained := hasGained_course logging fixed
  refine ⟨gained.calm, gained.added, ?_, ?_⟩
  · rintro past act rest rfl none
    have before := hasGained_course logging fun value member =>
      fixed value (List.mem_append_left _ member)
    have stays : ∀ value, act ≠ .assign "LOG_FILE_PATH" value := by
      rintro value rfl
      exact fixed value (by simp)
    rw [course_concat]
    exact (gains_after before.logging act stays).calm none
  · rintro past rest rfl
    have before := hasGained_course logging fun value member =>
      fixed value (List.mem_append_left _ member)
    refine ⟨String.join (lines rest (course past start)), ?_⟩
    rw [gained.textAt_course, before.textAt_course, lines_append, String.join_append,
      String.append_assoc]

/-- A world with a log file below the working directory that holds a line. -/
def diary : World :=
  { attentive with
    environment := [("LOG_FILE_PATH", "logs/app.log")]
    tree := (({} : Tree).put ["logs"] .directory).put ["logs", "app.log"] (.file "begun\n")
    log := { initialized := true } }

/-- Entries under changing thresholds. -/
def day : List Act :=
  [.enter .debug (.text "one"), .create (some "error") (.text "two"),
    .assign "LOG_LEVEL" (some " Debug "), .wait ⟨2026, 10, 17, 18, 5, 0⟩, .line .debug (.text "three"),
    .assign "LOG_LEVEL" (some "loud"), .enter .debug (.text "four"), .create none (.int 5)]

/-- The file keeps its first line and gains those that the thresholds of their moments let pass. -/
theorem file_course_day :
    (course day diary).tree.node? ["logs", "app.log"] =
      some (.file ("begun\n[ERROR] 2026-10-17 12:00:00 - two\n" ++
        "[DEBUG] 2026-10-17 18:05:00 - three\n[INFO] 2026-10-17 18:05:00 - 5\n")) := by
  have added : ((appendLine diary.nesting diary.place (pathIn diary) "").runFrom diary.tree).1 = .ok () := rfl
  have leads : LeadsTo diary.nesting diary.tree diary.place (pathIn diary) ["logs", "app.log"] :=
    ⟨_, ExceptT.runFrom_eq_of_fst added, by decide +kernel⟩
  have known : lines day diary = ["[ERROR] 2026-10-17 12:00:00 - two\n",
      "[DEBUG] 2026-10-17 18:05:00 - three\n", "[INFO] 2026-10-17 18:05:00 - 5\n"] := by
    decide +kernel
  have written := (file_course day diary ["logs", "app.log"] rfl rfl leads (by simp [day])).2.1
  rw [written (by simp [known]), known]
  decide +kernel

end Log
end TableQuery
