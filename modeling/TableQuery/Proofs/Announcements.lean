import TableQuery.Proofs.Directories
import TableQuery.Proofs.Execution

/-!
# Announcements of statements

A statement may be logged before it is run.  Whether the log takes a statement does not depend on
the statement, and a log that has taken one takes every later one.
-/

namespace TableQuery
namespace Files

/-! ## Lines of files -/

/-- A path that does not end with a slash has none to lose. -/
theorem withoutSlashes_of_getLast?
    {path : String}
    (other : path.toList.getLast? ≠ some '/') :
    withoutSlashes path = path := by
  have kept : path.toList.rdropWhile (· == '/') = path.toList := by
    refine List.rdropWhile_eq_self_iff.mpr fun nonempty slash => other ?_
    rw [List.getLast?_eq_some_getLast nonempty]
    simpa using slash
  have same : dropSlashes path = path := by
    rw [← String.toList_inj, toList_dropSlashes, kept]
  simp [withoutSlashes, same]

theorem nul_mem_of_withoutSlashes
    {path : String}
    (member : '\x00' ∈ (withoutSlashes path).toList) :
    '\x00' ∈ path.toList := by
  rw [withoutSlashes] at member
  split at member
  · exact member
  · obtain ⟨count, joined⟩ := dropSlashes_append path
    rw [← joined]
    exact List.mem_append_left _ member

/-- The text at a place; where no file stands there is none. -/
def textAt (tree : Tree) (place : List String) : String :=
  match tree.node? place with
  | some (.file content) => content
  | _ => ""

/-- A line is added to a file whose path leads to no directory. -/
theorem runFrom_appendFile
    {directory place : List String}
    {path : String}
    {tree : Tree}
    (noSlash : path.toList.getLast? ≠ some '/')
    (located : locate tree directory path = .ok place)
    (free : tree.node? place ≠ some .directory)
    (line : String) :
    (appendFile directory path line).runFrom tree =
      (.ok (), tree.put place (.file (textAt tree place ++ line))) := by
  have located : locate tree directory (withoutSlashes path) = .ok place := by
    rw [withoutSlashes_of_getLast? noSlash, located]
  rcases stands : tree.node? place with _ | _ | old
  · simp [appendFile, writeFile, ExceptT.runFrom_bind, located, stands, noSlash, textAt]
  · exact absurd stands free
  · simp [appendFile, writeFile, ExceptT.runFrom_bind, located, stands, noSlash, textAt]

/-- A path leads to no directory, so that lines can be added to its file, or nothing changes. -/
theorem appendFile_cases
    (directory : List String)
    (path : String)
    (tree : Tree) :
    (∃ place, path.toList.getLast? ≠ some '/' ∧ locate tree directory path = .ok place ∧
        tree.node? place ≠ some .directory) ∨
      ∃ trouble,
        (∀ line, (appendFile directory path line).runFrom tree = (.error ⟨trouble, path⟩, tree)) ∧
          ('\x00' ∉ path.toList → trouble.isSystem) := by
  cases located : locate tree directory (withoutSlashes path) with
  | error trouble =>
      refine .inr ⟨trouble, fun line => ?_, fun noNul => ?_⟩
      · simp [appendFile, writeFile, ExceptT.runFrom_bind, located]
      · exact (locate_error located).2 fun member => noNul (nul_mem_of_withoutSlashes member)
  | ok place =>
      by_cases slash : path.toList.getLast? = some '/'
      · rcases stands : tree.node? place with _ | _ | old
        · refine .inr ⟨.isDirectory, fun line => ?_, fun _ => by decide⟩
          simp [appendFile, writeFile, ExceptT.runFrom_bind, located, stands, slash]
        · refine .inr ⟨.isDirectory, fun line => ?_, fun _ => by decide⟩
          simp [appendFile, writeFile, ExceptT.runFrom_bind, located, stands]
        · refine .inr ⟨.notDirectory, fun line => ?_, fun _ => by decide⟩
          simp [appendFile, writeFile, ExceptT.runFrom_bind, located, stands, slash]
      · by_cases occupied : tree.node? place = some .directory
        · refine .inr ⟨.isDirectory, fun line => ?_, fun _ => by decide⟩
          simp [appendFile, writeFile, ExceptT.runFrom_bind, located, occupied]
        · exact .inl ⟨place, slash, withoutSlashes_of_getLast? slash ▸ located, occupied⟩

end Files

namespace Settings

/-! ## Settings that have been loaded -/

/-- Settings are loaded once. -/
theorem runFrom_load_of_loaded
    {world : World}
    (loaded : world.settings.loaded) :
    (load false).runFrom world = (.ok (), world) := by
  unfold load
  simp [ExceptT.runFrom_bind, loaded]

/-- After settings have been loaded they count as loaded. -/
theorem loaded_of_runFrom_load
    {force : Bool}
    {world after : World}
    (ran : (load force).runFrom world = (.ok (), after)) :
    after.settings.loaded := by
  unfold load at ran
  rw [ExceptT.runFrom_bind, ExceptT.runFrom_get] at ran
  by_cases done : world.settings.loaded && !force
  · obtain rfl : world = after := by simpa [done] using ran
    simp_all
  · simp only [done, if_false, Bool.false_eq_true] at ran
    rw [ExceptT.runFrom_bind, ExceptT.runFrom_lift] at ran
    cases found : findFile world with
    | error fault => simp [found] at ran
    | ok path =>
        simp only [found] at ran
        rw [ExceptT.runFrom_bind, ExceptT.runFrom_modify] at ran
        simp only at ran
        rw [ExceptT.runFrom_bind] at ran
        split at ran
        next middle _ =>
            simp only [ExceptT.runFrom_modify, Prod.mk.injEq, true_and] at ran
            rw [← ran]
        next => simp at ran

theorem runFrom_find?_of_loaded
    {world : World}
    (loaded : world.settings.loaded)
    (name : String) :
    (find? name).runFrom world = (.ok (world.valueOf? name), world) := by
  unfold find?
  rw [ExceptT.runFrom_bind, runFrom_load_of_loaded loaded]
  rfl

/-- A setting as a text, where the settings have been loaded. -/
def textIn (world : World) (name default : String) : String :=
  match world.valueOf? name with
  | some text => if text = "" then default else text
  | none => default

theorem runFrom_textOr_of_loaded
    {world : World}
    (loaded : world.settings.loaded)
    (name default : String) :
    (textOr name default).runFrom world = (.ok (textIn world name default), world) := by
  unfold textOr textIn
  rw [ExceptT.runFrom_bind, runFrom_find?_of_loaded loaded]
  cases world.valueOf? name <;> rfl

end Settings

namespace Log

open Files

theorem runFrom_appendLine
    (nesting : Nat)
    (place : List String)
    (path line : String)
    (tree : Tree) :
    (appendLine nesting place path line).runFrom tree =
      if directoryOf path = "" then (appendFile place path line).runFrom tree
      else
        match (makeDirectories place (directoryOf path) nesting).runFrom tree with
        | (.ok _, after) => (appendFile place path line).runFrom after
        | (.error error, after) => (.error error, after) := by
  unfold appendLine
  by_cases folder : directoryOf path = ""
  · simp [folder]
  · simp only [folder, ne_eq, not_false_eq_true, if_true, if_false, ExceptT.runFrom_bind]
    rcases (makeDirectories place (directoryOf path) nesting).runFrom tree with ⟨_ | _, after⟩ <;> rfl

/-- Whether a line can be added does not depend on the line. -/
theorem appendLine_result
    (nesting : Nat)
    (place : List String)
    (path line other : String)
    (tree : Tree) :
    ((appendLine nesting place path line).runFrom tree).1 =
      ((appendLine nesting place path other).runFrom tree).1 := by
  have added : ∀ tree, ((appendFile place path line).runFrom tree).1 =
      ((appendFile place path other).runFrom tree).1 := by
    intro tree
    rcases appendFile_cases place path tree with ⟨_, noSlash, located, free⟩ | ⟨trouble, failed, _⟩
    · rw [runFrom_appendFile noSlash located free, runFrom_appendFile noSlash located free]
    · rw [failed, failed]
  rw [runFrom_appendLine, runFrom_appendLine]
  split
  · exact added tree
  · rcases (makeDirectories place (directoryOf path) nesting).runFrom tree with ⟨_ | _, after⟩
    · rfl
    · exact added after

/-- After a text was added to a file, or was refused by the system, so is every other text. -/
theorem appendFile_again
    {place : List String}
    {path text : String}
    {tree after : Tree}
    {result : Except FileError Unit}
    (ran : (appendFile place path text).runFrom tree = (result, after))
    (system : ∀ error, result = .error error → error.trouble.isSystem)
    (other : String) :
    ∀ error, ((appendFile place path other).runFrom after).1 = .error error →
      error.trouble.isSystem := by
  intro error failedAgain
  rcases appendFile_cases place path tree with ⟨target, _, located, _⟩ | ⟨trouble, failed, _⟩
  · -- A path that was followed holds no NUL character, and other troubles come from the system.
    have noNul := (locate_eq_ok_iff.mp located).1
    rcases appendFile_cases place path after with ⟨_, noSlash, again, free⟩ | ⟨trouble, again, refused⟩
    · simp [runFrom_appendFile noSlash again free] at failedAgain
    · obtain rfl : ⟨trouble, path⟩ = error := by simpa [again] using failedAgain
      exact refused noNul
  · obtain ⟨rfl, rfl⟩ : .error ⟨trouble, path⟩ = result ∧ tree = after := by
      simpa [failed] using ran
    refine system error ?_
    simpa [failed] using failedAgain

/-- A file that is added to has a directory, and one that is not changes nothing. -/
theorem find?_directoryOf_of_appendFile
    {place : List String}
    {path text : String}
    {tree after : Tree}
    {result : Except FileError Unit}
    (folder : directoryOf path ≠ "")
    (ran : (appendFile place path text).runFrom tree = (result, after)) :
    find? after place (directoryOf path) = some .directory ∨ after = tree := by
  rcases appendFile_cases place path tree with ⟨target, noSlash, located, free⟩ | ⟨_, failed, _⟩
  · left
    have added := runFrom_appendFile noSlash located free text
    have stillLocated := locate_put free (.file (textAt tree target ++ text)) located
    have put : tree.put target (.file (textAt tree target ++ text)) = after :=
      congrArg Prod.snd (added.symm.trans ran)
    rw [put] at stillLocated
    exact (find?_parent folder stillLocated).1
  · exact .inr (congrArg Prod.snd ((failed text).symm.trans ran)).symm

/-- After a line was added, or was refused by the system, so is every other line. -/
theorem appendLine_again
    {nesting : Nat}
    {place : List String}
    {path line : String}
    {tree after : Tree}
    {result : Except FileError Unit}
    (ran : (appendLine nesting place path line).runFrom tree = (result, after))
    (system : ∀ error, result = .error error → error.trouble.isSystem)
    (other : String) :
    ∀ error, ((appendLine nesting place path other).runFrom after).1 = .error error →
      error.trouble.isSystem := by
  rw [runFrom_appendLine] at ran ⊢
  split at ran
  next folder =>
      rw [if_pos folder]
      exact appendFile_again ran system other
  next folder =>
      rw [if_neg folder]
      have trimmed := withoutSlashes_directoryOf path
      rcases made : (makeDirectories place (directoryOf path) nesting).runFrom tree with
        ⟨cause | _, middle⟩
      · obtain ⟨rfl, rfl⟩ : .error cause = result ∧ middle = after := by simpa [made] using ran
        rcases makeDirectories_again trimmed made system with ⟨_, done⟩ | ⟨error, last, again, refused⟩
        · simp at done
        · simp [again, refused]
      · simp only [made] at ran
        rcases find?_directoryOf_of_appendFile folder ran with found | rfl
        · simp only [runFrom_makeDirectories_of_found trimmed found
            (pos_of_makeDirectories made (by simp))]
          exact appendFile_again ran system other
        · rcases makeDirectories_again trimmed made (by simp) with
            ⟨again, _⟩ | ⟨error, last, again, refused⟩
          · simp only [again]
            exact appendFile_again ran system other
          · simp [again, refused]

/-! ## Entries of the log -/

/-- The least severity that is written, where the settings have been loaded. -/
def thresholdIn (world : World) : Severity :=
  Severity.ofName (Text.upper (Text.strip (Settings.textIn world "LOG_LEVEL" "info")))

/-- The path of the log file, where the settings have been loaded. -/
def pathIn (world : World) : String :=
  Settings.textIn world "LOG_FILE_PATH" defaultPath

theorem runFrom_path_of_loaded
    {world : World}
    (loaded : world.settings.loaded) :
    Log.path.runFrom world = (.ok (pathIn world), world) :=
  Settings.runFrom_textOr_of_loaded loaded "LOG_FILE_PATH" defaultPath

theorem runFrom_isEnabled_of_loaded
    {world : World}
    (loaded : world.settings.loaded)
    (severity : Severity) :
    (isEnabled severity).runFrom world =
      (.ok (decide ((thresholdIn world).rank ≤ severity.rank)), world) := by
  unfold isEnabled threshold
  rw [ExceptT.runFrom_bind, ExceptT.runFrom_bind, Settings.runFrom_textOr_of_loaded loaded]
  rfl

theorem runFrom_onFiles
    (operation : Operation α)
    (world : World) :
    (liftM (World.onFiles operation : StateM World _) : Action World _).runFrom world =
      (.ok (operation.runFrom world.tree).1, { world with tree := (operation.runFrom world.tree).2 }) :=
  rfl

theorem runFrom_write_of_loaded
    {world : World}
    (loaded : world.settings.loaded)
    (severity : Severity)
    (message : Value) :
    (write severity message).runFrom world =
      if (thresholdIn world).rank ≤ severity.rank then
        match (appendLine world.nesting world.place (pathIn world)
            (line severity world.clock message)).runFrom world.tree with
        | (.ok _, tree) => (.ok (), { world with tree })
        | (.error error, tree) =>
          if error.trouble.isSystem then
            (.ok (), { world with tree }.print (failureLine (pathIn world) error))
          else (.error error.toFault, { world with tree })
      else (.ok (), world) := by
  unfold write
  rw [ExceptT.runFrom_bind, runFrom_isEnabled_of_loaded loaded]
  by_cases enabled : (thresholdIn world).rank ≤ severity.rank
  · simp only [enabled, decide_true, if_true]
    rw [ExceptT.runFrom_bind, runFrom_path_of_loaded loaded]
    simp only [ExceptT.runFrom_bind, ExceptT.runFrom_get, runFrom_onFiles]
    rcases (appendLine world.nesting world.place (pathIn world)
      (line severity world.clock message)).runFrom world.tree with ⟨error | _, tree⟩
    · by_cases system : error.trouble.isSystem <;> simp [system]
    · rfl
  · simp [enabled]

/-- Whether entries of a severity do not end with a fault: the system adds their lines or refuses
them. -/
def Accepts (world : World) (severity : Severity) : Prop :=
  (thresholdIn world).rank ≤ severity.rank →
    ∀ line error,
      ((appendLine world.nesting world.place (pathIn world) line).runFrom world.tree).1 =
        .error error → error.trouble.isSystem

/-- The memory of entries does not matter to the file. -/
theorem accepts_withLog
    (world : World)
    (log : LogMemory)
    (severity : Severity) :
    Accepts { world with log } severity ↔ Accepts world severity := Iff.rfl

/-- An entry that is accepted is written or reported. -/
theorem write_of_accepts
    {world : World}
    (loaded : world.settings.loaded)
    {severity : Severity}
    (accepts : Accepts world severity)
    (message : Value) :
    ∃ after, (write severity message).runFrom world = (.ok (), after) := by
  rw [runFrom_write_of_loaded loaded]
  by_cases enabled : (thresholdIn world).rank ≤ severity.rank
  · rw [if_pos enabled]
    have system := accepts enabled (line severity world.clock message)
    rcases added : (appendLine world.nesting world.place (pathIn world)
      (line severity world.clock message)).runFrom world.tree with ⟨error | _, tree⟩
    · exact ⟨_, if_pos (system error (by rw [added]))⟩
    · exact ⟨_, rfl⟩
  · exact ⟨world, if_neg enabled⟩

/-- Where one entry has been written or reported, all entries of its severity are accepted, before
it and after it. -/
theorem accepts_of_write
    {world after : World}
    (loaded : world.settings.loaded)
    {severity : Severity}
    {message : Value}
    (ran : (write severity message).runFrom world = (.ok (), after)) :
    Accepts world severity ∧ Accepts after severity ∧ after.settings = world.settings ∧
      after.environment = world.environment ∧ after.log = world.log := by
  rw [runFrom_write_of_loaded loaded] at ran
  by_cases enabled : (thresholdIn world).rank ≤ severity.rank
  · rw [if_pos enabled] at ran
    have accepted : ∀ result tree,
        (appendLine world.nesting world.place (pathIn world)
          (line severity world.clock message)).runFrom world.tree = (result, tree) →
        (∀ error, result = .error error → error.trouble.isSystem) →
        ∀ diagnosis, Accepts world severity ∧ Accepts { world with tree, diagnosis } severity := by
      intro result tree added system diagnosis
      refine ⟨fun _ other error failed => system error ?_, fun _ => appendLine_again added system⟩
      rw [appendLine_result _ _ _ _ (line severity world.clock message), added] at failed
      exact failed
    rcases added : (appendLine world.nesting world.place (pathIn world)
      (line severity world.clock message)).runFrom world.tree with ⟨error | _, tree⟩
    · by_cases system : error.trouble.isSystem
      · simp only [added, system, if_true, Prod.mk.injEq, true_and] at ran
        subst ran
        have both := accepted _ _ added (by simpa using system)
        exact ⟨(both "").1, (both _).2, rfl, rfl, rfl⟩
      · simp [added, system] at ran
    · simp only [added, Prod.mk.injEq, true_and] at ran
      subst ran
      have both := accepted _ _ added (by simp)
      exact ⟨(both "").1, (both _).2, rfl, rfl, rfl⟩
  · obtain rfl : world = after := by simpa [enabled] using ran
    exact ⟨fun reached => absurd reached enabled, fun reached => absurd reached enabled, rfl, rfl,
      rfl⟩

/-- A log file below too many missing directories is refused, but not by the system. -/
theorem not_accepts_of_nested
    {world : World}
    {depth : Nat}
    (named : pathIn world = nested (depth + 1))
    (deep : world.nesting ≤ depth)
    (missing : find? world.tree world.place "a" = none)
    {severity : Severity}
    (reached : (thresholdIn world).rank ≤ severity.rank) :
    ¬ Accepts world severity := by
  intro accepts
  have folder : directoryOf (pathIn world) = nested depth := by
    rw [named, directoryOf, splitLast_nested]
  have refused : (appendLine world.nesting world.place (pathIn world) "").runFrom world.tree =
      (.error ⟨.tooDeep, nested (depth - world.nesting)⟩, world.tree) := by
    rw [runFrom_appendLine, folder, if_neg (nested_ne_empty depth), makeDirectories,
      runFrom_makeDirectoriesWithin_nested missing deep]
  have system : Trouble.tooDeep.isSystem := accepts reached "" _ (congrArg Prod.fst refused)
  exact absurd system (by decide : ¬ Trouble.tooDeep.isSystem)

/-- The memory of entries is initialized once, and nothing else changes. -/
theorem runFrom_ensureInitialized_ok
    {world after : World}
    (loaded : world.settings.loaded)
    (ran : ensureInitialized.runFrom world = (.ok (), after)) :
    ∃ log : LogMemory, log.initialized ∧ after = { world with log } := by
  unfold ensureInitialized at ran
  rw [ExceptT.runFrom_bind, ExceptT.runFrom_get] at ran
  by_cases initialized : world.log.initialized
  · obtain rfl : world = after := by simpa [initialized] using ran
    exact ⟨world.log, initialized, rfl⟩
  · simp only [initialized, if_false, Bool.false_eq_true] at ran
    unfold initializeMemory Settings.integer at ran
    simp only [ExceptT.runFrom_bind, Settings.runFrom_find?_of_loaded loaded,
      ExceptT.runFrom_pure] at ran
    split at ran
    · simp at ran
    · simp only [ExceptT.runFrom_modify, Prod.mk.injEq, true_and] at ran
      exact ⟨_, rfl, ran.symm⟩

theorem runFrom_ensureInitialized_of_initialized
    {world : World}
    (initialized : world.log.initialized) :
    ensureInitialized.runFrom world = (.ok (), world) := by
  unfold ensureInitialized
  simp [ExceptT.runFrom_bind, initialized]

theorem runFrom_record
    (severity : Severity)
    (message : Value)
    (world : World) :
    (record severity message).runFrom world =
      match ensureInitialized.runFrom world with
      | (.ok _, after) =>
        (write severity message).runFrom { after with log := after.log.push (severity, message) }
      | (.error fault, after) => (.error fault, after) := by
  unfold record
  simp only [ExceptT.runFrom_bind, ExceptT.runFrom_modify]
  rcases ensureInitialized.runFrom world with ⟨_ | _, after⟩ <;> rfl

/-- Where one entry has been recorded, every entry of its severity can be recorded, before it and
after it. -/
theorem record_again
    {world after : World}
    (loaded : world.settings.loaded)
    {severity : Severity}
    {message : Value}
    (ran : (record severity message).runFrom world = (.ok (), after))
    (other : Value) :
    (∃ last, (record severity other).runFrom world = (.ok (), last)) ∧
      (∃ last, (record severity other).runFrom after = (.ok (), last)) ∧
        after.settings = world.settings ∧ after.environment = world.environment := by
  rw [runFrom_record] at ran ⊢
  rcases prepared : ensureInitialized.runFrom world with ⟨fault | _, middle⟩
  · simp [prepared] at ran
  · obtain ⟨log, initialized, rfl⟩ := runFrom_ensureInitialized_ok loaded prepared
    simp only [prepared] at ran ⊢
    have loadedPushed : ∀ log : LogMemory, ({ world with log } : World).settings.loaded :=
      fun _ => loaded
    obtain ⟨accepts, acceptsAfter, settings, environment, memory⟩ :=
      accepts_of_write (loadedPushed _) ran
    rw [accepts_withLog] at accepts
    have initializedAfter : after.log.initialized := by
      rw [memory]
      exact initialized
    have loadedAfter : after.settings.loaded := by
      rw [settings]
      exact loaded
    refine ⟨?_, ?_, settings, environment⟩
    · exact write_of_accepts (loadedPushed _) ((accepts_withLog _ _ _).mpr accepts) other
    · simp only [runFrom_record, runFrom_ensureInitialized_of_initialized initializedAfter]
      have loadedAgain : ∀ log : LogMemory, ({ after with log } : World).settings.loaded :=
        fun _ => loadedAfter
      exact write_of_accepts (loadedAgain _) ((accepts_withLog _ _ _).mpr acceptsAfter) other

end Log

namespace Execution

/-! ## Announcements -/

/-- Whether settings ask for statements to be logged. -/
def asksForLog (world : World) : Bool :=
  ((world.valueOf? "QUERY_LOG_SQL").map Settings.isAffirmative).getD false

theorem runFrom_announce
    (statement : String)
    (world : World) :
    (announce statement).runFrom world =
      match (Settings.load false).runFrom world with
      | (.ok _, after) =>
        if asksForLog after then (Log.record .debug (mark statement)).runFrom after
        else (.ok (), after)
      | (.error fault, after) => (.error fault, after) := by
  unfold announce Settings.flag Settings.find?
  simp only [ExceptT.runFrom_bind]
  rcases (Settings.load false).runFrom world with ⟨_ | _, after⟩
  · rfl
  · simp only [ExceptT.runFrom_get, ExceptT.runFrom_pure]
    by_cases asks : asksForLog after
    · rw [if_pos asks, ← asksForLog, if_pos asks]
    · rw [if_neg asks, ← asksForLog, if_neg asks, ExceptT.runFrom_pure]

/-- Whether every statement can be announced. -/
def TakesStatements (world : World) : Prop :=
  ∀ statement, ∃ after, (announce statement).runFrom world = (.ok (), after)

/-- Where one statement has been announced, every statement can be, before it and after it. -/
theorem takesStatements_of_announce
    {statement : String}
    {world after : World}
    (ran : (announce statement).runFrom world = (.ok (), after)) :
    TakesStatements world ∧ TakesStatements after := by
  rw [runFrom_announce] at ran
  rcases loads : (Settings.load false).runFrom world with ⟨fault | _, middle⟩
  · simp [loads] at ran
  · have loaded := Settings.loaded_of_runFrom_load loads
    simp only [loads] at ran
    by_cases asks : asksForLog middle
    · simp only [asks, if_true] at ran
      have both := fun other => Log.record_again loaded ran (mark other)
      obtain ⟨_, _, settings, environment⟩ := both statement
      have loadedAfter : after.settings.loaded := by
        rw [settings]
        exact loaded
      have asksAfter : asksForLog after := by
        rw [asksForLog, World.valueOf?, environment]
        exact asks
      constructor
      · intro other
        simpa [runFrom_announce, loads, asks] using (both other).1
      · intro other
        simpa [runFrom_announce, Settings.runFrom_load_of_loaded loadedAfter, asksAfter] using
          (both other).2.1
    · obtain rfl : middle = after := by simpa [asks] using ran
      constructor
      · intro other
        refine ⟨middle, ?_⟩
        simp [runFrom_announce, loads, asks]
      · intro other
        refine ⟨middle, ?_⟩
        simp [runFrom_announce, Settings.runFrom_load_of_loaded loaded, asks]

end Execution
end TableQuery
