import TableQuery.Proofs.Announcements
import TableQuery.Proofs.Readers

/-!
# Loading settings in the course of a program

A program reads settings while its files and variables change.  A variable that is set keeps its
value, a load adds only what the settings file of that moment binds, and once a load has come to its
end only a forced one changes anything.
-/

namespace TableQuery
namespace Settings

/-! ## Variables that are added -/

/-- A world after variables have been added: those that were set keep their values, the others are
bound by a relation between names and values, settings that have been loaded stay so, and so does
the way in which they are read. -/
structure Extends (binds : String → String → Prop) (before after : World) : Prop where
  gains : before.environment.Gains binds after.environment
  loaded : before.settings.loaded → after.settings.loaded
  reader : after.reader = before.reader

namespace Extends

variable {binds : String → String → Prop}

/-- Where the variables are the same, none has been added. -/
theorem of_environment
    {before after : World}
    (same : after.environment = before.environment)
    (loaded : before.settings.loaded → after.settings.loaded)
    (reader : after.reader = before.reader) :
    Extends binds before after :=
  ⟨by rw [same]; exact .refl before.environment, loaded, reader⟩

theorem trans
    {first second third : World}
    (begins : Extends binds first second)
    (ends : Extends binds second third) :
    Extends binds first third where
  gains := begins.gains.trans ends.gains
  loaded := ends.loaded ∘ begins.loaded
  reader := ends.reader.trans begins.reader

theorem mono
    {others : String → String → Prop}
    {before after : World}
    (extension : Extends binds before after)
    (weaker : ∀ name value, binds name value → others name value) :
    Extends others before after :=
  { extension with gains := extension.gains.mono weaker }

/-- Two actions one after the other, the second one only where the first has a result. -/
theorem bind
    {action : Action World α}
    {next : α → Action World β}
    {world : World}
    (first : Extends binds world (action.runFrom world).2)
    (rest : ∀ result, Extends binds (action.runFrom world).2
      ((next result).runFrom (action.runFrom world).2).2) :
    Extends binds world ((action >>= next).runFrom world).2 := by
  rw [ExceptT.runFrom_bind]
  rcases ran : action.runFrom world with ⟨fault | result, middle⟩
  · simpa [ran] using first
  · rw [ran] at first rest
    exact first.trans (rest result)

end Extends

/-- What the reader makes of the text of a file. -/
def readFile (path : String) (world : World) : Loading :=
  world.reader.load (contentOf world path) world.environment

theorem runFrom_addFile
    (path : String)
    (world : World) :
    (addFile path).runFrom world =
      ((readFile path world).outcome,
        { world with environment := (readFile path world).environment }.print
          (readFile path world).diagnosis) := by
  unfold addFile readFile
  simp only [ExceptT.runFrom_bind, ExceptT.runFrom_get, ExceptT.runFrom_set, ExceptT.runFrom_lift]

/-- A reader adds settings of the file only, also where it breaks off. -/
theorem extends_addFile
    (path : String)
    {world : World}
    (lawful : world.reader.IsLawful) :
    Extends
      (fun name value =>
        (name, value) ∈ world.reader.settings (contentOf world path) world.environment)
      world ((addFile path).runFrom world).2 := by
  rw [runFrom_addFile]
  exact
    { gains :=
        { keeps := lawful.keeps (contentOf world path) world.environment
          adds := lawful.adds (contentOf world path) world.environment }
      loaded := id
      reader := rfl }

/-! ## Loads -/

/-- Whether settings are taken from the file at a path: the one that a variable names, if that is not
blank; otherwise the one of the working directory or, where there is none, of the library. -/
def Selects (world : World) (path : String) : Prop :=
  let named := Text.strip ((world.valueOf? fileVariable).getD "")
  if named ≠ "" then expandHome world named = .ok path
  else if Files.isFile world.tree world.place (fileIn world.directory) then
    path = fileIn world.directory
  else path = fileIn world.library

/-- Whether the settings file of a moment sets a name to a value, as the reader has it. -/
def Binds (world : World) (name value : String) : Prop :=
  ∃ path content, Selects world path ∧
    Files.find? world.tree world.place path = some (.file content) ∧
      (name, value) ∈ world.reader.settings content world.environment

theorem eq_isFile_of_checkFile
    {world : World}
    {path : String}
    {isThere : Bool}
    (asked : checkFile world path = .ok isThere) :
    isThere = Files.isFile world.tree world.place path := by
  unfold checkFile at asked
  split at asked
  · simp at asked
  · exact (Except.ok.inj asked).symm

theorem exists_content_of_isFile
    {tree : Files.Tree}
    {place : List String}
    {path : String}
    (isThere : Files.isFile tree place path) :
    ∃ content, Files.find? tree place path = some (.file content) := by
  unfold Files.isFile at isThere
  split at isThere
  next content found => exact ⟨content, found⟩
  next => simp at isThere

/-- The path that is found is the first one that leads to a file. -/
theorem firstFile_cons_eq_some
    {world : World}
    {path first : String}
    {rest : List String}
    (found : firstFile world (first :: rest) = .ok (some path)) :
    path = first ∧ Files.isFile world.tree world.place first ∨
      ¬ Files.isFile world.tree world.place first ∧ firstFile world rest = .ok (some path) := by
  simp only [firstFile, Except.bind_eq_ok_iff] at found
  obtain ⟨isThere, asked, chosen⟩ := found
  have asked := eq_isFile_of_checkFile asked
  cases isThere with
  | true =>
      have same : first = path := Option.some.inj (Except.ok.inj chosen)
      exact .inl ⟨same.symm, asked.symm⟩
  | false => exact .inr ⟨by simp [← asked], chosen⟩

/-- The settings file that is found has been selected and is there. -/
theorem selects_of_findFile
    {world : World}
    {path : String}
    (found : findFile world = .ok (some path)) :
    Selects world path ∧ Files.isFile world.tree world.place path := by
  obtain ⟨paths, candidates, chosen⟩ := Except.bind_eq_ok_iff.mp found
  unfold Settings.candidates at candidates
  unfold Selects
  by_cases named : Text.strip ((world.valueOf? fileVariable).getD "") = ""
  · obtain rfl : [fileIn world.directory, fileIn world.library] = paths := by
      simpa [named, pure, Except.pure] using candidates
    simp only [named, ne_eq, not_true_eq_false, if_false]
    rcases firstFile_cons_eq_some chosen with ⟨rfl, isThere⟩ | ⟨missing, chosen⟩
    · exact ⟨by rw [if_pos isThere], isThere⟩
    · rcases firstFile_cons_eq_some chosen with ⟨rfl, isThere⟩ | ⟨_, chosen⟩
      · exact ⟨by rw [if_neg missing], isThere⟩
      · simp [firstFile] at chosen
  · simp only [named, ne_eq, not_false_eq_true, if_true, Except.bind_eq_ok_iff] at candidates ⊢
    obtain ⟨expanded, expands, alone⟩ := candidates
    obtain rfl : [expanded] = paths := Except.ok.inj alone
    rcases firstFile_cons_eq_some chosen with ⟨rfl, isThere⟩ | ⟨_, chosen⟩
    · exact ⟨expands, isThere⟩
    · simp [firstFile] at chosen

/-- A load adds only what the settings file of that moment binds, also where it fails on the way. -/
theorem extends_load
    (force : Bool)
    {world : World}
    (lawful : world.reader.IsLawful) :
    Extends (Binds world) world ((load force).runFrom world).2 := by
  unfold load
  simp only [ExceptT.runFrom_bind, ExceptT.runFrom_get]
  by_cases done : world.settings.loaded && !force
  · rw [if_pos done]
    exact .of_environment rfl id rfl
  rw [if_neg done]
  cases found : findFile world with
  | error fault => exact .of_environment rfl id rfl
  | ok path? =>
      let marked := { world with settings := { world.settings with path := path? } }
      rw [ExceptT.runFrom_bind_ok (ExceptT.runFrom_lift _ world),
        ExceptT.runFrom_bind_ok (ExceptT.runFrom_modify _ world)]
      have marks : Extends (Binds world) world marked := .of_environment rfl id rfl
      refine marks.trans (Extends.bind ?_ fun _ => .of_environment rfl (fun _ => rfl) rfl)
      cases path? with
      | none => exact .of_environment rfl id rfl
      | some path =>
          have lawfulMarked : marked.reader.IsLawful := lawful
          refine (extends_addFile path lawfulMarked).mono fun name value bound => ?_
          obtain ⟨selects, isThere⟩ := selects_of_findFile found
          obtain ⟨content, stands⟩ := exists_content_of_isFile isThere
          have read : contentOf marked path = content := by
            unfold contentOf
            rw [show Files.find? marked.tree marked.place path = some (.file content) from stands]
          rw [read] at bound
          exact ⟨path, content, selects, stands, bound⟩

/-! ## Inquiries -/

/-- An action that only looks at the state leaves it as the action before it does. -/
theorem snd_runFrom_bind
    {action : Action World α}
    {next : α → Action World β}
    {world : World}
    (looks : ∀ result before, ((next result).runFrom before).2 = before) :
    ((action >>= next).runFrom world).2 = (action.runFrom world).2 := by
  rw [ExceptT.runFrom_bind]
  rcases action.runFrom world with ⟨fault | result, middle⟩
  · rfl
  · exact looks result middle

theorem snd_runFrom_findValue?
    (name : Value)
    (world : World) :
    ((findValue? name).runFrom world).2 = ((load false).runFrom world).2 := by
  unfold findValue?
  refine snd_runFrom_bind fun _ before => ?_
  cases name.asText? <;> rfl

/-- A call that loads settings or reads one. -/
inductive Inquiry where
  | load (force : Bool)
  | text (name default : Value)
  | flag (name default : Value)
  | integer (name default : Value)
  | choice (name choices default : Value)

namespace Inquiry

/-- Whether an inquiry also loads settings that have been loaded. -/
def isForced : Inquiry → Bool
  | .load force => force
  | _ => false

/-- What an inquiry does. -/
def answer : Inquiry → Action World Value
  | .load force => do
    Settings.load force
    return .none
  | .text name default => getText name default
  | .flag name default => getFlag name default
  | .integer name default => getInteger name default
  | .choice name choices default => getChoice name choices default

/-- The load in an inquiry comes to its end. -/
def Completes (inquiry : Inquiry) (world : World) : Prop :=
  ((Settings.load inquiry.isForced).runFrom world).1.isOk

/-- The world after an inquiry, whatever comes of it. -/
def after (inquiry : Inquiry) (world : World) : World :=
  (inquiry.answer.runFrom world).2

/-- All that an inquiry changes is changed by its load. -/
theorem after_eq_load
    (inquiry : Inquiry)
    (world : World) :
    inquiry.after world = ((Settings.load inquiry.isForced).runFrom world).2 := by
  unfold after
  cases inquiry with
  | load force => exact snd_runFrom_bind fun _ _ => rfl
  | text name default =>
      exact (snd_runFrom_bind fun _ _ => rfl).trans (snd_runFrom_findValue? name world)
  | flag name default =>
      exact (snd_runFrom_bind fun _ _ => rfl).trans (snd_runFrom_findValue? name world)
  | integer name default =>
      exact (snd_runFrom_bind fun _ _ => rfl).trans (snd_runFrom_findValue? name world)
  | choice name choices default =>
      refine (snd_runFrom_bind fun text before => ?_).trans (snd_runFrom_findValue? name world)
      refine (snd_runFrom_bind fun members _ => ?_).trans ?_
      · rw [ExceptT.runFrom_lift]
      · rw [ExceptT.runFrom_lift]

theorem extends_after
    (inquiry : Inquiry)
    {world : World}
    (lawful : world.reader.IsLawful) :
    Extends (Binds world) world (inquiry.after world) := by
  rw [after_eq_load]
  exact extends_load inquiry.isForced lawful

/-- Settings that have been loaded are only loaded again where that is forced. -/
theorem after_of_loaded
    {inquiry : Inquiry}
    {world : World}
    (loaded : world.settings.loaded)
    (unforced : inquiry.isForced = false) :
    inquiry.after world = world := by
  rw [after_eq_load, unforced, runFrom_load_of_loaded loaded]

theorem loaded_of_completes
    {inquiry : Inquiry}
    {world : World}
    (completes : inquiry.Completes world) :
    (inquiry.after world).settings.loaded := by
  rw [after_eq_load]
  unfold Completes at completes
  rcases ran : (Settings.load inquiry.isForced).runFrom world with ⟨fault | _, after⟩
  · simp [ran, Except.isOk, Except.toBool] at completes
  · exact loaded_of_runFrom_load ran

end Inquiry

/-! ## Courses of a program -/

/-- What happens in a program that reads settings: an inquiry, or a change of the files or of the
variables by someone else. -/
inductive Event where
  | ask (inquiry : Inquiry)
  | files (tree : Files.Tree)
  | environment (entries : List (String × String))

namespace Event

/-- The world after an event. -/
def apply : Event → World → World
  | .ask inquiry, world => inquiry.after world
  | .files tree, world => { world with tree }
  | .environment entries, world => { world with environment := entries }

theorem reader_apply
    (event : Event)
    {world : World}
    (lawful : world.reader.IsLawful) :
    (event.apply world).reader = world.reader := by
  cases event with
  | ask inquiry => exact (inquiry.extends_after lawful).reader
  | files tree => rfl
  | environment entries => rfl

theorem loaded_apply
    (event : Event)
    {world : World}
    (lawful : world.reader.IsLawful)
    (loaded : world.settings.loaded) :
    (event.apply world).settings.loaded := by
  cases event with
  | ask inquiry => exact (inquiry.extends_after lawful).loaded loaded
  | files tree => exact loaded
  | environment entries => exact loaded

end Event

/-- The world after events, one after the other. -/
def course (events : List Event) (start : World) : World :=
  events.foldl (fun world event => event.apply world) start

theorem isLawful_course
    (events : List Event)
    {start : World}
    (lawful : start.reader.IsLawful) :
    (course events start).reader.IsLawful := by
  induction events generalizing start with
  | nil => exact lawful
  | cons event rest inductionHypothesis =>
      exact inductionHypothesis (event.reader_apply lawful ▸ lawful)

theorem loaded_course
    (events : List Event)
    {start : World}
    (lawful : start.reader.IsLawful)
    (loaded : start.settings.loaded) :
    (course events start).settings.loaded := by
  induction events generalizing start with
  | nil => exact loaded
  | cons event rest inductionHypothesis =>
      exact inductionHypothesis (event.reader_apply lawful ▸ lawful)
        (event.loaded_apply lawful loaded)

/-- Once a load has come to its end, settings stay loaded. -/
theorem loaded_course_of_completes
    {earlier later : List Event}
    {loading : Inquiry}
    {start : World}
    (lawful : start.reader.IsLawful)
    (completes : loading.Completes (course earlier start)) :
    (course (earlier ++ .ask loading :: later) start).settings.loaded := by
  have before := isLawful_course earlier lawful
  rw [course, List.foldl_append, List.foldl_cons]
  exact loaded_course later ((Event.ask loading).reader_apply before ▸ before)
    (Inquiry.loaded_of_completes completes)

/-- At every point of a program an inquiry leaves the variables that are set as they are and adds
only what the settings file of that moment binds, whatever comes of it.  Once a load has come to its
end, an inquiry that does not force one changes neither the variables nor what is known of the
settings file. -/
theorem after_course
    (events : List Event)
    (inquiry : Inquiry)
    (start : World)
    (lawful : start.reader.IsLawful) :
    let before := course events start
    let after := inquiry.after before
    (∀ name value, before.valueOf? name = some value → after.valueOf? name = some value) ∧
      (∀ name value, after.valueOf? name = some value →
        before.valueOf? name = some value ∨ Binds before name value) ∧
        ((∃ earlier loading later, events = earlier ++ .ask loading :: later ∧
            loading.Completes (course earlier start)) →
          inquiry.isForced = false →
            after.environment = before.environment ∧ after.settings = before.settings) := by
  intro before after
  have extension := inquiry.extends_after (isLawful_course events lawful)
  refine ⟨extension.gains.keeps, extension.gains.adds, ?_⟩
  rintro ⟨earlier, loading, later, rfl, completes⟩ unforced
  have unchanged : after = before :=
    Inquiry.after_of_loaded (loaded_course_of_completes lawful completes) unforced
  rw [unchanged]
  exact ⟨rfl, rfl⟩

/-- A world with a settings file that names another one and then cannot be loaded any further. -/
def diverted : World where
  clock := ⟨2026, 1, 2, 3, 4, 5⟩
  directory := "/home"
  environment := [("MODE", "test")]
  tree := (({} : Files.Tree).put ["home"] .directory).put ["home", ".env"]
    (.file "MODE=live\nFLUENTQ_ENV_FILE=other.env\nBROKEN=\x00\nLATE=1\n")

/-- A load that breaks off, one that finds no file under the name it has learned, and then that
file in the place of the first one. -/
def arrival : List Event :=
  [.ask (.load false), .ask (.text (.text "MODE") .none),
    .files ((({} : Files.Tree).put ["home"] .directory).put ["home", "other.env"]
      (.file "MODE=live\nLEVEL=$\x7bMODE\x7d-1\n"))]

/-- The file that arrives is loaded where that is forced, without a change of what was set, and has
no effect otherwise. -/
theorem after_course_arrival :
    diverted.reader.IsLawful ∧
      ((Inquiry.load true).after (course arrival diverted)).valueOf? "MODE" = some "test" ∧
      Binds (course arrival diverted) "LEVEL" "test-1" ∧
      ((Inquiry.load false).after (course arrival diverted)).settings =
        { loaded := true, path := none } := by
  obtain ⟨keeps, adds, _⟩ := after_course arrival (.load true) diverted isLawful_standardReader
  obtain ⟨_, _, stays⟩ := after_course arrival (.load false) diverted isLawful_standardReader
  refine ⟨isLawful_standardReader, keeps "MODE" "test" (by decide +kernel), ?_, ?_⟩
  · exact (adds "LEVEL" "test-1" (by decide +kernel)).resolve_left (by decide +kernel)
  · have completes : (Inquiry.text (.text "MODE") .none).Completes
        (course [.ask (.load false)] diverted) := by
      unfold Inquiry.Completes
      decide +kernel
    rw [(stays ⟨[.ask (.load false)], _, _, rfl, completes⟩ rfl).2]
    decide +kernel

/-- A world without a settings file in its working directory, with one beside the library and one in
the home directory of the account. -/
def scattered (named : String) : World where
  clock := ⟨2026, 1, 2, 3, 4, 5⟩
  directory := "/work"
  library := "/lib"
  environment := [("FLUENTQ_ENV_FILE", named), ("HOME", "/home")]
  tree :=
    ({} : Files.Tree).put ["lib"] .directory
      |>.put ["lib", ".env"] (.file "MODE=shared\n")
      |>.put ["home"] .directory
      |>.put ["home", "own.env"] (.file "MODE=own\n")
      |>.put ["work"] .directory
      |>.put ["work", "here.env"] (.file "MODE=here\n")

/-- Whether a load adds a variable although the path that is named, or else the file of the working
directory, leads to no file. -/
def AddsElsewhere (world : World) (path name value : String) : Prop :=
  Files.isFile world.tree world.place path = false ∧ world.valueOf? name = none ∧
    ((Inquiry.load false).after world).valueOf? name = some value

/-- Where the variable is blank and the working directory has no settings file, the file of the
library counts; and a path that is named counts without the blanks around it and with a home
directory for its tilde. -/
theorem addsElsewhere_scattered :
    AddsElsewhere (scattered " ") (fileIn "/work") "MODE" "shared" ∧
      AddsElsewhere (scattered "here.env ") "here.env " "MODE" "here" ∧
      AddsElsewhere (scattered "~/own.env") "~/own.env" "MODE" "own" := by
  unfold AddsElsewhere
  decide +kernel

end Settings
end TableQuery
