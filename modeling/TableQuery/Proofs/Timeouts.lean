import TableQuery.Driver.Engine
import TableQuery.Proofs.Announcements
import TableQuery.Proofs.Margins

/-!
# Timeouts of connections

A setting says how long a connection waits for a busy database.  However the connection is opened,
a numeral up to the limit of the engine is the time that it waits, unless it is negative.  A greater
numeral counts as no time at all, and whatever is no numeral as the time that is waited by default.
-/

namespace TableQuery

open ExceptT (Ensures)

namespace Numeral

/-- Characters stand for an integer: digits in groups within the limit, perhaps after a sign. -/
def StandsFor (chars : List Char) (number : Int) : Prop :=
  ∃ body digits, Grouped body digits ∧ digits.length ≤ digitLimit ∧
    ((chars = body ∨ chars = '+' :: body) ∧ number = positionalValue digits ∨
      chars = '-' :: body ∧ number = -positionalValue digits)

/-- The integers that are read are those that characters stand for. -/
theorem integer?_eq_some_iff_standsFor
    {chars : List Char}
    {number : Int} :
    integer? chars = some number ↔ StandsFor chars number := by
  rw [integer?_eq_some_iff]
  constructor
  · rintro ⟨digits, grouped, short, same⟩
    refine ⟨_, digits, grouped, short, ?_⟩
    rw [same]
    unfold splitSign
    split
    · exact .inr ⟨rfl, rfl⟩
    · exact .inl ⟨.inr rfl, rfl⟩
    · exact .inl ⟨.inl rfl, rfl⟩
  · rintro ⟨body, digits, grouped, short, ⟨rfl | rfl, rfl⟩ | ⟨rfl, rfl⟩⟩
    · exact ⟨digits, by rwa [splitSign_of_grouped grouped], short,
        by rw [splitSign_of_grouped grouped]; rfl⟩
    · exact ⟨digits, grouped, short, rfl⟩
    · exact ⟨digits, grouped, short, rfl⟩

end Numeral

namespace Settings

open Text Numeral

/-! ## Integers in settings -/

/-- A text denotes an integer: it stands for the integer between white space. -/
def Denotes (content : String) (number : Int) : Prop :=
  ∃ front body back, content.toList = front ++ body ++ back ∧ (∀ c ∈ front ++ back, isBlank c) ∧
    StandsFor body number

theorem integerOf?_eq_some_iff_denotes
    {content : String}
    {number : Int} :
    integerOf? content = some number ↔ Denotes content number := by
  simp only [integerOf?_eq_some_iff, integer?_eq_some_iff_standsFor, Denotes]

/-- A setting configures an integer: it is set, and its text denotes the integer. -/
def Configures (world : World) (name : String) (number : Int) : Prop :=
  ∃ content, world.valueOf? name = some content ∧ Denotes content number

/-- A setting as an integer, where the settings have been loaded. -/
def integerIn (world : World) (name : String) (default : Int) : Int :=
  ((world.valueOf? name).bind integerOf?).getD default

theorem configures_iff
    {world : World}
    {name : String}
    {number : Int} :
    Configures world name number ↔ (world.valueOf? name).bind integerOf? = some number := by
  simp only [Configures, Option.bind_eq_some_iff, integerOf?_eq_some_iff_denotes]

theorem integerIn_of_configures
    {world : World}
    {name : String}
    {number : Int}
    (configures : Configures world name number)
    (default : Int) :
    integerIn world name default = number := by
  rw [integerIn, configures_iff.mp configures, Option.getD_some]

theorem integerIn_of_forall_not
    {world : World}
    {name : String}
    (none : ∀ number, ¬ Configures world name number)
    (default : Int) :
    integerIn world name default = default := by
  have unread : (world.valueOf? name).bind integerOf? = Option.none :=
    Option.eq_none_iff_forall_ne_some.mpr fun number known => none number (configures_iff.mpr known)
  rw [integerIn, unread, Option.getD_none]

theorem runFrom_integer_of_loaded
    {world : World}
    (loaded : world.settings.loaded)
    (name : String)
    (default : Int) :
    (integer name default).runFrom world = (.ok (integerIn world name default), world) := by
  unfold integer
  rw [ExceptT.runFrom_bind_ok (runFrom_find?_of_loaded loaded name)]
  rfl

theorem runFrom_choice?_of_loaded
    {world : World}
    (loaded : world.settings.loaded)
    (name : String)
    (choices : List String) :
    (choice? name choices).runFrom world =
      (.ok (choose? ((world.valueOf? name).getD "") choices), world) := by
  unfold choice?
  rw [ExceptT.runFrom_bind_ok (runFrom_find?_of_loaded loaded name)]
  rfl

/-- The settings of a world have been loaded, and its variables are those of another world. -/
structure LoadedAs (first world : World) : Prop where
  loaded : world.settings.loaded
  same : ∀ name, world.valueOf? name = first.valueOf? name

variable {first : World}

theorem ensures_integer
    (name : String)
    (default : Int) :
    Ensures (LoadedAs first) (integer name default) fun number world =>
      LoadedAs first world ∧ number = integerIn first name default := by
  intro world number after known ran
  rw [runFrom_integer_of_loaded known.loaded] at ran
  obtain ⟨rfl, rfl⟩ : integerIn world name default = number ∧ world = after := by simpa using ran
  exact ⟨known, by rw [integerIn, known.same, integerIn]⟩

theorem ensures_choice?
    (name : String)
    (choices : List String) :
    Ensures (LoadedAs first) (choice? name choices) fun _ => LoadedAs first :=
  .of_unchanged fun _ known =>
    congrArg Prod.snd (runFrom_choice?_of_loaded known.loaded name choices)

theorem ensures_textOr (name default : String) :
    Ensures (LoadedAs first) (textOr name default) fun _ => LoadedAs first :=
  .of_unchanged fun _ known =>
    congrArg Prod.snd (runFrom_textOr_of_loaded known.loaded name default)

/-- Changes of files do not change settings. -/
theorem ensures_onFiles (operation : Files.Operation α) :
    Ensures (LoadedAs first) (liftM (World.onFiles operation : StateM World _) : Action World _)
      fun _ => LoadedAs first := by
  intro world result after known ran
  rw [Log.runFrom_onFiles, Prod.mk.injEq] at ran
  rw [← ran.2]
  exact ⟨known.loaded, known.same⟩

end Settings

namespace Database

open Settings

/-! ## Connections -/

/-- The setting for the time that a connection waits. -/
def timeoutName : String := "SQLITE_BUSY_TIMEOUT_MS"

/-- The time that a connection waits, as the settings of a world have it. -/
def timeoutIn (world : World) : Int :=
  effectiveTimeout (integerIn world timeoutName 4000)

theorem effectiveTimeout_of_le
    {number : Int}
    (within : number ≤ timeoutLimit) :
    effectiveTimeout number = max 0 number := by
  unfold effectiveTimeout
  rw [if_neg (by simp [timeoutLimit] at within ⊢; omega)]

theorem effectiveTimeout_of_lt
    {number : Int}
    (beyond : timeoutLimit < number) :
    effectiveTimeout number = 0 := by
  unfold effectiveTimeout
  rw [if_pos (lt_max_of_lt_right beyond)]

variable {first : World}

/-- A connection waits as the settings of a world have it. -/
def WaitsAs (first : World) (connection : Connection) : Prop :=
  connection.busyTimeout = timeoutIn first

theorem ensures_makeFile (file : String) :
    Ensures (LoadedAs first) (makeFile file) fun _ => LoadedAs first := by
  unfold makeFile
  extract_lets journal append
  have appended : Ensures (LoadedAs first) (append ()) fun _ => LoadedAs first := by
    refine .bind .get fun world => ?_
    refine .bind (ensures_onFiles _) fun result => ?_
    cases result with
    | ok => exact .pure fun _ => id
    | error error => exact .throw _
  split
  · exact .bind (.throw _) fun _ => appended
  · exact appended

theorem ensures_prepareFile (file shown : String) :
    Ensures (LoadedAs first) (prepareFile file shown) fun _ => LoadedAs first := by
  unfold prepareFile
  refine .bind .get fun world => ?_
  split
  · exact .throw _
  · refine .bind (ensures_onFiles _) fun made => ?_
    exact .bind (.lift _) fun _ => ensures_makeFile file

theorem ensures_connectMemory :
    Ensures (LoadedAs first) connectMemory fun connection _ => WaitsAs first connection := by
  unfold connectMemory
  refine .bind (ensures_choice? _ _) fun synchronous => ?_
  refine .bind (ensures_integer _ _) fun timeout => ?_
  exact .pure fun _ known => congrArg effectiveTimeout known.2

/-- A connection to a file chooses a journal, then how carefully it writes, and then how long it
waits. -/
theorem ensures_connectFile (file shown : String) :
    Ensures (fun setting : Setting Storage => LoadedAs first setting.1) (connectFile file shown)
      fun connection _ => WaitsAs first connection := by
  unfold connectFile
  refine .bind .get fun setting => ?_
  refine .bind (Setting.ensures_onWorld (ensures_choice? _ _)) fun journal => ?_
  extract_lets write
  have written : Ensures (fun setting : Setting Storage => LoadedAs first setting.1) (write ())
      fun connection _ => WaitsAs first connection := by
    refine .bind (Setting.ensures_onWorld (ensures_choice? _ _)) fun synchronous => ?_
    extract_lets wait
    have waited : Ensures (fun setting : Setting Storage => LoadedAs first setting.1) (wait ())
        fun connection _ => WaitsAs first connection := by
      refine .bind (Setting.ensures_onWorld (ensures_integer _ _)) fun timeout => ?_
      refine .bind (Setting.ensures_onOther (fun world => LoadedAs first world ∧ _) _) fun _ => ?_
      exact .pure fun _ known => congrArg effectiveTimeout known.2
    split
    · exact .bind (.throw _) fun _ => waited
    · exact waited
  cases journal with
  | none => exact written
  | some journal =>
      dsimp only
      split
      · exact .bind (.throw _) fun _ => written
      · exact .bind (Setting.ensures_onOther _ _) fun _ => written

theorem ensures_connect (path : Value) :
    Ensures (fun setting : Setting Storage => LoadedAs first setting.1) (connect path)
      fun connection _ => WaitsAs first connection := by
  unfold connect
  extract_lets path
  split
  · exact Setting.ensures_onWorld ensures_connectMemory
  · refine .bind .get fun setting => ?_
    refine .bind (.lift _) fun (file, shown) => ?_
    refine .bind (Setting.ensures_onWorld (ensures_prepareFile file shown)) fun _ => ?_
    exact ensures_connectFile file shown

/-- A database in memory can always be opened where the settings have been loaded. -/
theorem runFrom_connect_memory
    {setting : Setting Storage}
    (loaded : setting.1.settings.loaded) :
    ∃ connection, (connect (.text memoryPath)).runFrom setting = (.ok connection, setting) := by
  have memory : (connectMemory.runFrom setting.1).2 = setting.1 ∧
      ∃ connection, (connectMemory.runFrom setting.1).1 = .ok connection := by
    unfold connectMemory
    rw [ExceptT.runFrom_bind_ok (runFrom_choice?_of_loaded loaded _ _),
      ExceptT.runFrom_bind_ok (runFrom_integer_of_loaded loaded _ _)]
    exact ⟨rfl, _, rfl⟩
  obtain ⟨unchanged, connection, connected⟩ := memory
  refine ⟨connection, ?_⟩
  change (Setting.onWorld connectMemory).runFrom setting = _
  rw [Setting.runFrom_onWorld, connected, unchanged]

end Database

namespace Engine

open Database Settings

variable {first : World}

/-! ## Ways to a connection -/

/-- A way to a connection: a path, a dictionary with a path, the key of a driver with parameters, or
the settings alone. -/
inductive Opening where
  | path (given : Value)
  | dictionary (entries : List (Value × Value))
  | key (given parameters : Value)
  | configured

namespace Opening

/-- The action that makes the connection. -/
def action : Opening → Action (Setting Storage) Connection
  | .path given => Database.connect given
  | .dictionary entries => Engine.connect entries
  | .key given parameters => create given parameters
  | .configured => createConfigured

/-- Where the settings of a world have been loaded, an opening makes a connection. -/
def Opens
    (opening : Opening)
    (world : World)
    (connection : Connection) :
    Prop :=
  world.settings.loaded ∧ ∃ storage after,
    opening.action.runFrom (world, storage) = (.ok connection, after)

/-- A database in memory can be opened wherever the settings have been loaded. -/
theorem exists_opens_memory
    (world : World)
    (loaded : world.settings.loaded) :
    ∃ connection, (path (.text memoryPath)).Opens world connection := by
  obtain ⟨connection, connected⟩ := @runFrom_connect_memory (world, {}) loaded
  exact ⟨connection, loaded, {}, _, connected⟩

end Opening

theorem ensures_configured :
    Ensures (LoadedAs first) configured fun _ => LoadedAs first := by
  unfold configured
  refine .bind (ensures_textOr _ _) fun name => ?_
  extract_lets chosen
  split
  · exact .bind (ensures_textOr _ _) fun path => .pure fun _ => id
  · exact .throw _

theorem ensures_create (given parameters : Value) :
    Ensures (fun setting : Setting Storage => LoadedAs first setting.1) (create given parameters)
      fun connection _ => WaitsAs first connection := by
  unfold create
  refine .bind (.lift _) fun chosen => ?_
  split
  · refine .bind (.lift _) fun entries => ?_
    refine .bind (ensures_connect _) fun connection => ?_
    exact .bind (.const _ _) fun _ => .pure fun _ => id
  · exact .throw _

/-- However a connection is made, it waits as the settings have it. -/
theorem ensures_action (opening : Opening) :
    Ensures (fun setting : Setting Storage => LoadedAs first setting.1) opening.action
      fun connection _ => WaitsAs first connection := by
  cases opening with
  | path given => exact ensures_connect given
  | dictionary entries => exact ensures_connect _
  | key given parameters => exact ensures_create given parameters
  | configured =>
      exact .bind (Setting.ensures_onWorld ensures_configured) fun configuration =>
        ensures_create _ _

theorem Opening.Opens.waitsAs
    {opening : Opening}
    {world : World}
    {connection : Connection}
    (opens : opening.Opens world connection) :
    WaitsAs world connection := by
  obtain ⟨loaded, storage, after, opened⟩ := opens
  exact ensures_action opening (world, storage) connection after ⟨loaded, fun _ => rfl⟩ opened

/-- However a connection is made where the settings have been loaded, it waits for as long as they
configure: an integer up to the limit of the engine is the time that it waits, a negative one
counting as zero.  Where the settings configure no integer, it waits for four seconds.  An integer
beyond the limit makes the connection wait not at all; up to the limit more is never less. -/
theorem busyTimeout_of_opens
    {opening : Opening}
    {world : World}
    {connection : Connection}
    (opens : opening.Opens world connection) :
    (∀ number, Configures world timeoutName number → number ≤ timeoutLimit →
        connection.busyTimeout = max 0 number) ∧
      ((∀ number, ¬ Configures world timeoutName number) → connection.busyTimeout = 4000) ∧
        (∀ number, Configures world timeoutName number → timeoutLimit < number →
          connection.busyTimeout = 0) ∧
          ∀ (otherOpening : Opening) (other : World) (otherConnection : Connection),
            otherOpening.Opens other otherConnection →
              ∀ less more, Configures world timeoutName less → Configures other timeoutName more →
                less ≤ more → more ≤ timeoutLimit →
                  connection.busyTimeout ≤ otherConnection.busyTimeout := by
  have configured {number : Int} (configures : Configures world timeoutName number) :
      connection.busyTimeout = effectiveTimeout number := by
    rw [opens.waitsAs, timeoutIn, integerIn_of_configures configures]
  refine ⟨fun number configures within => ?_, fun none => ?_, fun number configures beyond => ?_,
    fun otherOpening other otherConnection otherOpens less more configures otherConfigures ordered
      within => ?_⟩
  · rw [configured configures, effectiveTimeout_of_le within]
  · rw [opens.waitsAs, timeoutIn, integerIn_of_forall_not none]
    rfl
  · rw [configured configures, effectiveTimeout_of_lt beyond]
  · rw [configured configures, effectiveTimeout_of_le (ordered.trans within), otherOpens.waitsAs,
      timeoutIn, integerIn_of_configures otherConfigures, effectiveTimeout_of_le within]
    exact max_le_max_left 0 ordered

/-- A world whose settings have been loaded and hold a text for the timeout. -/
def waiting (content : String) : World :=
  { holding content with environment := [(timeoutName, content)] }

/-- A file in a new directory is opened with a timeout of three digits in ASCII and one outside it,
after a plus sign and between white space. -/
theorem busyTimeout_of_opens_grouped :
    ∃ connection, (Opening.path (.text "a/b.db")).Opens (waiting "\t+7_00\u0663\n") connection ∧
      connection.busyTimeout = 7003 := by
  have opened : (((Opening.path (.text "a/b.db")).action.runFrom
      (waiting "\t+7_00\u0663\n", {})).1.toOption.map Connection.file) = some "/home/a/b.db" := by
    decide +kernel
  obtain ⟨connection, result, _⟩ := Except.exists_of_map_toOption opened
  have opens : (Opening.path (.text "a/b.db")).Opens (waiting "\t+7_00\u0663\n") connection :=
    ⟨rfl, {}, _, ExceptT.runFrom_eq_of_fst result⟩
  have configures : Configures (waiting "\t+7_00\u0663\n") timeoutName 7003 :=
    configures_iff.mpr (by decide +kernel)
  exact ⟨connection, opens, (busyTimeout_of_opens opens).1 7003 configures (by decide)⟩

/-- A timeout of one millisecond beyond the limit is none, so that a database in memory waits less
with it than with five seconds. -/
theorem busyTimeout_lost_of_long :
    ∃ long short, (Opening.path (.text memoryPath)).Opens (waiting "2147483648") long ∧
      (Opening.path (.text memoryPath)).Opens (waiting "5000") short ∧
        Configures (waiting "2147483648") timeoutName 2147483648 ∧
          Configures (waiting "5000") timeoutName 5000 ∧
            long.busyTimeout ≠ max 0 2147483648 ∧ long.busyTimeout < short.busyTimeout := by
  obtain ⟨long, longOpens⟩ := Opening.exists_opens_memory (waiting "2147483648") rfl
  obtain ⟨short, shortOpens⟩ := Opening.exists_opens_memory (waiting "5000") rfl
  have longConfigures : Configures (waiting "2147483648") timeoutName 2147483648 :=
    configures_iff.mpr (by decide +kernel)
  have shortConfigures : Configures (waiting "5000") timeoutName 5000 :=
    configures_iff.mpr (by decide +kernel)
  have longWaits : long.busyTimeout = 0 := by
    rw [longOpens.waitsAs, timeoutIn, integerIn_of_configures longConfigures]
    rfl
  have shortWaits : short.busyTimeout = 5000 := by
    rw [shortOpens.waitsAs, timeoutIn, integerIn_of_configures shortConfigures]
    rfl
  refine ⟨long, short, longOpens, shortOpens, longConfigures, shortConfigures, ?_, ?_⟩
  · rw [longWaits]
    decide
  · rw [longWaits, shortWaits]
    decide

end Engine
end TableQuery
