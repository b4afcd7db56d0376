import TableQuery.Driver.Engine
import TableQuery.Proofs.Actions
import TableQuery.Proofs.Statements
import TableQuery.Query.Execution

/-!
# Statements of an execution

The engine's driver compiles a specification without a change of the state, and its statement has
the tokens of the request that the specification makes.
-/

namespace TableQuery
namespace Execution

theorem escape_driver : Engine.driver.escape = Sql.doubleQuotes := rfl

theorem unboundedLimit_driver : Engine.driver.unboundedLimit = some Sql.unboundedText := rfl

/-- The engine's driver changes nothing while a specification is compiled. -/
theorem runFrom_compiled
    (compilation : Sql.Compilation α)
    (setting : Setting Database.Access) :
    (compiled Engine.driver compilation).runFrom setting = (compilation.outcome, setting) := by
  unfold compiled
  rw [ExceptT.runFrom_bind, ExceptT.runFrom_modify]
  exact ExceptT.runFrom_lift compilation.outcome setting

/-- The statement that fetches the rows of a specification, or the fault that ends its
compilation. -/
def statementOf (spec : Spec) : Except Fault String :=
  (Sql.compile spec Sql.doubleQuotes).outcome.map fun clauses =>
    Sql.selectStatement spec.table clauses (some Sql.unboundedText)

theorem runFrom_selectSql
    (spec : Spec)
    (setting : Setting Database.Access) :
    (selectSql Engine.driver spec).runFrom setting = (statementOf spec, setting) := by
  unfold selectSql statementOf
  rw [ExceptT.runFrom_bind, runFrom_compiled, escape_driver, unboundedLimit_driver]
  cases (Sql.compile spec Sql.doubleQuotes).outcome <;> rfl

/-- The statement that counts rows, or the fault that ended its compilation. -/
theorem runFrom_countSql
    (spec : Spec)
    (setting : Setting Database.Access) :
    (countSql Engine.driver spec).runFrom setting =
      ((Sql.compileWhere spec Sql.doubleQuotes).outcome.map
        (Sql.countStatement spec.table), setting) := by
  unfold countSql
  rw [ExceptT.runFrom_bind, runFrom_compiled]
  rw [escape_driver]
  cases (Sql.compileWhere spec Sql.doubleQuotes).outcome <;> rfl

/-- A specification that can be rendered has a statement with the tokens of its request. -/
theorem selectSql_tokens
    {spec : Spec}
    (renderable : spec.IsRenderable)
    (setting : Setting Database.Access) :
    ∃ statement, (selectSql Engine.driver spec).runFrom setting = (.ok statement, setting) ∧
      Sql.tokenize statement = spec.request.tokens := by
  obtain ⟨clauses, compiles, spells⟩ := Sql.spells_selectStatement renderable
  refine ⟨_, ?_, Sql.tokenize_of_spells spells⟩
  rw [runFrom_selectSql, statementOf, compiles]
  rfl

theorem countSql_tokens
    {spec : Spec}
    (plain : spec.IsPlain)
    (setting : Setting Database.Access) :
    ∃ statement, (countSql Engine.driver spec).runFrom setting = (.ok statement, setting) ∧
      Sql.tokenize statement = Sql.Request.countTokens spec.table.display spec.conditions := by
  obtain ⟨filter, compiles, spells⟩ := Sql.spells_countStatement plain
  refine ⟨_, ?_, Sql.tokenize_of_spells spells⟩
  rw [runFrom_countSql, compiles]
  rfl

/-- A well-formed specification has a statement that fetches rows if and only if its values have
texts. -/
theorem exists_selectSql_iff
    {spec : Spec}
    (formed : spec.IsWellFormed)
    (setting : Setting Database.Access) :
    (∃ statement, (selectSql Engine.driver spec).runFrom setting = (.ok statement, setting)) ↔
      spec.HasTexts := by
  constructor
  · rintro ⟨statement, ran⟩
    rw [runFrom_selectSql, statementOf] at ran
    refine (Sql.exists_compile_iff formed).mp ?_
    cases compiled : (Sql.compile spec Sql.doubleQuotes).outcome with
    | error fault =>
        rw [compiled] at ran
        cases congrArg Prod.fst ran
    | ok clauses => exact ⟨clauses, rfl⟩
  · intro texts
    obtain ⟨statement, ran, _⟩ := selectSql_tokens (formed.isRenderable texts) setting
    exact ⟨statement, ran⟩

/-- A specification of a plain form has a statement that counts rows if and only if its values have
texts. -/
theorem exists_countSql_iff
    {spec : Spec}
    (form : spec.HasPlainForm)
    (setting : Setting Database.Access) :
    (∃ statement, (countSql Engine.driver spec).runFrom setting = (.ok statement, setting)) ↔
      spec.HasTexts := by
  constructor
  · rintro ⟨statement, ran⟩
    rw [runFrom_countSql] at ran
    cases compiled : (Sql.compileWhere spec Sql.doubleQuotes).outcome with
    | error fault =>
        rw [compiled] at ran
        cases congrArg Prod.fst ran
    | ok filter => exact Sql.hasTexts_of_compileWhere compiled
  · intro texts
    obtain ⟨statement, ran, _⟩ := countSql_tokens ⟨form, texts⟩ setting
    exact ⟨statement, ran⟩

theorem tokens_of_selectSql
    {spec : Spec}
    (formed : spec.IsWellFormed)
    {setting : Setting Database.Access}
    {statement : String}
    (ran : (selectSql Engine.driver spec).runFrom setting = (.ok statement, setting)) :
    Sql.tokenize statement = spec.request.tokens := by
  have texts := (exists_selectSql_iff formed setting).mp ⟨statement, ran⟩
  obtain ⟨other, known, tokens⟩ := selectSql_tokens (formed.isRenderable texts) setting
  obtain rfl : other = statement := Except.ok.inj (congrArg Prod.fst (known.symm.trans ran))
  exact tokens

theorem tokens_of_countSql
    {spec : Spec}
    (form : spec.HasPlainForm)
    {setting : Setting Database.Access}
    {statement : String}
    (ran : (countSql Engine.driver spec).runFrom setting = (.ok statement, setting)) :
    Sql.tokenize statement = Sql.Request.countTokens spec.table.display spec.conditions := by
  have texts := (exists_countSql_iff form setting).mp ⟨statement, ran⟩
  obtain ⟨other, known, tokens⟩ := countSql_tokens ⟨form, texts⟩ setting
  obtain rfl : other = statement := Except.ok.inj (congrArg Prod.fst (known.symm.trans ran))
  exact tokens

/-! ## Runs -/

/-- Logs a statement before it is run, where the settings ask for that. -/
def announce (statement : String) : Action World Unit := do
  if ← Settings.flag "QUERY_LOG_SQL" false then Log.record .debug (mark statement)

/-- A statement is announced and then run; a fault of the driver stays a fault. -/
theorem runFrom_run
    (method : String → Action state Value)
    (statement : String)
    (setting : Setting state) :
    (run method statement).runFrom setting =
      match (announce statement).runFrom setting.1 with
      | (.error fault, world) => (.error fault, (world, setting.2))
      | (.ok _, world) =>
        (tryCatch (Setting.onOther (method statement)) fun fault => do
          Setting.onWorld (recordFault statement fault)
          throw fault).runFrom (world, setting.2) := by
  unfold run announce
  rw [ExceptT.runFrom_bind, Setting.runFrom_onWorld, ExceptT.runFrom_bind]
  rcases (Settings.flag "QUERY_LOG_SQL" false).runFrom setting.1 with ⟨_ | asked, world⟩
  · rfl
  · cases asked with
    | false => rfl
    | true =>
        simp only [if_true]
        rw [ExceptT.runFrom_bind, Setting.runFrom_onWorld]
        rcases (Log.record .debug (mark statement)).runFrom world with ⟨_ | _, after⟩ <;> rfl

/-- A run has a result if and only if the announcement is taken and the driver has one. -/
theorem runFrom_run_ok_iff
    {method : String → Action state Value}
    {statement : String}
    {setting after : Setting state}
    {result : Value} :
    (run method statement).runFrom setting = (.ok result, after) ↔
      (announce statement).runFrom setting.1 = (.ok (), after.1) ∧
        (method statement).runFrom setting.2 = (.ok result, after.2) := by
  rw [runFrom_run]
  rcases (announce statement).runFrom setting.1 with ⟨_ | _, world⟩
  · simp
  · simp only [ExceptT.runFrom_tryCatch, Setting.runFrom_onOther]
    rcases (method statement).runFrom setting.2 with ⟨fault | value, other⟩
    · simp only [ExceptT.runFrom_bind, Setting.runFrom_onWorld]
      rcases (recordFault statement fault).runFrom world with ⟨_ | _, last⟩ <;>
        simp
    · simp only [Prod.ext_iff, Except.ok.injEq, true_and]
      tauto

/-! ## Answers of the engine -/

/-- The answer of the engine to a statement on a connection. -/
def answerTo (access : Database.Access) (statement : String) : Except Fault Database.Answer :=
  if access.connection.isOpen then
    Database.Access.orProblem (Database.query access.tables statement)
  else .error (.database .closed)

/-- The engine answers on an open connection what it answers on the tables. -/
theorem answerTo_eq_ok_iff
    {access : Database.Access}
    {statement : String}
    {answer : Database.Answer} :
    answerTo access statement = .ok answer ↔
      access.connection.isOpen ∧ Database.query access.tables statement = .ok answer := by
  by_cases isOpen : access.connection.isOpen
  · cases queried : Database.query access.tables statement <;>
      simp [answerTo, isOpen, queried, Database.Access.orProblem]
  · simp [answerTo, isOpen]

/-- The instances of the rows of an answer. -/
def instancesOf (model : Model) (answer : Database.Answer) : Except Fault (List Instance) :=
  (answer.rows.map (Database.Access.rowValue answer.columns)).mapM model.hydrate

theorem runFrom_selectRows
    (access : Database.Access)
    (statement : String) :
    (Database.Access.selectRows statement).runFrom access =
      ((answerTo access statement).map fun answer =>
        .list (answer.rows.map (Database.Access.rowValue answer.columns)), access) := by
  unfold Database.Access.selectRows Database.Access.answer Database.Access.ensureOpen answerTo
  by_cases isOpen : access.connection.isOpen
  · simp [ExceptT.runFrom_bind, isOpen]
  · simp [ExceptT.runFrom_bind, isOpen, Except.map]

theorem hydrateAll_list
    (model : Model)
    (rows : List Value) :
    hydrateAll model (.list rows) = rows.mapM model.hydrate := by
  cases rows <;> rfl

/-- The instances of the rows with which the engine answers a statement. -/
theorem runFrom_find_of_answered
    {model : Model}
    {spec : Spec}
    {setting : Setting Database.Access}
    {statement : String}
    (known : statementOf spec = .ok statement)
    {world : World}
    (announced : (announce statement).runFrom setting.1 = (.ok (), world))
    {answer : Database.Answer}
    (answered : answerTo setting.2 statement = .ok answer) :
    (find Engine.driver model spec).runFrom setting =
      (instancesOf model answer, (world, setting.2)) := by
  have driven : Engine.driver.selectRows = Database.Access.selectRows := rfl
  have selected := runFrom_selectRows setting.2 statement
  rw [answered] at selected
  have ranRows : (run Database.Access.selectRows statement).runFrom setting =
      (.ok (.list (answer.rows.map (Database.Access.rowValue answer.columns))),
        (world, setting.2)) :=
    runFrom_run_ok_iff.mpr ⟨announced, selected⟩
  unfold find
  rw [ExceptT.runFrom_bind, runFrom_selectSql, known, driven]
  have bound := ExceptT.runFrom_bind (run Database.Access.selectRows statement)
    (fun rows => (hydrateAll model rows : Except Fault (List Instance))) setting
  simp only
  rw [bound, ranRows]
  simp only [ExceptT.runFrom_lift, hydrateAll_list]
  rfl

/-- Rows are found if and only if the specification has a statement whose announcement is taken, the
engine answers it, and all rows of the answer have instances. -/
theorem runFrom_find_ok_iff
    {model : Model}
    {spec : Spec}
    {setting after : Setting Database.Access}
    {found : List Instance} :
    (find Engine.driver model spec).runFrom setting = (.ok found, after) ↔
      ∃ statement answer,
        statementOf spec = .ok statement ∧
        (announce statement).runFrom setting.1 = (.ok (), after.1) ∧
        answerTo setting.2 statement = .ok answer ∧
        instancesOf model answer = .ok found ∧ after.2 = setting.2 := by
  have driven : Engine.driver.selectRows = Database.Access.selectRows := rfl
  constructor
  · unfold find
    rw [ExceptT.runFrom_bind, runFrom_selectSql, driven]
    rcases statementOf spec with fault | statement
    · simp
    · have bound := ExceptT.runFrom_bind (run Database.Access.selectRows statement)
        (fun rows => (hydrateAll model rows : Except Fault (List Instance))) setting
      simp only
      rw [bound]
      intro ran
      rcases ranRows : (run Database.Access.selectRows statement).runFrom setting with
        ⟨fault | rows, last⟩
      · simp [ranRows] at ran
      · obtain ⟨announced, selected⟩ := runFrom_run_ok_iff.mp ranRows
        rw [runFrom_selectRows] at selected
        rcases answered : answerTo setting.2 statement with fault | answer
        · simp [answered, Except.map] at selected
        · simp only [answered, Except.map, Prod.mk.injEq, Except.ok.injEq] at selected
          obtain ⟨rfl, same⟩ := selected
          simp only [ranRows, ExceptT.runFrom_lift, hydrateAll_list, Prod.mk.injEq] at ran
          obtain ⟨hydrated, rfl⟩ := ran
          exact ⟨statement, answer, rfl, announced, answered, hydrated, same.symm⟩
  · rintro ⟨statement, answer, known, announced, answered, hydrated, unchanged⟩
    rw [runFrom_find_of_answered known announced answered, hydrated, ← unchanged]

/-- A connection to an empty database in memory, in a world without variables and files. -/
def quiet : Setting Database.Access where
  fst :=
    { clock := ⟨2026, 10, 17, 12, 0, 0⟩
      directory := "/"
      environment := []
      tree := {} }
  snd :=
    { storage := {}
      connection :=
        { file := ":memory:"
          location := .memory []
          chosenJournal := "memory"
          synchronous := 1
          busyTimeout := 4000 } }

/-- A table of staff. -/
def staffTable : Database.Table where
  name := "staff"
  columns :=
    [.declare "id" "INTEGER PRIMARY KEY", .declare "name" "TEXT", .declare "city" "TEXT",
      .declare "age" "INTEGER"]
  rows := [⟨1, [.integer 1, .text "Mary O'Neil", .text "Rome", .integer 30]⟩]

/-- A connection to a database in memory with some tables. -/
def accessTo (tables : List Database.Table) : Database.Access :=
  { quiet.2 with connection := { quiet.2.connection with location := .memory tables } }

/-- A model of the staff. -/
def staffModel : Model where
  name := "Staff"
  table := .text "staff"

/-- The staff of Rome, at most one. -/
def romans : Spec where
  table := .text "staff"
  limit := .int 1
  predicates := [.comparison .equal (.text "city") (.text "Rome")]

theorem hasPlainNames_romans : romans.HasPlainNames where
  table := by decide
  sortColumn := by decide
  fields := by decide
  columns := by
    intro given member
    obtain rfl := List.mem_singleton.mp member
    exact (by decide : ∀ column ∈ [Value.text "city"], column.IsPlainName)

/-- All staff but the first of them, sorted by a name that ends the statement: the backtick closes
the name, and what follows it is a comment. -/
def cutOff : Spec where
  table := .text "staff"
  sortColumn := .text "id` --"
  offset := .int 1

end Execution
end TableQuery
