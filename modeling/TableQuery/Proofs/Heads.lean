import TableQuery.Proofs.Bounds

/-!
# Heads of answers

The first instance of a query is the head of what the query finds, whatever section of the rows it
asks for: fewer rows of a section are its beginning.  Fetching the first instance leaves a query
that asks for one row.
-/

namespace TableQuery

/-- Fewer members of a window are the beginning of the window. -/
theorem Database.window_window
    {count limit : Nat}
    (some : count ≠ 0)
    (within : limit = 0 ∨ count ≤ limit)
    (offset : Nat)
    (rows : List α) :
    window count 0 (window limit offset rows) = window count offset rows := by
  rw [window, window, window, if_neg some, if_neg some, List.drop_zero]
  split
  · rfl
  · rw [List.take_take]
    congr 1
    omega

namespace Execution

/-- Where the engine answers for a section of the rows, it answers for all of them. -/
theorem answerTo_of_sectionStatement
    {access : Database.Access}
    {spec : Spec}
    (plain : spec.IsPlain)
    {filter : String}
    (compiled : (Sql.compileWhere spec Sql.doubleQuotes).outcome = .ok filter)
    {limit offset : Nat}
    (smallLimit : limit < 2 ^ 63)
    (smallOffset : offset < 2 ^ 63)
    {answer : Database.Answer}
    (answered : answerTo access (Sql.sectionStatement spec filter limit offset) = .ok answer) :
    ∃ all, answerTo access (Sql.sectionStatement spec filter 0 0) = .ok all ∧
      answer = { all with rows := Database.window limit offset all.rows } := by
  obtain ⟨isOpen, queried⟩ := answerTo_eq_ok_iff.mp answered
  rw [Sql.query_sectionStatement access.tables plain compiled smallLimit smallOffset] at queried
  cases whole : Database.query access.tables (Sql.sectionStatement spec filter 0 0) with
  | error problem => simp [whole, Except.map] at queried
  | ok all =>
      rw [whole] at queried
      exact ⟨all, answerTo_eq_ok_iff.mpr ⟨isOpen, whole⟩, (Except.ok.inj queried).symm⟩

/-- Where a section of the rows is found, fewer rows from the same place on are its beginning. -/
theorem find_fewer
    {model : Model}
    {spec : Spec}
    (collected : ∃ fields, spec.searchFields = .list fields)
    (names : spec.HasPlainNames)
    {limit offset : Nat}
    (smallLimit : limit < 2 ^ 63)
    (smallOffset : offset < 2 ^ 63)
    {setting after : Setting Database.Access}
    {rows : List Instance}
    (found : (find Engine.driver model (spec.sectioned limit offset)).runFrom setting =
      (.ok rows, after))
    {count : Nat}
    (some : count ≠ 0)
    (smallCount : count < 2 ^ 63)
    (within : limit = 0 ∨ count ≤ limit)
    {world : World}
    (takes : TakesStatements world) :
    ∃ last, (find Engine.driver model (spec.sectioned count offset)).runFrom (world, setting.2) =
        (.ok (rows.take count), (last, setting.2)) ∧
      TakesStatements last := by
  obtain ⟨statement, answer, known, _, answered, hydrated, _⟩ := runFrom_find_ok_iff.mp found
  obtain ⟨filter, compiled, rfl⟩ := compiled_of_statementOf smallLimit smallOffset known
  have stated := statementOf_sectioned spec smallCount smallOffset
  rw [compiled] at stated
  have plain := isPlain_of_compiled collected names compiled
  obtain ⟨all, answeredAll, rfl⟩ :=
    answerTo_of_sectionStatement plain compiled smallLimit smallOffset answered
  have answeredFewer :=
    answerTo_sectionStatement plain compiled answeredAll smallCount smallOffset
  have hydratedFewer := instancesOf_window hydrated count 0
  simp only [Database.window_window some within] at hydratedFewer
  have beginning : Database.window count 0 rows = rows.take count := by
    rw [Database.window, if_neg some, List.drop_zero]
  rw [beginning] at hydratedFewer
  obtain ⟨last, announced⟩ := takes (Sql.sectionStatement spec filter count offset)
  refine ⟨last, ?_, (takesStatements_of_announce announced).2⟩
  apply runFrom_find_ok_iff.mpr
  exact ⟨_, _, stated, announced, answeredFewer, hydratedFewer, rfl⟩

end Execution

namespace Builder

open Execution

/-- Fetching the first instance changes nothing but the bound that a query asks for. -/
theorem apply_first
    (driver : Driver state)
    (builder : Builder)
    (setting : Setting state) :
    builder.apply driver .first setting =
      let edited := { builder.spec with limit := .int 1 }
      let ran := (find driver builder.model edited).runFrom setting
      ({ builder with spec := edited },
        ran.1.map fun found => .instance? found.head?, ran.2) := by
  have edited : Call.first.edit builder.spec = .ok { builder.spec with limit := .int 1 } := rfl
  simp only [apply_of_edit driver edited, Call.answer, ExceptT.runFrom_map]

/-- Where a query finds instances, whatever its bounds are, the first instance is their head.  The
query then asks for one row and for nothing else that is new, and finds the first instance alone. -/
theorem first_eq_head
    {builder : Builder}
    (collected : ∃ fields, builder.spec.searchFields = .list fields)
    (names : builder.spec.HasPlainNames)
    {limit offset : Nat}
    (isLimit : builder.spec.limit = .int limit)
    (isOffset : builder.spec.offset = .int offset)
    (smallLimit : limit < 2 ^ 63)
    (smallOffset : offset < 2 ^ 63)
    {setting after : Setting Database.Access}
    {rows : List Instance}
    (found : (find Engine.driver builder.model builder.spec).runFrom setting =
      (.ok rows, after)) :
    ∀ start, start = setting ∨ start = after →
      (builder.apply Engine.driver .first start).1 =
        { builder with spec := { builder.spec with limit := .int 1 } } ∧
      (applyAll Engine.driver [.first, .find] builder start).1 =
        [.ok (.instance? rows.head?), .ok (.instances (rows.take 1))] := by
  intro start known
  have takes := takesStatements_of_found found known
  have sectioned : builder.spec = builder.spec.sectioned limit offset := by
    rw [Spec.sectioned, ← isLimit, ← isOffset]
  have one : { builder.spec with limit := .int 1 } = builder.spec.sectioned 1 offset := by
    rw [Spec.sectioned, ← isOffset]
    rfl
  have within : limit = 0 ∨ 1 ≤ limit := by omega
  have fewer : ∀ world, TakesStatements world → ∃ last,
      (find Engine.driver builder.model { builder.spec with limit := .int 1 }).runFrom
          (world, setting.2) = (.ok (rows.take 1), (last, setting.2)) ∧ TakesStatements last := by
    intro world taking
    rw [sectioned] at found
    rw [one]
    exact find_fewer collected names smallLimit smallOffset found (by decide) (by decide) within
      taking
  obtain ⟨middle, ran, takesMiddle⟩ := fewer start.1 takes.1
  obtain ⟨last, again, _⟩ := fewer middle takesMiddle
  rw [← takes.2] at ran
  constructor
  · rw [apply_first]
  · rw [← takes.2] at again
    simp only [applyAll, apply_first, apply_find, ran, again]
    cases rows <;> rfl

/-- The table of staff with another row. -/
def pairTable : Database.Table :=
  { staffTable with
    rows := staffTable.rows ++ [⟨2, [.integer 2, .text "Eva", .text "Rome", .integer 41]⟩] }

theorem isSound_pairTable : pairTable.IsSound := by
  have inserted : staffTable.insert [.integer 2, .text "Eva", .text "Rome", .integer 41] =
      .ok pairTable := by
    rfl
  exact isSound_staffTable.insert rfl inserted

/-- All staff, with a name that hides from the engine whatever follows it. -/
def commenting : Spec where
  table := .text "staff"
  sortColumn := .text "id` ASC --"

/-- The rows of both staff are their own order. -/
theorem matching_pairTable : (comparing 0 []).matching pairTable = pairTable.rows := by
  have kept : pairTable.rows.filter ((comparing 0 []).keeps pairTable) = pairTable.rows := by
    decide
  rw [Spec.matching, kept]
  exact List.mergeSort_of_pairwise (by decide)

theorem instances_pairTable :
    ∃ rows, pairTable.rows.mapM (instanceOf staffModel pairTable) = .ok rows ∧ rows.length = 2 :=
  Except.exists_of_map_toOption
    (by decide +kernel :
      (pairTable.rows.mapM (instanceOf staffModel pairTable)).toOption.map List.length = some 2)

/-- What is hidden from the engine does not change what is found. -/
theorem find_commenting
    (limit : Nat)
    (small : limit < 2 ^ 63)
    (tokens : Sql.tokenize (Sql.sectionStatement commenting "" limit 0) =
      Sql.tokenize (Sql.sectionStatement (comparing 0 []) "" 0 0))
    {world : World}
    (takes : TakesStatements world) :
    ∃ last, (find Engine.driver staffModel (commenting.sectioned limit 0)).runFrom
        (world, accessTo [pairTable]) =
        (pairTable.rows.mapM (instanceOf staffModel pairTable), (last, accessTo [pairTable])) ∧
      TakesStatements last := by
  have asks : Asks (comparing 0 []) (quiet.1, accessTo [pairTable]) pairTable :=
    asks_comparing quiet.1 rfl isSound_pairTable (by decide) (by decide) (by decide)
  have plain : (comparing 0 []).IsPlain :=
    (by constructor <;> decide : (comparing 0 []).HasPlainNames).isPlain asks.searchFields
      asks.complete (hasTexts_comparing 0 (by simp))
  have compiled : (Sql.compileWhere (comparing 0 []) Sql.doubleQuotes).outcome = .ok "" := rfl
  have queried := Database.query_wholeStatement plain asks.found asks.sound
    (fun _ _ _ => by decide) asks.names (by decide) (by decide) compiled
  rw [matching_pairTable] at queried
  obtain ⟨_, parsed, known, evaluated⟩ := Database.evaluate_of_query queried
  rw [← tokens] at known
  have free : '\x00' ∉ (Sql.sectionStatement commenting "" limit 0).toList := by
    rw [Sql.nul_mem_sectionStatement]
    decide
  have answered : answerTo (accessTo [pairTable]) (Sql.sectionStatement commenting "" limit 0) =
      .ok _ :=
    answerTo_eq_ok_iff.mpr ⟨rfl, Database.query_of_evaluate free known evaluated⟩
  have stated : statementOf (commenting.sectioned limit 0) =
      .ok (Sql.sectionStatement commenting "" limit 0) := by
    rw [statementOf_sectioned commenting small (by decide)]
    rfl
  obtain ⟨last, announced⟩ := takes (Sql.sectionStatement commenting "" limit 0)
  refine ⟨last, ?_, (takesStatements_of_announce announced).2⟩
  rw [← instancesOf_rows]
  exact runFrom_find_of_answered stated announced answered

theorem first_eq_head_comparing :
    ∃ rows, rows.length = 2 ∧
      ((find Engine.driver staffModel (comparing 0 [])).runFrom
        (quiet.1, accessTo [pairTable])).1 = .ok rows ∧
      (applyAll Engine.driver [.first, .find] ⟨staffModel, comparing 0 []⟩
          (quiet.1, accessTo [pairTable])).1 =
        [.ok (.instance? rows.head?), .ok (.instances (rows.take 1))] := by
  obtain ⟨rows, hydrated, two⟩ := instances_pairTable
  have names : (comparing 0 []).HasPlainNames := by constructor <;> decide
  have asks : Asks (comparing 0 []) (quiet.1, accessTo [pairTable]) pairTable :=
    asks_comparing quiet.1 rfl isSound_pairTable (by decide) (by decide) (by decide)
  obtain ⟨last, announced⟩ : ∃ last, (announce "").runFrom quiet.1 = (.ok (), last) := ⟨_, rfl⟩
  have texts : (comparing 0 []).HasTexts := hasTexts_comparing 0 (by simp)
  obtain ⟨after, found⟩ := asks.findsSelected names texts (fun _ _ _ => by decide) (by decide)
    (by decide) (takesStatements_of_announce announced).1 staffModel
  have selected : (comparing 0 []).selected pairTable = pairTable.rows := by
    rw [Spec.selected, matching_pairTable]
    rfl
  rw [selected, hydrated] at found
  have collected : ∃ fields, (comparing 0 []).searchFields = .list fields := ⟨[], rfl⟩
  have heads := @first_eq_head ⟨staffModel, comparing 0 []⟩ collected names 0 0 rfl rfl
    (by decide) (by decide) _ _ _ found _ (.inl rfl)
  exact ⟨rows, two, congrArg Prod.fst found, heads.2⟩

/-- A name that hides the bound from the engine lets a query for one row find more. -/
theorem not_first_eq_head :
    ∃ rows : List Instance, rows.length = 2 ∧
      ((find Engine.driver staffModel commenting).runFrom (quiet.1, accessTo [pairTable])).1 =
        .ok rows ∧
      (applyAll Engine.driver [.first, .find] ⟨staffModel, commenting⟩
          (quiet.1, accessTo [pairTable])).1 =
        [.ok (.instance? rows.head?), .ok (.instances rows)] ∧
      rows ≠ rows.take 1 := by
  obtain ⟨rows, hydrated, two⟩ := instances_pairTable
  obtain ⟨last, announced⟩ : ∃ last, (announce "").runFrom quiet.1 = (.ok (), last) := ⟨_, rfl⟩
  have takes := (takesStatements_of_announce announced).1
  obtain ⟨_, all, _⟩ := find_commenting 0 (by decide) (by decide +kernel) takes
  have one {world : World} (takes : TakesStatements world) :=
    find_commenting 1 (by decide) (by decide +kernel) takes
  obtain ⟨middle, ran, takesMiddle⟩ := one takes
  obtain ⟨_, again, _⟩ := one takesMiddle
  rw [hydrated] at all ran again
  refine ⟨rows, two, congrArg Prod.fst all, ?_, ?_⟩
  · have edited : { commenting with limit := .int 1 } = commenting.sectioned 1 0 := rfl
    simp only [applyAll, apply_first, apply_find, edited, ran, again]
    rfl
  · intro same
    have shorter : (rows.take 1).length = 1 := by
      rw [List.length_take, two]
      rfl
    rw [← same, two] at shorter
    cases shorter

end Builder
end TableQuery
