import Mathlib.Data.List.Forall2
import TableQuery.Proofs.Completeness
import TableQuery.Proofs.Finding
import TableQuery.Proofs.History

/-!
# Pages

Pages are slices of the rows that a query without bounds finds.  Fetching all of them, in any order,
loses no row and repeats none.
-/

namespace TableQuery

/-! ## Slices of lists -/

/-- The members of a list on one of its pages; pages count from one. -/
def pageSlice (size page : Nat) (rows : List α) : List α :=
  (rows.take (page * size)).drop ((page - 1) * size)

/-- Joins pages in the order of their numbers. -/
def joinPages (pages : List (Nat × List α)) : List α :=
  (pages.mergeSort fun first second => first.1 ≤ second.1).flatMap Prod.snd

/-- A page is the window of its size after the pages before it. -/
theorem window_page
    {size page : Nat}
    (nonempty : 1 ≤ size)
    (first : 1 ≤ page)
    (rows : List α) :
    Database.window size ((page - 1) * size) rows = pageSlice size page rows := by
  obtain ⟨before, rfl⟩ : ∃ before, page = before + 1 := ⟨page - 1, by omega⟩
  have bounded : size ≠ 0 := by omega
  rw [Database.window, if_neg bounded, pageSlice, List.drop_take, Nat.add_sub_cancel, Nat.succ_mul,
    Nat.add_sub_cancel_left]

/-- The first pages of a list hold its first members. -/
theorem flatMap_pageSlice
    (size : Nat)
    (rows : List α)
    (count : Nat) :
    (List.range' 1 count).flatMap (fun page => pageSlice size page rows) =
      rows.take (count * size) := by
  induction count with
  | zero => simp
  | succ count inductionHypothesis =>
      rw [List.range'_concat, List.flatMap_append, inductionHypothesis]
      have next : pageSlice size (1 + count) rows = (rows.drop (count * size)).take size := by
        rw [pageSlice, List.drop_take, Nat.add_sub_cancel_left, Nat.add_mul, Nat.one_mul,
          Nat.add_sub_cancel]
      rw [Nat.add_mul, List.take_add]
      simp [next]

/-- Pages that cover a list join to it, in whatever order they come. -/
theorem joinPages_of_perm
    {size count : Nat}
    {rows : List α}
    (covers : rows.length ≤ count * size)
    {numbers : List Nat}
    (all : numbers.Perm (List.range' 1 count)) :
    joinPages (numbers.map fun page => (page, pageSlice size page rows)) = rows := by
  have sorted : numbers.mergeSort (fun first second => first ≤ second) = List.range' 1 count := by
    have transitive : ∀ first second third : Nat, decide (first ≤ second) →
        decide (second ≤ third) → decide (first ≤ third) := by
      simp only [decide_eq_true_eq]
      exact fun _ _ _ => Nat.le_trans
    have total : ∀ first second : Nat, decide (first ≤ second) || decide (second ≤ first) := by
      simp only [Bool.or_eq_true, decide_eq_true_eq]
      exact Nat.le_total
    have ordered := List.pairwise_mergeSort transitive total numbers
    simp only [decide_eq_true_eq] at ordered
    apply List.Perm.eq_of_pairwise (fun _ _ _ _ => Nat.le_antisymm) ordered
    · exact List.pairwise_le_range' 1
    · exact (List.mergeSort_perm numbers _).trans all
  have paired : (numbers.mergeSort fun first second => first ≤ second).map
      (fun page => (page, pageSlice size page rows)) =
      (numbers.map fun page => (page, pageSlice size page rows)).mergeSort
        fun first second => first.1 ≤ second.1 := by
    apply List.map_mergeSort
    intro first _ second _
    rfl
  rw [joinPages, ← paired, sorted, List.flatMap_map]
  simp only
  rw [flatMap_pageSlice, List.take_of_length_le covers]

/-- There is nothing on a page after those that cover a list. -/
theorem pageSlice_of_covered
    {size count page : Nat}
    {rows : List α}
    (covers : rows.length ≤ count * size)
    (later : count < page) :
    pageSlice size page rows = [] := by
  have reached : count * size ≤ (page - 1) * size := Nat.mul_le_mul_right size (by omega)
  apply List.drop_eq_nil_of_le
  rw [List.length_take]
  omega

/-! ## Queries as calls build them -/

/-- The search fields of a query are a list. -/
theorem Builder.IsMade.searchFields
    {builder : Builder}
    (made : builder.IsMade) :
    ∃ fields, builder.spec.searchFields = .list fields := by
  obtain ⟨_, _, known⟩ := made.history
  exact ⟨_, congrArg Spec.searchFields known⟩

/-- A specification with plain names whose conditions can be compiled is plain. -/
theorem isPlain_of_compiled
    {spec : Spec}
    (collected : ∃ fields, spec.searchFields = .list fields)
    (names : spec.HasPlainNames)
    {filter : String}
    (compiled : (Sql.compileWhere spec Sql.doubleQuotes).outcome = .ok filter) :
    spec.IsPlain := by
  obtain ⟨_, texts, complete⟩ := (Sql.exists_compileWhere_iff spec Sql.doubleQuotes).mp
    ⟨filter, compiled⟩
  exact names.isPlain collected complete texts

/-! ## Runs of sections -/

namespace Execution

/-- Where there is a statement for a section of the rows, the conditions can be compiled. -/
theorem compiled_of_statementOf
    {spec : Spec}
    {limit offset : Nat}
    (smallLimit : limit < 2 ^ 63)
    (smallOffset : offset < 2 ^ 63)
    {statement : String}
    (known : statementOf (spec.sectioned limit offset) = .ok statement) :
    ∃ filter, (Sql.compileWhere spec Sql.doubleQuotes).outcome = .ok filter ∧
      statement = Sql.sectionStatement spec filter limit offset := by
  rw [statementOf_sectioned spec smallLimit smallOffset] at known
  cases compiled : (Sql.compileWhere spec Sql.doubleQuotes).outcome with
  | error fault => simp [compiled, Except.map] at known
  | ok filter =>
      rw [compiled] at known
      exact ⟨filter, rfl, (Except.ok.inj known).symm⟩

/-- Where the engine answers for all rows, it answers for each section of them. -/
theorem answerTo_sectionStatement
    {access : Database.Access}
    {spec : Spec}
    (plain : spec.IsPlain)
    {filter : String}
    (compiled : (Sql.compileWhere spec Sql.doubleQuotes).outcome = .ok filter)
    {answer : Database.Answer}
    (answered : answerTo access (Sql.sectionStatement spec filter 0 0) = .ok answer)
    {limit offset : Nat}
    (smallLimit : limit < 2 ^ 63)
    (smallOffset : offset < 2 ^ 63) :
    answerTo access (Sql.sectionStatement spec filter limit offset) =
      .ok { answer with rows := Database.window limit offset answer.rows } := by
  obtain ⟨isOpen, queried⟩ := answerTo_eq_ok_iff.mp answered
  refine answerTo_eq_ok_iff.mpr ⟨isOpen, ?_⟩
  rw [Sql.query_sectionStatement access.tables plain compiled smallLimit smallOffset, queried]
  rfl

/-- Members that are related one by one are so in every window. -/
theorem forall₂_window
    {relation : α → β → Prop}
    {left : List α}
    {right : List β}
    (related : List.Forall₂ relation left right)
    (limit offset : Nat) :
    List.Forall₂ relation (Database.window limit offset left)
      (Database.window limit offset right) := by
  unfold Database.window
  split
  · exact List.forall₂_drop offset related
  · exact List.forall₂_take limit (List.forall₂_drop offset related)

/-- The instances of a window of rows are the window of the instances. -/
theorem instancesOf_window
    {model : Model}
    {answer : Database.Answer}
    {found : List Instance}
    (known : instancesOf model answer = .ok found)
    (limit offset : Nat) :
    instancesOf model { answer with rows := Database.window limit offset answer.rows } =
      .ok (Database.window limit offset found) := by
  unfold instancesOf at known ⊢
  rw [List.mapM_map, Except.mapM_eq_ok_iff] at known ⊢
  exact forall₂_window known limit offset

/-- A section of the rows that are found without bounds is found as well. -/
theorem find_section
    {model : Model}
    {spec : Spec}
    (collected : ∃ fields, spec.searchFields = .list fields)
    (names : spec.HasPlainNames)
    {setting after : Setting Database.Access}
    {rows : List Instance}
    (found : (find Engine.driver model (spec.sectioned 0 0)).runFrom setting = (.ok rows, after))
    {limit offset : Nat}
    (smallLimit : limit < 2 ^ 63)
    (smallOffset : offset < 2 ^ 63)
    {world : World}
    (takes : TakesStatements world) :
    ∃ last, (find Engine.driver model (spec.sectioned limit offset)).runFrom (world, setting.2) =
        (.ok (Database.window limit offset rows), (last, setting.2)) ∧
      TakesStatements last := by
  obtain ⟨statement, answer, known, _, answered, hydrated, _⟩ := runFrom_find_ok_iff.mp found
  obtain ⟨filter, compiled, rfl⟩ := compiled_of_statementOf (by decide) (by decide) known
  have stated := statementOf_sectioned spec smallLimit smallOffset
  rw [compiled] at stated
  have plain := isPlain_of_compiled collected names compiled
  have answeredSection := answerTo_sectionStatement plain compiled answered smallLimit smallOffset
  obtain ⟨last, announced⟩ := takes (Sql.sectionStatement spec filter limit offset)
  refine ⟨last, ?_, (takesStatements_of_announce announced).2⟩
  apply runFrom_find_ok_iff.mpr
  exact ⟨_, _, stated, announced, answeredSection, instancesOf_window hydrated limit offset, rfl⟩

/-- Where rows have been found, statements could be announced and still can be, and the connection
is as it was. -/
theorem takesStatements_of_found
    {model : Model}
    {spec : Spec}
    {setting after : Setting Database.Access}
    {rows : List Instance}
    (found : (find Engine.driver model spec).runFrom setting = (.ok rows, after))
    {start : Setting Database.Access}
    (known : start = setting ∨ start = after) :
    TakesStatements start.1 ∧ start.2 = setting.2 := by
  obtain ⟨_, _, _, announced, _, _, same⟩ := runFrom_find_ok_iff.mp found
  have both := takesStatements_of_announce announced
  rcases known with rfl | rfl
  · exact ⟨both.1, rfl⟩
  · exact ⟨both.2, same⟩

end Execution

/-! ## Sequences of pages -/

@[simp] theorem Spec.sectioned_sectioned
    (spec : Spec)
    (first second limit offset : Nat) :
    (spec.sectioned first second).sectioned limit offset = spec.sectioned limit offset := rfl

theorem pageOf_eq_sectioned
    (page perPage : Value)
    (spec : Spec) :
    Call.pageOf page perPage spec =
      spec.sectioned (Call.atLeastOne perPage)
        ((Call.atLeastOne page - 1) * Call.atLeastOne perPage) := rfl

namespace Builder

open Execution

theorem apply_paginate
    (builder : Builder)
    (page perPage : Value)
    (setting : Setting Database.Access) :
    builder.apply Engine.driver (.paginate page perPage) setting =
      let edited := Call.pageOf page perPage builder.spec
      let ran := (find Engine.driver builder.model edited).runFrom setting
      ({ builder with spec := edited }, ran.1.map .instances, ran.2) := by
  have edited : (Call.paginate page perPage).edit builder.spec =
    .ok (Call.pageOf page perPage builder.spec) := rfl
  simp only [apply_of_edit Engine.driver edited, Call.answer, ExceptT.runFrom_map]

/-- Each call for a page gives back its slice, whichever calls for pages have come before. -/
theorem applyAll_paginate
    {spec : Spec}
    {model : Model}
    (collected : ∃ fields, spec.searchFields = .list fields)
    (names : spec.HasPlainNames)
    {setting after : Setting Database.Access}
    {rows : List Instance}
    (found : (find Engine.driver model (spec.sectioned 0 0)).runFrom setting = (.ok rows, after))
    (perPage : Value)
    {pages : List Value}
    (small : ∀ page ∈ pages, Call.atLeastOne page * Call.atLeastOne perPage < 2 ^ 63)
    {builder : Builder}
    (sameModel : builder.model = model)
    (sameSpec : builder.spec.sectioned 0 0 = spec.sectioned 0 0)
    {world : World}
    (takes : TakesStatements world) :
    (applyAll Engine.driver (pages.map fun page => .paginate page perPage) builder
        (world, setting.2)).1 =
      pages.map fun page =>
        .ok (.instances
          (pageSlice (Call.atLeastOne perPage) (Call.atLeastOne page) rows)) := by
  induction pages generalizing builder world with
  | nil => rfl
  | cons page rest inductionHypothesis =>
      have firstSize : 1 ≤ Call.atLeastOne perPage := Nat.le_max_right _ _
      have firstPage : 1 ≤ Call.atLeastOne page := Nat.le_max_right _ _
      have smallPage := small page (by simp)
      have smallSize : Call.atLeastOne perPage < 2 ^ 63 :=
        (Nat.le_mul_of_pos_left _ firstPage).trans_lt smallPage
      have smallOffset : (Call.atLeastOne page - 1) * Call.atLeastOne perPage < 2 ^ 63 :=
        (Nat.mul_le_mul_right _ (Nat.sub_le _ 1)).trans_lt smallPage
      -- The bounds of earlier calls are replaced, so every page is cut from the same query.
      have edited : Call.pageOf page perPage builder.spec =
          spec.sectioned (Call.atLeastOne perPage)
            ((Call.atLeastOne page - 1) * Call.atLeastOne perPage) := by
        rw [pageOf_eq_sectioned, ← Spec.sectioned_sectioned builder.spec 0 0, sameSpec,
          Spec.sectioned_sectioned]
      obtain ⟨last, ran, takesLast⟩ :=
        find_section collected names found smallSize smallOffset takes
      rw [window_page firstSize firstPage] at ran
      have following : (applyAll Engine.driver (rest.map fun page => .paginate page perPage)
          { model, spec := Call.pageOf page perPage builder.spec } (last, setting.2)).1 = _ :=
        inductionHypothesis (fun other member => small other (List.mem_cons_of_mem page member)) rfl
          (by rw [edited, Spec.sectioned_sectioned]) takesLast
      simp only [List.map_cons, applyAll, apply_paginate, sameModel, edited, ran] at following ⊢
      rw [following]
      rfl

/-- Pages are the slices of the rows that the query finds without bounds, from wherever they are
fetched and whatever has been fetched before.  Pages that cover the rows join to them, in whatever
order they are fetched, and later pages are empty. -/
theorem pages_partition_found
    {builder : Builder}
    (made : builder.IsMade)
    (names : builder.spec.HasPlainNames)
    {setting after : Setting Database.Access}
    {rows : List Instance}
    (found : (find Engine.driver builder.model (builder.spec.sectioned 0 0)).runFrom setting =
      (.ok rows, after))
    (perPage : Value) :
    ∀ start, start = setting ∨ start = after →
      (∀ pages : List Value,
        (∀ page ∈ pages, Call.atLeastOne page * Call.atLeastOne perPage < 2 ^ 63) →
        (applyAll Engine.driver (pages.map fun page => .paginate page perPage) builder start).1 =
          pages.map fun page =>
            .ok (.instances
              (pageSlice (Call.atLeastOne perPage) (Call.atLeastOne page) rows))) ∧
      ∀ count, rows.length ≤ count * Call.atLeastOne perPage →
        count * Call.atLeastOne perPage < 2 ^ 63 →
        (∀ pages : List Value, (pages.map Call.atLeastOne).Perm (List.range' 1 count) →
          ∃ answers : List (List Instance),
            (applyAll Engine.driver (pages.map fun page => .paginate page perPage) builder
                start).1 = answers.map (fun answer => .ok (.instances answer)) ∧
              joinPages ((pages.map Call.atLeastOne).zip answers) = rows) ∧
        ∀ page, count < page → pageSlice (Call.atLeastOne perPage) page rows = [] := by
  intro start known
  have takes := takesStatements_of_found found known
  have slices : ∀ pages : List Value,
      (∀ page ∈ pages, Call.atLeastOne page * Call.atLeastOne perPage < 2 ^ 63) →
      (applyAll Engine.driver (pages.map fun page => .paginate page perPage) builder start).1 =
        pages.map fun page =>
          .ok (.instances
            (pageSlice (Call.atLeastOne perPage) (Call.atLeastOne page) rows)) := by
    intro pages small
    have answered := applyAll_paginate made.searchFields names found perPage small rfl rfl takes.1
    rw [← takes.2] at answered
    exact answered
  refine ⟨slices, ?_⟩
  intro count covers smallCount
  constructor
  · intro pages all
    have small : ∀ page ∈ pages, Call.atLeastOne page * Call.atLeastOne perPage < 2 ^ 63 := by
      intro page member
      have listed := all.subset (List.mem_map_of_mem member)
      have atMost : Call.atLeastOne page ≤ count := by
        rw [List.mem_range'_1] at listed
        omega
      exact (Nat.mul_le_mul_right _ atMost).trans_lt smallCount
    refine ⟨pages.map fun page =>
      pageSlice (Call.atLeastOne perPage) (Call.atLeastOne page) rows, ?_, ?_⟩
    · rw [slices pages small, List.map_map]
      rfl
    · have joined := joinPages_of_perm covers all
      rw [List.map_map] at joined
      rw [List.zip_map']
      exact joined
  · intro page later
    exact pageSlice_of_covered covers later

theorem found_romans :
    ∃ rows,
      ((find Engine.driver staffModel (romans.sectioned 0 0)).runFrom
        (quiet.1, accessTo [staffTable])).1 = .ok rows ∧
      rows.length = 1 :=
  Except.exists_of_map_toOption
    (by decide +kernel :
      ((find Engine.driver staffModel (romans.sectioned 0 0)).runFrom
        (quiet.1, accessTo [staffTable])).1.toOption.map List.length = some 1)

theorem found_cutOff :
    ∃ rows,
      ((find Engine.driver staffModel (cutOff.sectioned 0 0)).runFrom
        (quiet.1, accessTo [staffTable])).1 = .ok rows ∧
      rows.length = 1 :=
  Except.exists_of_map_toOption
    (by decide +kernel :
      ((find Engine.driver staffModel (cutOff.sectioned 0 0)).runFrom
        (quiet.1, accessTo [staffTable])).1.toOption.map List.length = some 1)

theorem pages_partition_found_romans :
    ∃ rows,
      ((find Engine.driver staffModel (romans.sectioned 0 0)).runFrom
        (quiet.1, accessTo [staffTable])).1 = .ok rows ∧
      (applyAll Engine.driver [.paginate (.int 2) (.int 1), .paginate .none (.int 1)]
          ⟨staffModel, romans⟩ (quiet.1, accessTo [staffTable])).1 =
        [.ok (.instances (pageSlice 1 2 rows)), .ok (.instances (pageSlice 1 1 rows))] := by
  have made : (Builder.mk staffModel romans).IsMade := by
    have new : Builder.new staffModel = .ok ⟨staffModel, { table := .text "staff" }⟩ := rfl
    have bounded : (Call.limit (.int 1)).edit { table := .text "staff" } =
      .ok { table := .text "staff", limit := .int 1 } := rfl
    have filtered : (Call.compare .equal (.text "city") (.text "Rome")).edit
      { table := .text "staff", limit := .int 1 } = .ok romans := rfl
    exact ((IsMade.new new).edit bounded).edit filtered
  obtain ⟨rows, found, _⟩ := found_romans
  have small : ∀ page ∈ [Value.int 2, .none],
      Call.atLeastOne page * Call.atLeastOne (.int 1) < 2 ^ 63 := by
    decide
  have slices := (pages_partition_found made hasPlainNames_romans
    (ExceptT.runFrom_eq_of_fst found) (.int 1) _ (.inl rfl)).1 [.int 2, .none] small
  exact ⟨rows, found, slices⟩

/-- A name with a backtick cuts off the section, and a later page repeats what has been found. -/
theorem page_repeats_of_cutOff :
    (Builder.mk staffModel cutOff).IsMade ∧
    ∃ rows page,
      ((find Engine.driver staffModel (cutOff.sectioned 0 0)).runFrom
        (quiet.1, accessTo [staffTable])).1 = .ok rows ∧
      ((Builder.mk staffModel cutOff).apply Engine.driver (.paginate (.int 2) (.int 1))
        (quiet.1, accessTo [staffTable])).2.1 = .ok (.instances page) ∧
      page ≠ pageSlice 1 2 rows := by
  have made : (Builder.mk staffModel cutOff).IsMade := by
    have new : Builder.new staffModel = .ok ⟨staffModel, { table := .text "staff" }⟩ := rfl
    have sorted : (Call.sortBy (.text "id` --")).edit { table := .text "staff" } =
      .ok { table := .text "staff", sortColumn := .text "id` --" } := rfl
    have skipped : (Call.offset (.int 1)).edit
      { table := .text "staff", sortColumn := .text "id` --" } = .ok cutOff := rfl
    exact ((IsMade.new new).edit sorted).edit skipped
  obtain ⟨rows, found, one⟩ := found_cutOff
  obtain ⟨page, paged, again⟩ := Except.exists_of_map_toOption
    (by decide +kernel :
      ((find Engine.driver staffModel (cutOff.sectioned 1 1)).runFrom
        (quiet.1, accessTo [staffTable])).1.toOption.map List.length = some 1)
  refine ⟨made, rows, page, found, ?_, ?_⟩
  · have edited : Call.pageOf (.int 2) (.int 1) cutOff = cutOff.sectioned 1 1 := rfl
    rw [apply_paginate]
    simp only [edited, paged]
    rfl
  · intro same
    have empty : (pageSlice 1 2 rows).length = 0 := by
      simp [pageSlice, one]
    rw [← same, again] at empty
    cases empty

end Builder

end TableQuery
