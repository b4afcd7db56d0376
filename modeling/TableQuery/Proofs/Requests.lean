import TableQuery.Proofs.Operands
import TableQuery.Sql.Statement

/-!
# The queries of requests

The engine reads the tokens of a request as one query, unless the conditions make an expression that
is too high.
-/

namespace TableQuery
namespace Sql

/-- An integer in a query. -/
def integerExpression (number : Int) : Expression Reference :=
  .literal (.number (Numeral.integerText number))

/-- The expression that all conditions are, if there are any. -/
def filterExpression? (conditions : List Condition) : Option (Expression Reference) :=
  if conditions.isEmpty then none else some (filterOperand conditions).tree

/-- The query that a request is read as. -/
def Request.query (request : Request) : Query where
  selection :=
    { tables := [{ name := request.table }]
      filter := filterExpression? request.conditions }
  order :=
    [{ expression := .reference { column := request.sortColumn, quote := some '`' }
       direction := request.direction }]
  limit := request.limit.map integerExpression
  offset := request.offset.map integerExpression

/-! ## Tokens of expressions -/

theorem mem_intercalate
    {element : α}
    {separator : List α}
    {lists : List (List α)}
    (member : element ∈ separator.intercalate lists) :
    element ∈ separator ∨ ∃ list ∈ lists, element ∈ list := by
  induction lists with
  | nil => simp at member
  | cons first rest inductionHypothesis =>
      cases rest with
      | nil => exact .inr ⟨first, by simp, by simpa using member⟩
      | cons second others =>
          rw [List.intercalate_cons_cons, List.append_assoc] at member
          rcases List.mem_append.mp member with inFirst | inOthers
          · exact .inr ⟨first, by simp, inFirst⟩
          · rcases List.mem_append.mp inOthers with inSeparator | inRest
            · exact .inl inSeparator
            · rcases inductionHypothesis inRest with inSeparator | ⟨list, known, inList⟩
              · exact .inl inSeparator
              · exact .inr ⟨list, List.mem_cons_of_mem first known, inList⟩

theorem mem_intercalate_of_mem
    {element : α}
    (separator : List α)
    {list : List α}
    {lists : List (List α)}
    (known : list ∈ lists)
    (member : element ∈ list) :
    element ∈ separator.intercalate lists := by
  induction lists with
  | nil => simp at known
  | cons first rest inductionHypothesis =>
      cases rest with
      | nil =>
          rw [List.mem_singleton.mp known] at member
          simpa using member
      | cons second others =>
          rw [List.intercalate_cons_cons, List.append_assoc]
          rcases List.mem_cons.mp known with rfl | inRest
          · exact List.mem_append_left _ member
          · exact List.mem_append_right _ (List.mem_append_right _ (inductionHypothesis inRest))

/-- A token that begins no clause after a filter. -/
def Inner (token : Token) : Prop :=
  Progress.clauseOf? 2 token = none

theorem inner_connective (connective : Connective) : Inner connective.token := by
  cases connective <;> rfl

theorem inner_comparison
    {comparison : Comparison}
    {token : Token}
    (member : token ∈ comparison.tokens) :
    Inner token := by
  obtain ⟨column, comparator, value⟩ := comparison
  cases comparator <;>
    simp only [Comparison.tokens, Comparator.tokens, List.cons_append, List.nil_append,
      List.mem_cons, List.not_mem_nil, or_false] at member <;>
    rcases member with rfl | rfl | rfl | rfl <;> rfl

/-- No token of a condition begins another clause. -/
theorem inner_condition
    {condition : Condition}
    {token : Token}
    (member : token ∈ condition.tokens) :
    Inner token := by
  cases condition with
  | comparison part => exact inner_comparison member
  | membership negated column members =>
      simp only [Condition.tokens, List.mem_cons, List.mem_append, List.not_mem_nil,
        or_false] at member
      rcases member with rfl | words | rfl | inList | rfl
      · rfl
      · cases negated <;> simp at words
        · subst words
          rfl
        · rcases words with rfl | rfl <;> rfl
      · rfl
      · rcases mem_intercalate inList with separator | ⟨list, known, inMember⟩
        · rw [List.mem_singleton.mp separator]
          rfl
        · obtain ⟨text, -, rfl⟩ := List.mem_map.mp known
          rw [List.mem_singleton.mp inMember]
          rfl
      · rfl
  | constant truth =>
      simp only [Condition.tokens, List.mem_cons, List.not_mem_nil, or_false] at member
      rcases member with rfl | rfl | rfl <;> rfl
  | group connective parts =>
      simp only [Condition.tokens, List.mem_cons, List.mem_append, List.not_mem_nil,
        or_false] at member
      rcases member with rfl | inParts | rfl
      · rfl
      · rcases mem_intercalate inParts with separator | ⟨list, known, inPart⟩
        · rw [List.mem_singleton.mp separator]
          exact inner_connective _
        · obtain ⟨part, -, rfl⟩ := List.mem_map.mp known
          exact inner_comparison inPart
      · rfl

/-! ## Filters -/

namespace Progress

/-- A step within the expression of a clause is a step of the expression. -/
theorem step_expression
    (progress : Progress)
    {reading : Reading}
    {token : Token}
    {wrap : Reading → Clause}
    (inside : endsExpression (wrap reading) token = false) :
    (progress.goTo (wrap reading)).stepExpression wrap reading token =
      (reading.step token).map fun next => progress.goTo (wrap next) := by
  unfold stepExpression
  cases reading.outermost? with
  | none => cases reading.step token <;> rfl
  | some operand =>
      simp only [goTo, inside]
      cases reading.step token <;> rfl

/-- The expression of a clause is read by itself. -/
theorem run_expression
    (wrap : Reading → Clause)
    (steps : ∀ (progress : Progress) (reading : Reading) (token : Token),
      (progress.goTo (wrap reading)).step token =
        (progress.goTo (wrap reading)).stepExpression wrap reading token)
    {tokens : List Token}
    (inside : ∀ token ∈ tokens, ∀ reading, endsExpression (wrap reading) token = false)
    (progress : Progress)
    (reading : Reading) :
    run step (progress.goTo (wrap reading)) tokens =
      (run Reading.step reading tokens).map fun next => progress.goTo (wrap next) := by
  induction tokens generalizing reading with
  | nil => rfl
  | cons token rest inductionHypothesis =>
      have stepped := (steps progress reading token).trans
        (progress.step_expression (inside token (by simp) reading))
      cases read : reading.step token with
      | error problem =>
          rw [read] at stepped
          rw [run_cons_error stepped, run_cons_error read]
          rfl
      | ok next =>
          rw [read] at stepped
          rw [run_cons stepped, run_cons read]
          exact inductionHypothesis (fun other member =>
            inside other (List.mem_cons_of_mem token member)) next

/-- No token of joined conditions ends the filter. -/
theorem endsExpression_conditions (conditions : List Condition) :
    ∀ token ∈ [Connective.token .all].intercalate (conditions.map Condition.tokens),
      ∀ reading, endsExpression (.filter reading) token = false := by
  intro token member reading
  suffices inner : Inner token by
    rw [endsExpression, inner]
    rfl
  rcases mem_intercalate member with separator | ⟨list, known, inList⟩
  · rw [List.mem_singleton.mp separator]
    exact inner_connective .all
  · obtain ⟨condition, -, rfl⟩ := List.mem_map.mp known
    exact inner_condition inList

theorem filterTokens_of_ne_nil
    {conditions : List Condition}
    (nonempty : conditions ≠ []) :
    filterTokens conditions = .keyword .where "WHERE" ::
      [Connective.token .all].intercalate (conditions.map Condition.tokens) := by
  simp [filterTokens, nonempty]

/-- A query of one table with the filter of some conditions, before its order. -/
def filtered (table : String) (conditions : List Condition) : Query where
  selection := { tables := [{ name := table }], filter := filterExpression? conditions }

/-- A whole operand outside of parentheses is the outermost one. -/
theorem outermost?_complete
    {inner : List Frame}
    (last : Operand)
    (closed : anyOpen inner = false) :
    Reading.outermost? ⟨inner, .complete last⟩ = some last := by
  have notOpen : Reading.isOpen ⟨inner, .complete last⟩ = false := closed
  simp [Reading.outermost?, notOpen]

/-- The step on the word that begins an order, after a filter. -/
theorem step_order
    (progress : Progress)
    {inner : List Frame}
    (last : Operand)
    (closed : anyOpen inner = false) :
    (progress.goTo (.filter ⟨inner, .complete last⟩)).step (.keyword .order "ORDER") =
      (completeFrames 0 inner last).map fun whole =>
        (progress.onSelection ({ · with filter := some whole.2.tree })).goTo .by := by
  have outermost := outermost?_complete last closed
  have stepped : (progress.goTo (.filter ⟨inner, .complete last⟩)).step (.keyword .order "ORDER") =
      (progress.goTo (.filter ⟨inner, .complete last⟩)).stepEnd ⟨inner, .complete last⟩ last
        (.keyword .order "ORDER") := by
    change stepExpression _ _ _ _ = _
    rw [stepExpression, outermost]
    rfl
  rw [stepped]
  simp only [stepEnd, goTo, endFilter, Reading.whole]
  cases completeFrames 0 inner last <;> rfl

/-- The tokens of a filter and of the word that begins an order, after a table. -/
theorem run_filterTokens
    (table : String)
    {conditions : List Condition}
    (grammatical : ∀ condition ∈ conditions, condition.Grammatical) :
    run step { query := filtered table [], clause := .tableNamed }
        (filterTokens conditions ++ [.keyword .order "ORDER"]) =
      if heightLimit < (filterOperand conditions).height then .error (.tooHigh heightLimit)
      else .ok { query := filtered table conditions, clause := .by } := by
  by_cases empty : conditions = []
  · subst empty
    rfl
  · have opens : step { query := filtered table [], clause := .tableNamed }
        (.keyword .where "WHERE") =
        .ok (goTo { query := filtered table [] } (.filter {})) := rfl
    have reads := run_expression .filter (fun _ _ _ => rfl)
      (endsExpression_conditions conditions) { query := filtered table [] } {}
    rw [filterTokens_of_ne_nil empty, List.cons_append, run_cons opens]
    rcases Sql.run_filter grammatical empty with
      ⟨low, inner, last, read, closed, completed⟩ | ⟨high, fails | ⟨inner, last, read, closed, completed⟩⟩
    · have notHigh : ¬ heightLimit < (filterOperand conditions).height := by omega
      have ends := step_order { query := filtered table [] } last closed
      rw [completed] at ends
      rw [read] at reads
      rw [run_append reads, run_cons ends, if_neg notHigh]
      simp [run, onSelection, goTo, filtered, filterExpression?, empty, pure, Except.pure]
    · rw [fails] at reads
      rw [run_append_error reads, if_pos high]
    · have ends := step_order { query := filtered table [] } last closed
      rw [completed] at ends
      rw [read] at reads
      rw [run_append reads, run_cons_error ends, if_pos high]

/-- A filter at the end of a statement is completed there. -/
theorem finish_filter
    (progress : Progress)
    {inner : List Frame}
    (last : Operand)
    (closed : anyOpen inner = false) :
    (progress.goTo (.filter ⟨inner, .complete last⟩)).finish =
      (completeFrames 0 inner last).bind fun whole =>
        (progress.onSelection ({ · with filter := some whole.2.tree })).statement := by
  have outermost := outermost?_complete last closed
  simp only [finish, goTo, finishExpression, outermost, endFilter, Reading.whole]
  cases completeFrames 0 inner last <;> rfl

/-! ## Orders and sections -/

/-- The tokens of an order after its first word. -/
theorem run_order
    (query : Query)
    (unsorted : query.order = [])
    (column : String)
    (direction : Direction) :
    run step { query, clause := .by } [.keyword .by "BY", nameToken column, direction.token] =
      .ok
        { query :=
            { query with
              order :=
                [{ expression := .reference { column, quote := some '`' }, direction }] }
          clause := .termDirected } := by
  obtain ⟨earlier, selection, order, limit, offset⟩ := query
  subst unsorted
  cases direction <;> rfl

/-- The decimal text of a natural has no sign. -/
theorem head?_toDigits (number : Nat) : (Nat.toDigits 10 number).head? ≠ some '-' := by
  intro signed
  have digit := Numeral.isDigit_of_mem_toDigits (List.mem_of_mem_head? signed)
  simp [Char.isDigit] at digit

/-- A reading whose whole expression is an integer. -/
def ReadsInteger (reading : Reading) (number : Int) : Prop :=
  ∃ operand, reading.outermost? = some operand ∧
    reading.whole operand = .ok (integerExpression number)

/-- The tokens of an integer are read as the integer. -/
theorem run_integer (number : Int) :
    ∃ reading, run Reading.step {} (integerTokens number) = .ok reading ∧
      ReadsInteger reading number := by
  cases number with
  | ofNat number =>
      refine ⟨⟨[], .complete (.literal (.number number.repr))⟩, rfl, _, rfl, ?_⟩
      have text := Numeral.integerText_natCast number
      simp only [integerExpression]
      rw [Int.ofNat_eq_natCast, text]
      rfl
  | negSucc number =>
      refine ⟨⟨[.unary .negate], .complete (.literal (.number (number + 1).repr))⟩, rfl, _, rfl, ?_⟩
      have unsigned := head?_toDigits (number + 1)
      have text : Numeral.integerText (.negSucc number) = "-" ++ (number + 1).repr := by
        apply String.toList_injective
        simp [Numeral.integerText, Nat.repr_eq_ofList_toDigits]
      simp [Reading.whole, completeFrames, Frame.precedence?, Frame.complete, Operand.sign,
        Operand.literal, unsigned, Operand.ofHeight, heightLimit, integerExpression, text, bind,
        Except.bind, pure, Except.pure]

/-- The tokens of an integer end no clause of a section. -/
theorem endsExpression_integerTokens
    {number : Int}
    {token : Token}
    (member : token ∈ integerTokens number)
    (reading : Reading) :
    endsExpression (.limit reading) token = false ∧
      endsExpression (.offset reading) token = false := by
  cases number with
  | ofNat number =>
      rw [List.mem_singleton.mp member]
      exact ⟨rfl, rfl⟩
  | negSucc number =>
      simp only [integerTokens, List.mem_cons, List.not_mem_nil, or_false] at member
      rcases member with rfl | rfl <;> exact ⟨rfl, rfl⟩

/-- The tokens of an integer in a clause of a section are read as the integer. -/
theorem run_sectionInteger
    (wrap : Reading → Clause)
    (steps : ∀ (progress : Progress) (reading : Reading) (token : Token),
      (progress.goTo (wrap reading)).step token =
        (progress.goTo (wrap reading)).stepExpression wrap reading token)
    {number : Int}
    (inside : ∀ token ∈ integerTokens number, ∀ reading,
      endsExpression (wrap reading) token = false)
    (progress : Progress) :
    ∃ reading,
      run step (progress.goTo (wrap {})) (integerTokens number) =
        .ok (progress.goTo (wrap reading)) ∧
      ReadsInteger reading number := by
  obtain ⟨reading, read, reads⟩ := run_integer number
  refine ⟨reading, ?_, reads⟩
  rw [run_expression wrap steps inside, read]
  rfl

/-- A limit at the end of a statement is its bound. -/
theorem finish_limit
    (progress : Progress)
    {reading : Reading}
    {number : Int}
    (reads : ReadsInteger reading number) :
    (progress.goTo (.limit reading)).finish =
      { progress with
        query := { progress.query with limit := some (integerExpression number) } }.statement := by
  obtain ⟨operand, outermost, whole⟩ := reads
  simp only [finish, goTo, finishExpression, outermost, endLimit, whole]
  rfl

theorem finish_offset
    (progress : Progress)
    {reading : Reading}
    {number : Int}
    (reads : ReadsInteger reading number) :
    (progress.goTo (.offset reading)).finish =
      { progress with
        query := { progress.query with offset := some (integerExpression number) } }.statement := by
  obtain ⟨operand, outermost, whole⟩ := reads
  simp only [finish, goTo, finishExpression, outermost, endOffset, whole]
  rfl

/-- After a limit comes the count of rows that are left out. -/
theorem step_offset
    (query : Query)
    {reading : Reading}
    {number : Int}
    (reads : ReadsInteger reading number) :
    step (goTo { query } (.limit reading)) (.keyword .offset "OFFSET") =
      .ok (goTo { query := { query with limit := some (integerExpression number) } }
        (.offset {})) := by
  obtain ⟨operand, outermost, whole⟩ := reads
  change stepExpression _ _ _ _ = _
  rw [stepExpression, outermost]
  simp [endsExpression, goTo, clauseOf?, stepEnd, endLimit, whole, bind, Except.bind, pure,
    Except.pure]

/-- The tokens of a section, and the end of the statement after them. -/
theorem run_sectionTokens
    {query : Query}
    (unbounded : query.limit = none)
    (whole : query.offset = none)
    {limit offset : Option Int}
    (bounded : offset.isSome → limit.isSome) :
    (run step { query, clause := .termDirected } (sectionTokens limit offset)).bind finish =
      .ok
        { query :=
            { query with
              limit := limit.map integerExpression
              offset := offset.map integerExpression } } := by
  obtain ⟨earlier, selection, order, limit', offset'⟩ := query
  simp only at unbounded whole
  subst unbounded whole
  cases limit with
  | none =>
      cases offset with
      | none => rfl
      | some count => exact absurd (bounded rfl) (by simp)
  | some count =>
      have begins : step { query := ⟨earlier, selection, order, none, none⟩, clause := .termDirected }
          (.keyword .limit "LIMIT") =
          .ok (goTo { query := ⟨earlier, selection, order, none, none⟩ } (.limit {})) := rfl
      obtain ⟨reading, bound, reads⟩ := run_sectionInteger .limit (fun _ _ _ => rfl)
        (fun token (member : token ∈ integerTokens count) reading =>
          (endsExpression_integerTokens member reading).1)
        { query := ⟨earlier, selection, order, none, none⟩ }
      have first := (run_cons begins (integerTokens count)).trans bound
      cases offset with
      | none =>
          rw [sectionTokens, List.append_nil, first]
          exact finish_limit _ reads
      | some skipped =>
          obtain ⟨reading', second, reads'⟩ := run_sectionInteger .offset (fun _ _ _ => rfl)
            (fun token (member : token ∈ integerTokens skipped) reading =>
              (endsExpression_integerTokens member reading).2)
            { query := ⟨earlier, selection, order, some (integerExpression count), none⟩ }
          rw [sectionTokens, run_append first, run_cons (step_offset _ reads), second]
          exact finish_offset _ reads'

end Progress

/-- The engine reads a request as its query, unless its conditions make an expression that is too
high. -/
theorem readTokens_request
    {request : Request}
    (grammatical : request.Grammatical) :
    readTokens request.tokens =
      if heightLimit < (filterOperand request.conditions).height then
        .error (.tooHigh heightLimit)
      else .ok { query := request.query } := by
  have opening : run Progress.step {}
      [.keyword .select "SELECT", .symbol .star, .keyword .from "FROM", nameToken request.table] =
      .ok { query := Progress.filtered request.table [], clause := .tableNamed } := rfl
  have tokens : request.tokens =
      [.keyword .select "SELECT", .symbol .star, .keyword .from "FROM", nameToken request.table] ++
        ((filterTokens request.conditions ++ [.keyword .order "ORDER"]) ++
          ([.keyword .by "BY", nameToken request.sortColumn, request.direction.token] ++
            sectionTokens request.limit request.offset)) := by
    simp [Request.tokens]
  have filter := Progress.run_filterTokens request.table grammatical.conditions
  change (run Progress.step {} request.tokens).bind Progress.finish = _
  rw [tokens, run_append opening]
  by_cases high : heightLimit < (filterOperand request.conditions).height
  · rw [if_pos high] at filter ⊢
    rw [run_append_error filter]
    rfl
  · rw [if_neg high] at filter ⊢
    have order := Progress.run_order (Progress.filtered request.table request.conditions) rfl
      request.sortColumn request.direction
    rw [run_append filter, run_append order, Progress.run_sectionTokens rfl rfl grammatical.offset]
    rfl

/-! ## Counts -/

/-- The query for the count of the rows of a table of which some conditions are true. -/
def countQuery (table : String) (conditions : List Condition) : Query where
  selection :=
    { projection := .count
      tables := [{ name := table }]
      filter := filterExpression? conditions }

/-- The engine reads a request for a count as its query, unless the conditions make an expression
that is too high. -/
theorem readTokens_countTokens
    (table : String)
    {conditions : List Condition}
    (grammatical : ∀ condition ∈ conditions, condition.Grammatical) :
    readTokens (Request.countTokens table conditions) =
      if heightLimit < (filterOperand conditions).height then .error (.tooHigh heightLimit)
      else .ok { query := countQuery table conditions } := by
  have opening : run Progress.step {}
      [.keyword .select "SELECT", .word "COUNT", .symbol .opening, .symbol .star, .symbol .closing,
        .keyword .from "FROM", nameToken table] =
      .ok { query := countQuery table [], clause := .tableNamed } := rfl
  change (run Progress.step {} (Request.countTokens table conditions)).bind Progress.finish = _
  rw [Request.countTokens, run_append opening]
  by_cases empty : conditions = []
  · subst empty
    rfl
  · have opens : Progress.step { query := countQuery table [], clause := .tableNamed }
        (.keyword .where "WHERE") =
        .ok (Progress.goTo { query := countQuery table [] } (.filter {})) := rfl
    have reads := Progress.run_expression .filter (fun _ _ _ => rfl)
      (Progress.endsExpression_conditions conditions) { query := countQuery table [] } {}
    rw [Progress.filterTokens_of_ne_nil empty, run_cons opens]
    rcases Sql.run_filter grammatical empty with
      ⟨low, inner, last, read, closed, completed⟩ | ⟨high, fails | ⟨inner, last, read, closed, completed⟩⟩
    · have notHigh : ¬ heightLimit < (filterOperand conditions).height := by omega
      have ends := Progress.finish_filter { query := countQuery table [] } last closed
      rw [completed] at ends
      rw [read] at reads
      rw [reads, if_neg notHigh]
      refine ends.trans ?_
      simp [Except.bind, Progress.onSelection, Progress.statement, countQuery, filterExpression?,
        empty]
    · rw [fails] at reads
      rw [reads, if_pos high]
      rfl
    · have ends := Progress.finish_filter { query := countQuery table [] } last closed
      rw [completed] at ends
      rw [read] at reads
      rw [reads, if_pos high]
      exact ends

end Sql
end TableQuery
