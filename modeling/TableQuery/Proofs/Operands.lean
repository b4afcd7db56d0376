import TableQuery.Proofs.Grammar
import TableQuery.Sql.Reading

/-!
# The expressions of conditions

The engine reads every condition of a request as one expression and all of them as one that joins
them by "and" from the left.  The only way in which this fails is an expression that is too high,
and a failure shows as soon as the height is reached.
-/

namespace TableQuery

/-- The operation of a comparator, its negation aside. -/
def Comparator.operator : Comparator → Sql.Operator
  | .equal => .equal
  | .notEqual => .notEqual
  | .like | .notLike => .like

/-- Whether a comparator negates its operation. -/
def Comparator.negates : Comparator → Bool
  | .notLike => true
  | _ => false

/-- The operation that joins the parts of a group. -/
def Connective.operator : Connective → Sql.Operator
  | .any => .or
  | .all => .and

namespace Sql

/-! ## Operands -/

namespace Operand

/-- An operand unless it is too high. -/
def checked (operand : Operand) : Read Operand :=
  ofHeight operand.tree operand.height

/-- An operation on two operands, whatever its height. -/
def joined (operator : Operator) (left right : Operand) : Operand :=
  ⟨.binary operator left.tree right.tree, max left.height right.height + 1⟩

/-- The negation of an operand on demand, whatever its height. -/
def negation (negated : Bool) (operand : Operand) : Operand :=
  if negated then ⟨.unary .not operand.tree, operand.height + 1⟩ else operand

/-- Operands that are joined by one operation from the left. -/
def chain (operator : Operator) : List Operand → Operand
  | [] => literal .null
  | first :: rest => rest.foldl (joined operator) first

/-- A column that is named between backticks. -/
def column (name : String) : Operand :=
  reference { column := name, quote := some '`' }

theorem join_eq
    (operator : Operator)
    (left right : Operand) :
    join operator left right = (joined operator left right).checked := rfl

theorem checked_of_le
    {operand : Operand}
    (low : operand.height ≤ heightLimit) :
    operand.checked = .ok operand := by
  have notHigh : ¬ heightLimit < operand.height := by omega
  simp [checked, ofHeight, notHigh]

theorem checked_of_lt
    {operand : Operand}
    (high : heightLimit < operand.height) :
    operand.checked = .error (.tooHigh heightLimit) := by
  simp [checked, ofHeight, high]

/-- Joining more operands makes a chain higher. -/
theorem height_le_foldl
    (operator : Operator)
    (first : Operand)
    (rest : List Operand) :
    first.height ≤ (rest.foldl (joined operator) first).height := by
  induction rest generalizing first with
  | nil => exact le_refl _
  | cons operand others inductionHypothesis =>
      have longer := inductionHypothesis (joined operator first operand)
      have higher : first.height ≤ (joined operator first operand).height := by
        simp only [joined]
        omega
      exact higher.trans longer

end Operand

open Operand

/-- The operand that a comparison is read as. -/
def Comparison.operand (comparison : Comparison) : Operand :=
  (joined comparison.comparator.operator (.column comparison.column)
    (.literal (.text comparison.value))).negation comparison.comparator.negates

/-- The operand that a condition is read as. -/
def Condition.operand : Condition → Operand
  | .comparison part => part.operand
  | .membership negated column members =>
    Operand.negation negated
      ⟨.member (Operand.column column).tree (members.map fun member => .literal (.text member)), 2⟩
  | .constant truth =>
    joined .equal (.literal (.number "1")) (.literal (.number (if truth then "1" else "0")))
  | .group connective parts =>
    chain (connective.getD .any).operator (parts.map Comparison.operand)

/-- The operand that all conditions are read as. -/
def filterOperand (conditions : List Condition) : Operand :=
  chain .and (conditions.map Condition.operand)

/-! ## Waiting frames -/

/-- Frames that no operation completes which holds its operands at least as closely as "not". -/
def Waiting (frames : List Frame) : Prop :=
  ∀ precedence operand, Sign.not.precedence ≤ precedence →
    completeFrames precedence frames operand = .ok (frames, operand)

/-- Frames that nothing but a parenthesis or the end completes. -/
def Enclosed : List Frame → Prop
  | [] | .group :: _ => True
  | _ => False

/-- Whether a parenthesis is still open. -/
def anyOpen (frames : List Frame) : Bool :=
  frames.any fun frame => frame.precedence?.isNone

theorem Enclosed.completeFrames
    {frames : List Frame}
    (enclosed : Enclosed frames)
    (precedence : Nat)
    (operand : Operand) :
    completeFrames precedence frames operand = .ok (frames, operand) := by
  cases frames with
  | nil => rfl
  | cons frame rest =>
      cases frame <;> first | exact absurd enclosed id | rfl

theorem Enclosed.waiting
    {frames : List Frame}
    (enclosed : Enclosed frames) :
    Waiting frames :=
  fun precedence operand _ => enclosed.completeFrames precedence operand

/-- The left operand of a connective waits for what holds its operands more closely. -/
theorem waiting_connective
    (connective : Connective)
    (left : Operand)
    (frames : List Frame) :
    Waiting (.binary left false connective.operator :: frames) := by
  intro precedence operand close
  have closer : ¬ precedence ≤ connective.operator.precedence := by
    cases connective <;>
      simp only [Sign.precedence, Connective.operator, Operator.precedence] at close ⊢ <;> omega
  simp [completeFrames, Frame.precedence?, closer]

/-! ## Reading -/

section Runs

variable {state : Type} {step : state → Token → Read state}

/-- Steps on tokens one after the other. -/
def run (step : state → Token → Read state) (before : state) (tokens : List Token) : Read state :=
  tokens.foldlM step before

/-- After a step the other tokens are read. -/
theorem run_cons
    {before after : state}
    {token : Token}
    (steps : step before token = .ok after)
    (rest : List Token) :
    run step before (token :: rest) = run step after rest := by
  simp [run, steps, bind, Except.bind]

/-- A step that fails ends the run. -/
theorem run_cons_error
    {before : state}
    {token : Token}
    {problem : Database.Problem}
    (fails : step before token = .error problem)
    (rest : List Token) :
    run step before (token :: rest) = .error problem := by
  simp [run, fails, bind, Except.bind]

theorem run_append
    {before after : state}
    {left : List Token}
    (runs : run step before left = .ok after)
    (right : List Token) :
    run step before (left ++ right) = run step after right := by
  unfold run at runs ⊢
  simp [List.foldlM_append, runs, bind, Except.bind]

theorem run_append_error
    {before : state}
    {left : List Token}
    {problem : Database.Problem}
    (fails : run step before left = .error problem)
    (right : List Token) :
    run step before (left ++ right) = .error problem := by
  unfold run at fails ⊢
  simp [List.foldlM_append, fails, bind, Except.bind]

end Runs

/-- A reading that has come to the end of an operand, for which some frames have waited. -/
def Holds (reading : Reading) (frames : List Frame) (operand : Operand) : Prop :=
  ∃ inner last, reading = ⟨inner, .complete last⟩ ∧ anyOpen inner = anyOpen frames ∧
    ∀ precedence ≤ Sign.not.precedence,
      completeFrames precedence inner last = completeFrames precedence frames operand

/-- Tokens that are read as an operand, unless it is too high. -/
def Reads (tokens : List Token) (operand : Operand) : Prop :=
  ∀ frames, Waiting frames →
    (operand.height ≤ heightLimit → ∃ reading,
      run Reading.step ⟨frames, .operand⟩ tokens = .ok reading ∧
        Holds reading frames operand) ∧
    (heightLimit < operand.height →
      run Reading.step ⟨frames, .operand⟩ tokens = .error (.tooHigh heightLimit))

/-- Tokens that are read as an operand which is never too high. -/
theorem reads_of_low
    {tokens : List Token}
    {operand : Operand}
    (low : operand.height ≤ heightLimit)
    (reads : ∀ frames, Waiting frames → ∃ reading,
      run Reading.step ⟨frames, .operand⟩ tokens = .ok reading ∧
        Holds reading frames operand) :
    Reads tokens operand :=
  fun frames waiting => ⟨fun _ => reads frames waiting, fun high => absurd low (by omega)⟩

/-! ### Comparisons -/

/-- The step on the name of a column. -/
theorem step_name
    (frames : List Frame)
    (name : String) :
    Reading.step ⟨frames, .operand⟩ (nameToken name) =
      .ok ⟨frames, .complete (.column name)⟩ := rfl

/-- The step on a literal. -/
theorem step_literal
    (frames : List Frame)
    (text : String) :
    Reading.step ⟨frames, .operand⟩ (.literal text) =
      .ok ⟨frames, .complete (.literal (.text text))⟩ := rfl

/-- An operation that holds its operands at least as closely as "not" takes just the operand before
it. -/
theorem takeLeft_waiting
    {frames : List Frame}
    (waiting : Waiting frames)
    {operator : Operator}
    (close : Sign.not.precedence ≤ operator.precedence)
    (operand : Operand)
    (negated : Bool) :
    Reading.takeLeft frames operand negated operator =
      .ok ⟨.binary operand negated operator :: frames, .operand⟩ := by
  simp [Reading.takeLeft, waiting operator.precedence operand close, bind, Except.bind, pure,
    Except.pure]

/-- The steps on a comparator, after a column. -/
theorem run_comparator
    {frames : List Frame}
    (waiting : Waiting frames)
    (operand : Operand)
    (comparator : Comparator) :
    run Reading.step ⟨frames, .complete operand⟩ comparator.tokens =
      .ok ⟨.binary operand comparator.negates comparator.operator :: frames, .operand⟩ := by
  cases comparator with
  | equal =>
      have takes : Reading.step ⟨frames, .complete operand⟩ (.symbol .equal) =
          .ok ⟨.binary operand false .equal :: frames, .operand⟩ :=
        takeLeft_waiting waiting (by decide) operand false
      exact run_cons takes []
  | notEqual =>
      have takes : Reading.step ⟨frames, .complete operand⟩ (.symbol .notEqual) =
          .ok ⟨.binary operand false .notEqual :: frames, .operand⟩ :=
        takeLeft_waiting waiting (by decide) operand false
      exact run_cons takes []
  | like =>
      have takes : Reading.step ⟨frames, .complete operand⟩ (.keyword .like "LIKE") =
          .ok ⟨.binary operand false .like :: frames, .operand⟩ :=
        takeLeft_waiting waiting (by decide) operand false
      exact run_cons takes []
  | notLike =>
      have negation : Reading.step ⟨frames, .complete operand⟩ (.keyword .not "NOT") =
          .ok ⟨frames, .negation operand⟩ := rfl
      have takes : Reading.step ⟨frames, .negation operand⟩ (.keyword .like "LIKE") =
          .ok ⟨.binary operand true .like :: frames, .operand⟩ :=
        takeLeft_waiting waiting (by decide) operand true
      exact (run_cons negation _).trans (run_cons takes [])

/-- A frame that holds its operand at least as closely as "not" is completed before any word that
joins conditions. -/
theorem holds_binary
    {frames : List Frame}
    {left last whole : Operand}
    {negated : Bool}
    {operator : Operator}
    (close : Sign.not.precedence ≤ operator.precedence)
    (completed : (Frame.binary left negated operator).complete last = .ok whole) :
    Holds ⟨.binary left negated operator :: frames, .complete last⟩ frames whole := by
  refine ⟨_, _, rfl, rfl, fun precedence low => ?_⟩
  have held : precedence ≤ operator.precedence := low.trans close
  simp [completeFrames, Frame.precedence?, held, completed, bind, Except.bind]

/-- A comparison is read as its operand. -/
theorem reads_comparison (comparison : Comparison) :
    Reads comparison.tokens comparison.operand := by
  obtain ⟨name, comparator, value⟩ := comparison
  refine reads_of_low ?_ fun frames waiting => ⟨⟨.binary (.column name) comparator.negates
    comparator.operator :: frames, .complete (.literal (.text value))⟩, ?_, ?_⟩
  · cases comparator <;>
      simp [Comparison.operand, Operand.negation, Comparator.negates, joined, Operand.column,
        Operand.reference, Operand.literal, heightLimit]
  · rw [Comparison.tokens, run_cons (step_name frames name),
      run_append (run_comparator waiting (.column name) comparator)]
    exact run_cons (step_literal _ value) []
  · refine holds_binary ?_ ?_
    · cases comparator <;> decide
    · cases comparator <;> rfl

/-- A comparison of two digits is read as its operand. -/
theorem reads_constant (truth : Bool) :
    Reads (Condition.constant truth).tokens (Condition.constant truth).operand := by
  refine reads_of_low (by cases truth <;> decide) fun frames waiting =>
    ⟨⟨.binary (.literal (.number "1")) false .equal :: frames,
      .complete (.literal (.number (if truth then "1" else "0")))⟩, ?_, holds_binary (by decide) rfl⟩
  have first : Reading.step ⟨frames, .operand⟩ (.number "1") =
      .ok ⟨frames, .complete (.literal (.number "1"))⟩ := rfl
  have equal : Reading.step ⟨frames, .complete (.literal (.number "1"))⟩ (.symbol .equal) =
      .ok ⟨.binary (.literal (.number "1")) false .equal :: frames, .operand⟩ :=
    takeLeft_waiting waiting (by decide) _ false
  rw [Condition.tokens, run_cons first, run_cons equal]
  rfl

/-! ### Lists of members -/

/-- The steps on the members of a list after its first one. -/
theorem run_members
    (negated : Bool)
    (subject last : Operand)
    (earlier : List Operand)
    (members : List String)
    (frames : List Frame) :
    ∃ final others,
      run Reading.step ⟨.members negated subject earlier :: frames, .complete last⟩
          (members.flatMap fun member => [.symbol .comma, .literal member]) =
        .ok ⟨.members negated subject others :: frames, .complete final⟩ ∧
      (final :: others).reverse = (last :: earlier).reverse ++
        members.map fun member => Operand.literal (.text member) := by
  induction members generalizing last earlier with
  | nil => exact ⟨last, earlier, rfl, by simp⟩
  | cons member rest inductionHypothesis =>
      obtain ⟨final, others, read, collected⟩ :=
        inductionHypothesis (.literal (.text member)) (last :: earlier)
      have comma : Reading.step ⟨.members negated subject earlier :: frames, .complete last⟩
          (.symbol .comma) =
          .ok ⟨.members negated subject (last :: earlier) :: frames, .operand⟩ := rfl
      refine ⟨final, others, ?_, by simpa using collected⟩
      rw [List.flatMap_cons, List.cons_append, run_cons comma, List.cons_append,
        run_cons (step_literal _ member), List.nil_append, read]

/-- A list of members with a separator before each one but the first. -/
theorem intercalate_map_cons
    (separator : α)
    (write : β → List α)
    (first : β)
    (rest : List β) :
    [separator].intercalate ((first :: rest).map write) =
      write first ++ rest.flatMap fun item => separator :: write item := by
  induction rest generalizing first with
  | nil => simp
  | cons second others inductionHypothesis =>
      have following := inductionHypothesis second
      simp only [List.map_cons] at following ⊢
      simp [List.intercalate_cons_cons, following]

/-- Members that are texts do not make an expression higher. -/
theorem foldl_max_heights
    (members : List String)
    {height : Nat}
    (positive : 1 ≤ height) :
    ((members.map fun member => Operand.literal (.text member)).map Operand.height).foldl max
      height = height := by
  induction members with
  | nil => rfl
  | cons member rest inductionHypothesis =>
      have same : max height (Operand.literal (.text member)).height = height :=
        Nat.max_eq_left positive
      simpa [same] using inductionHypothesis

/-- The test for membership among texts. -/
theorem member_texts
    (name : String)
    (members : List String) :
    (Operand.column name).member (members.map fun member => .literal (.text member)) =
      .ok ⟨.member (Operand.column name).tree (members.map fun member => .literal (.text member)),
        2⟩ := by
  have heights := foldl_max_heights members (le_refl (Operand.column name).height)
  rw [Operand.member, heights, List.map_map]
  rfl

/-- A list of members is read as its operand. -/
theorem reads_membership
    (negated : Bool)
    (name : String)
    {members : List String}
    (nonempty : members ≠ []) :
    Reads (Condition.membership negated name members).tokens
      (Condition.membership negated name members).operand := by
  obtain ⟨first, rest, rfl⟩ := List.exists_cons_of_ne_nil nonempty
  refine reads_of_low (by cases negated <;> simp [Condition.operand, negation, heightLimit])
    fun frames waiting => ⟨⟨frames, .complete
      (Condition.membership negated name (first :: rest)).operand⟩, ?_, _, _, rfl, rfl,
      fun _ _ => rfl⟩
  have words : run Reading.step ⟨frames, .complete (.column name)⟩
      (if negated then [.keyword .not "NOT", .keyword .in "IN"] else [.keyword .in "IN"]) =
      .ok ⟨frames, .opening negated (.column name)⟩ := by
    have stays := waiting Operator.equal.precedence (.column name) (by decide)
    cases negated <;>
      simp [run, Reading.step, Reading.stepComplete, Reading.stepNegation,
        Reading.compareWith, stays, bind, Except.bind, pure, Except.pure]
  have opens : Reading.step ⟨frames, .opening negated (.column name)⟩ (.symbol .opening) =
      .ok ⟨.members negated (.column name) [] :: frames, .firstMember⟩ := rfl
  have begins : Reading.step ⟨.members negated (.column name) [] :: frames, .firstMember⟩
      (.literal first) = .ok ⟨.members negated (.column name) [] :: frames,
        .complete (.literal (.text first))⟩ := rfl
  obtain ⟨final, others, read, collected⟩ :=
    run_members negated (.column name) (.literal (.text first)) [] rest frames
  have found := member_texts name (first :: rest)
  have closes : Reading.step ⟨.members negated (.column name) others :: frames, .complete final⟩
      (.symbol .closing) =
      .ok ⟨frames, .complete (Condition.membership negated name (first :: rest)).operand⟩ := by
    have all : (final :: others).reverse =
        (first :: rest).map fun member => Operand.literal (.text member) := by
      simpa using collected
    cases negated <;>
      simp [Reading.step, Reading.stepComplete, Reading.stepClosing, completeFrames,
        Frame.precedence?, all, found, Operand.negatedIf, ofHeight, heightLimit,
        Condition.operand, negation, bind, Except.bind, pure, Except.pure, -List.reverse_cons,
        -List.map_cons]
  rw [Condition.tokens, intercalate_map_cons, run_cons (step_name frames name), run_append words,
    run_cons opens, List.append_assoc, List.singleton_append, run_cons begins, run_append read]
  exact run_cons closes []

/-! ### Chains -/

/-- The frames in which the next part of a chain is read, after the parts that have been joined. -/
def pending (connective : Connective) (frames : List Frame) : Option Operand → List Frame
  | none => frames
  | some left => .binary left false connective.operator :: frames

/-- The parts that have been joined together with the next one. -/
def together (connective : Connective) : Option Operand → Operand → Operand
  | none, operand => operand
  | some left, operand => joined connective.operator left operand

theorem height_le_together
    (connective : Connective)
    (earlier : Option Operand)
    (operand : Operand) :
    operand.height ≤ (together connective earlier operand).height := by
  cases earlier with
  | none => exact le_refl _
  | some left =>
      simp only [together, joined]
      omega

theorem waiting_pending
    {frames : List Frame}
    (enclosed : Enclosed frames)
    (connective : Connective)
    (earlier : Option Operand) :
    Waiting (pending connective frames earlier) := by
  cases earlier with
  | none => exact enclosed.waiting
  | some left => exact waiting_connective connective left frames

theorem anyOpen_pending
    (connective : Connective)
    (frames : List Frame)
    (earlier : Option Operand) :
    anyOpen (pending connective frames earlier) = anyOpen frames := by
  cases earlier <;> rfl

/-- What holds its operands no more closely than a connective completes the chain before it. -/
theorem completeFrames_pending
    {frames : List Frame}
    (enclosed : Enclosed frames)
    {connective : Connective}
    {precedence : Nat}
    (loose : precedence ≤ connective.operator.precedence)
    (earlier : Option Operand)
    {operand : Operand}
    (low : operand.height ≤ heightLimit) :
    completeFrames precedence (pending connective frames earlier) operand =
      (together connective earlier operand).checked.map fun whole => (frames, whole) := by
  cases earlier with
  | none =>
      rw [pending, together, checked_of_le low, enclosed.completeFrames]
      rfl
  | some left =>
      have completed : (Frame.binary left false connective.operator).complete operand =
          (joined connective.operator left operand).checked := by
        simp only [Frame.complete, join_eq, negatedIf]
        cases (joined connective.operator left operand).checked <;> rfl
      simp only [pending, together, completeFrames, Frame.precedence?, loose, if_true, completed]
      cases (joined connective.operator left operand).checked with
      | error problem => rfl
      | ok whole => exact enclosed.completeFrames precedence whole

/-- A connective joins the part before it to the earlier ones. -/
theorem step_connective
    {frames : List Frame}
    (enclosed : Enclosed frames)
    {connective : Connective}
    {earlier : Option Operand}
    {operand : Operand}
    (low : operand.height ≤ heightLimit)
    {reading : Reading}
    (holds : Holds reading (pending connective frames earlier) operand) :
    reading.step connective.token =
      (together connective earlier operand).checked.map fun whole =>
        ⟨pending connective frames (some whole), .operand⟩ := by
  obtain ⟨inner, last, rfl, -, same⟩ := holds
  have completed (precedence : Nat) (loose : precedence ≤ connective.operator.precedence) :=
    completeFrames_pending enclosed loose earlier low
  cases connective with
  | any =>
      have chain := (same 1 (by decide)).trans (completed 1 (by decide))
      change Reading.takeLeft inner last false .or = _
      rw [Reading.takeLeft, show Operator.precedence .or = 1 from rfl, chain]
      cases (together .any earlier operand).checked <;> rfl
  | all =>
      have waits := waiting_pending enclosed .all earlier Sign.not.precedence operand (le_refl _)
      have part := (same Sign.not.precedence (le_refl _)).trans waits
      have chain := completed 2 (by decide)
      have taken : Reading.takeLeft (pending .all frames earlier) operand false .and =
          (together .all earlier operand).checked.map fun whole =>
            ⟨pending .all frames (some whole), .operand⟩ := by
        rw [Reading.takeLeft, show Operator.precedence .and = 2 from rfl, chain]
        cases (together .all earlier operand).checked <;> rfl
      change Reading.stepAnd inner last = _
      rw [Reading.stepAnd, part, ← taken]
      cases earlier with
      | some left => rfl
      | none =>
          cases frames with
          | nil => rfl
          | cons frame rest =>
              cases frame <;> first | exact absurd enclosed id | rfl

/-- The outcome of reading a chain in some frames: at its end the whole operand is completed, and
one that is too high fails at the latest there. -/
def EndsAs (outcome : Read Reading) (frames : List Frame) (operand : Operand) : Prop :=
  (operand.height ≤ heightLimit ∧ ∃ inner last, outcome = .ok ⟨inner, .complete last⟩ ∧
    anyOpen inner = anyOpen frames ∧ completeFrames 0 inner last = .ok (frames, operand)) ∨
  (heightLimit < operand.height ∧ (outcome = .error (.tooHigh heightLimit) ∨
    ∃ inner last, outcome = .ok ⟨inner, .complete last⟩ ∧
      anyOpen inner = anyOpen frames ∧ completeFrames 0 inner last = .error (.tooHigh heightLimit)))

/-- The parts of a chain are read one after the other. -/
theorem run_chain
    (frames : List Frame)
    (enclosed : Enclosed frames)
    (connective : Connective)
    {operand : α → Operand}
    {tokens : α → List Token}
    (first : α)
    (rest : List α)
    (reads : ∀ item ∈ first :: rest, Reads (tokens item) (operand item))
    (earlier : Option Operand) :
    EndsAs
      (run Reading.step ⟨pending connective frames earlier, .operand⟩
        (tokens first ++ rest.flatMap fun item => connective.token :: tokens item))
      frames
      ((rest.map operand).foldl (joined connective.operator)
        (together connective earlier (operand first))) := by
  induction rest generalizing first earlier with
  | nil =>
      have readsFirst := reads first (by simp) _ (waiting_pending enclosed connective earlier)
      simp only [List.flatMap_nil, List.append_nil, List.map_nil, List.foldl_nil]
      by_cases low : (operand first).height ≤ heightLimit
      · obtain ⟨_, read, inner, last, rfl, opened, same⟩ := readsFirst.1 low
        have completed := (same 0 (by decide)).trans
          (completeFrames_pending enclosed (Nat.zero_le _) earlier low)
        have openedFrames := opened.trans (anyOpen_pending connective frames earlier)
        by_cases whole : (together connective earlier (operand first)).height ≤ heightLimit
        · rw [checked_of_le whole] at completed
          exact .inl ⟨whole, inner, last, read, openedFrames, completed⟩
        · rw [checked_of_lt (by omega)] at completed
          exact .inr ⟨by omega, .inr ⟨inner, last, read, openedFrames, completed⟩⟩
      · have higher := height_le_together connective earlier (operand first)
        exact .inr ⟨by omega, .inl (readsFirst.2 (by omega))⟩
  | cons second others inductionHypothesis =>
      have readsFirst := reads first (by simp) _ (waiting_pending enclosed connective earlier)
      have higher := height_le_together connective earlier (operand first)
      have highest := height_le_foldl connective.operator
        (together connective earlier (operand first)) ((second :: others).map operand)
      by_cases low : (operand first).height ≤ heightLimit
      · obtain ⟨reading, read, holds⟩ := readsFirst.1 low
        have steps := step_connective enclosed low holds
        rw [List.flatMap_cons, run_append read]
        by_cases whole : (together connective earlier (operand first)).height ≤ heightLimit
        · rw [checked_of_le whole] at steps
          rw [List.cons_append, run_cons steps]
          exact inductionHypothesis second
            (fun item member => reads item (List.mem_cons_of_mem first member))
            (some (together connective earlier (operand first)))
        · rw [checked_of_lt (by omega)] at steps
          exact .inr ⟨by omega, .inl (run_cons_error steps _)⟩
      · exact .inr ⟨by omega, .inl (run_append_error (readsFirst.2 (by omega)) _)⟩

/-! ### Groups and filters -/

/-- Comparisons between parentheses are read as a group. -/
theorem reads_group
    {connective : Option Connective}
    {parts : List Comparison}
    (nonempty : parts ≠ []) :
    Reads (Condition.group connective parts).tokens (Condition.group connective parts).operand := by
  obtain ⟨first, rest, rfl⟩ := List.exists_cons_of_ne_nil nonempty
  intro frames waiting
  have chain := run_chain (.group :: frames) trivial (connective.getD .any) first rest
    (fun part _ => reads_comparison part) none
  have opens : Reading.step ⟨frames, .operand⟩ (.symbol .opening) =
      .ok ⟨.group :: frames, .operand⟩ := rfl
  have closes (inner : List Frame) (last : Operand) :
      Reading.step ⟨inner, .complete last⟩ (.symbol .closing) = Reading.stepClosing inner last :=
    rfl
  have whole : (rest.map Comparison.operand).foldl (joined (connective.getD .any).operator)
      (together (connective.getD .any) none first.operand) =
      (Condition.group connective (first :: rest)).operand := rfl
  rw [whole, pending] at chain
  rw [Condition.tokens, intercalate_map_cons, run_cons opens]
  rcases chain with ⟨low, inner, last, read, -, completed⟩ | ⟨high, failed⟩
  · refine ⟨fun _ => ⟨⟨frames, .complete _⟩, ?_, _, _, rfl, rfl, fun _ _ => rfl⟩,
      fun high => absurd low (by omega)⟩
    have closed : Reading.stepClosing inner last =
        .ok ⟨frames, .complete (Condition.group connective (first :: rest)).operand⟩ := by
      rw [Reading.stepClosing, completed]
      rfl
    rw [run_append read]
    exact run_cons ((closes inner last).trans closed) []
  · refine ⟨fun low => absurd high (by omega), fun _ => ?_⟩
    rcases failed with fails | ⟨inner, last, read, -, completed⟩
    · exact run_append_error fails _
    · have closed : Reading.stepClosing inner last = .error (.tooHigh heightLimit) := by
        rw [Reading.stepClosing, completed]
        rfl
      rw [run_append read]
      exact run_cons_error ((closes inner last).trans closed) []

/-- A condition that the grammar has is read as its operand. -/
theorem reads_condition
    {condition : Condition}
    (grammatical : condition.Grammatical) :
    Reads condition.tokens condition.operand := by
  cases condition with
  | comparison part => exact reads_comparison part
  | membership negated name members => exact reads_membership negated name grammatical
  | constant truth => exact reads_constant truth
  | group connective parts =>
      refine reads_group ?_
      rintro rfl
      cases connective <;> simp [Condition.Grammatical] at grammatical

/-- All conditions are read as one operand. -/
theorem run_filter
    {conditions : List Condition}
    (grammatical : ∀ condition ∈ conditions, condition.Grammatical)
    (nonempty : conditions ≠ []) :
    EndsAs
      (run Reading.step {} ([Connective.token .all].intercalate (conditions.map Condition.tokens)))
      [] (filterOperand conditions) := by
  obtain ⟨first, rest, rfl⟩ := List.exists_cons_of_ne_nil nonempty
  rw [intercalate_map_cons]
  exact run_chain [] trivial .all first rest
    (fun condition member => reads_condition (grammatical condition member)) none

end Sql
end TableQuery
