import TableQuery.Database.Evaluation
import TableQuery.Proofs.Reals
import TableQuery.Proofs.Selection

/-!
# The truth of conditions

What an expression computes in a row decides whether the row passes it as a filter.  Where a filter
only asks for the key, the number of the row is sought among the values and nothing is compared;
both come to the same.
-/

namespace TableQuery
namespace Database

/-! ## Truth values -/

namespace Cell

/-- A truth value is read back from its cell. -/
@[simp] theorem truth?_ofTruth (truth : Option Bool) : (ofTruth truth).truth? = truth := by
  rcases truth with _ | _ | _ <;> rfl

end Cell

/-- One truth that holds decides a disjunction. -/
theorem disjunction_beq_true (truths : List (Option Bool)) :
    (disjunction truths == some true) = truths.any (· == some true) := by
  rw [Bool.eq_iff_iff, beq_iff_eq, List.any_beq', List.contains_iff_mem]
  unfold disjunction
  split
  · simp_all
  · split <;> simp_all

/-- A disjunction is false if each of the truths is. -/
theorem negate_disjunction_beq_true (truths : List (Option Bool)) :
    (negate (disjunction truths) == some true) = truths.all (· == some false) := by
  have cases : ∀ truth : Option Bool, truth ≠ some true → truth ≠ none → truth = some false := by
    rintro (_ | _ | _) <;> simp
  rw [Bool.eq_iff_iff, beq_iff_eq, List.all_eq_true]
  unfold disjunction
  split
  · rename_i holds
    refine iff_of_false (by simp [negate]) ?_
    intro all
    simpa using all _ (List.contains_iff_mem.mp holds)
  · rename_i noneHolds
    split
    · rename_i unknown
      refine iff_of_false (by simp [negate]) ?_
      intro all
      simpa using all _ (List.contains_iff_mem.mp unknown)
    · rename_i allKnown
      refine iff_of_true rfl ?_
      intro truth member
      rw [beq_iff_eq]
      apply cases truth
      · rintro rfl
        exact noneHolds (List.contains_iff_mem.mpr member)
      · rintro rfl
        exact allKnown (List.contains_iff_mem.mpr member)

/-! ## Keys -/

namespace Cell

/-- A cell that is no improper number. -/
def IsProper : Cell → Prop
  | .real number => number.IsProper
  | _ => True

theorem isProper_ofWritten (written : Numeral.Written) : (ofWritten written).IsProper := by
  simp only [ofWritten]
  split
  · trivial
  · exact isProper_realOfWritten written

theorem isProper_numberOf?
    {content : String}
    {cell : Cell}
    (known : numberOf? content = some cell) :
    cell.IsProper := by
  simp only [numberOf?] at known
  obtain ⟨written, _, rfl⟩ := Option.map_eq_some_iff.mp known
  exact isProper_ofWritten written

/-- A value of a statement is a proper number, if it is one. -/
theorem isProper_asNumber_ofLiteral (value : Sql.Literal) :
    (ofLiteral value).asNumber.IsProper := by
  cases value with
  | null => trivial
  | text content =>
      simp only [ofLiteral, asNumber]
      cases known : numberOf? content with
      | none => trivial
      | some cell => exact isProper_numberOf? known
  | number written =>
      simp only [ofLiteral]
      cases known : numberOf? written with
      | none => trivial
      | some cell =>
          have proper := isProper_numberOf? known
          have number : cell.asNumber = cell := by
            simp only [numberOf?] at known
            obtain ⟨found, _, rfl⟩ := Option.map_eq_some_iff.mp known
            simp only [ofWritten]
            split <;> rfl
          simpa [number] using proper

/-- A real number is stored as an integer exactly where it equals it, the ends of the integers of
64 bits aside. -/
theorem integral_eq_iff
    {real : Binary64}
    (proper : real.IsProper)
    {number : Int}
    (least : -(2 ^ 63) < number)
    (greatest : number < 2 ^ 63) :
    integral real = .integer number ↔ real.toInt? = some number := by
  have notGreatest := real.toInt?_ne proper
  unfold integral
  cases known : real.toInt? with
  | none => simp
  | some whole =>
      rw [known] at notGreatest
      simp only [Option.some_inj]
      constructor
      · intro stored
        split at stored
        · exact Cell.integer.inj stored
        · cases stored
      · rintro rfl
        have below : whole < 2 ^ 63 - 1 := by
          have other : whole ≠ 2 ^ 63 - 1 := fun same => notGreatest (by rw [same])
          omega
        rw [if_pos ⟨least, below⟩]

/-- The cells that are stored as an integer are those that equal it.  The least integer of 64 bits
is another matter: no real number is stored as that one. -/
theorem store_eq_iff_equal
    {number : Int}
    (least : -(2 ^ 63) < number)
    (greatest : number < 2 ^ 63)
    {cell : Cell}
    (proper : cell.asNumber.IsProper) :
    cell.store .integer = .integer number ↔
      (Cell.integer number).equal? .integer .binary cell = some true := by
  have compared : (Cell.integer number).equal? .integer .binary cell =
      ((Cell.integer number).order? .binary cell.asNumber).map (· == .eq) := rfl
  have stored : cell.store .integer =
      match cell.asNumber with
      | .real number => integral number
      | other => other := rfl
  rw [compared, stored]
  generalize cell.asNumber = adapted at proper
  cases adapted with
  | null => simp [order?]
  | integer other =>
      have ordered : (Cell.integer number).order? .binary (.integer other) =
        some (compare number other) := rfl
      rw [ordered, Cell.integer.injEq]
      simp only [Option.map_some, Option.some_inj, beq_iff_eq, compare_eq_iff_eq]
      exact eq_comm
  | real real =>
      obtain ⟨order, known⟩ := Option.isSome_iff_exists.mp (real.orderInt_isSome proper number)
      have ordered : (Cell.integer number).order? .binary (.real real) = some order.swap := by
        simp [order?, Cell.order, known]
      have exact : real.orderInt number = some .eq ↔ real.toInt? = some number :=
        Binary64.orderInt_eq_iff proper
      rw [known, Option.some_inj] at exact
      rw [ordered, integral_eq_iff proper least greatest, ← exact]
      cases order <;> simp
  | text content => simp [order?, order, rank]
  | blob content => simp [order?, order, rank]

end Cell

/-! ## Filters -/

/-- A row whose number lies strictly between the ends of the integers of 64 bits. -/
def Row.IsInner (row : Row) : Prop :=
  -(2 ^ 63) < row.number ∧ row.number < 2 ^ 63

instance (row : Row) : Decidable row.IsInner :=
  inferInstanceAs (Decidable (_ ∧ _))

/-- A place that holds the number of a row as an integer where it is the key. -/
def Place.IsSoundFor (place : Place) (row : Row) : Prop :=
  place.spot.isKey → place.spot.affinity = .integer ∧ cellAt [row] place = .integer row.number

/-- An expression computes a truth value in a row, and where the key is sought in its stead the row
is found by exactly the truth. -/
def Decides (row : Row) (expression : Sql.Expression Place) (truth : Option Bool) : Prop :=
  eval [row] expression = .ok (.ofTruth truth) ∧
    ∀ values, soughtKeys? expression = some values → hasKey row values = (truth == some true)

/-- A condition holds where it is decided to be true. -/
theorem Decides.holds
    {row : Row}
    {expression : Sql.Expression Place}
    {truth : Option Bool}
    (decides : Decides row expression truth) :
    Database.holds [row] expression = .ok (truth == some true) := by
  unfold Database.holds
  cases sought : soughtKeys? expression with
  | none =>
      simp only [decides.1]
      exact congrArg (fun found : Option Bool => Except.ok (found == some true))
        (Cell.truth?_ofTruth truth)
  | some values =>
      simp only [decides.2 values sought]

/-- A key is one of the values that are sought if it equals one. -/
theorem hasKey_eq
    {row : Row}
    (inner : row.IsInner)
    (values : List Sql.Literal) :
    hasKey row values = values.any fun value =>
      (Cell.integer row.number).equal? .integer .binary (.ofLiteral value) == some true := by
  unfold hasKey
  congr 1
  funext value
  rw [Bool.eq_iff_iff, beq_iff_eq, beq_iff_eq]
  exact Cell.store_eq_iff_equal inner.1 inner.2 (Cell.isProper_asNumber_ofLiteral value)

theorem decides_equal
    {row : Row}
    {place : Place}
    (inner : place.spot.isKey → row.IsInner)
    (sound : place.IsSoundFor row)
    (text : String) :
    Decides row (.binary .equal (.reference place) (.literal (.text text)))
      ((cellAt [row] place).equal? place.spot.affinity .binary (.text text)) := by
  refine ⟨rfl, ?_⟩
  intro values sought
  by_cases isKey : place.spot.isKey
  · obtain ⟨affinity, cell⟩ := sound isKey
    simp only [soughtKeys?, isKey, if_true, Option.some_inj] at sought
    rw [← sought, hasKey_eq (inner isKey), affinity, cell]
    simp [Cell.ofLiteral]
  · simp [soughtKeys?, isKey] at sought

theorem decides_notEqual
    (row : Row)
    (place : Place)
    (text : String) :
    Decides row (.binary .notEqual (.reference place) (.literal (.text text)))
      (negate ((cellAt [row] place).equal? place.spot.affinity .binary (.text text))) := by
  refine ⟨?_, by simp [soughtKeys?]⟩
  rw [negate, Cell.equal?, Option.map_map]
  rfl

theorem takeWhile_ne_nul
    {text : String}
    (plain : '\x00' ∉ text.toList) :
    text.toList.takeWhile (· != '\x00') = text.toList := by
  rw [List.takeWhile_eq_self_iff]
  intro c member
  rw [bne_iff_ne]
  rintro rfl
  exact plain member

/-- A cell is compared with a pattern that is not too long. -/
theorem Cell.like_eq
    {pattern : String}
    (short : pattern.utf8ByteSize ≤ patternLimit)
    (plain : '\x00' ∉ pattern.toList)
    (cell : Cell) :
    Cell.like (.text pattern) cell = .ok (.ofTruth (cell.likes? pattern)) := by
  have notLong : ¬ patternLimit < pattern.utf8ByteSize := by omega
  have whole := takeWhile_ne_nul plain
  cases cell with
  | null => simp [like, likes?, toText?, notLong, ofTruth]
  | blob content => rfl
  | integer number => simp [like, likes?, toText?, numberText?, notLong, whole]
  | real number => simp [like, likes?, toText?, numberText?, notLong, whole]
  | text content => simp [like, likes?, toText?, notLong, whole]

theorem decides_like
    (row : Row)
    (place : Place)
    {pattern : String}
    (short : pattern.utf8ByteSize ≤ patternLimit)
    (plain : '\x00' ∉ pattern.toList) :
    Decides row (.binary .like (.reference place) (.literal (.text pattern)))
      ((cellAt [row] place).likes? pattern) :=
  ⟨Cell.like_eq short plain (cellAt [row] place), by simp [soughtKeys?]⟩

theorem literals?_map_text (members : List String) :
    literals? (members.map fun member => .literal (.text member)) =
      some (members.map Sql.Literal.text) := by
  induction members with
  | nil => rfl
  | cons member rest inductionHypothesis =>
      rw [List.map_cons, literals?, inductionHypothesis]
      rfl

theorem evalAll_map_text
    (rows : List Row)
    (members : List String) :
    evalAll rows (members.map fun member => .literal (.text member)) =
      .ok (members.map Cell.text) := by
  induction members with
  | nil => rfl
  | cons member rest inductionHypothesis =>
      rw [List.map_cons, evalAll, inductionHypothesis]
      rfl

/-- What an expression computes that asks whether a place is one of some texts. -/
theorem eval_member
    (row : Row)
    (place : Place)
    (members : List String) :
    eval [row] (.member (.reference place) (members.map fun member => .literal (.text member))) =
      .ok (.ofTruth (disjunction (members.map fun member =>
        (cellAt [row] place).equal? place.spot.affinity .binary (.text member)))) := by
  have compared : Cell.isMember place.spot.affinity .binary (cellAt [row] place)
      (members.map Cell.text) = disjunction (members.map fun member =>
        (cellAt [row] place).equal? place.spot.affinity .binary (.text member)) := by
    rw [Cell.isMember, List.map_map]
    rfl
  simp only [eval, evalAll_map_text]
  rw [← compared]
  rfl

/-- A place is one of some texts if it equals one of them. -/
theorem decides_member
    {row : Row}
    {place : Place}
    (inner : place.spot.isKey → row.IsInner)
    (sound : place.IsSoundFor row)
    (members : List String) :
    Decides row (.member (.reference place) (members.map fun member => .literal (.text member)))
      (disjunction (members.map fun member =>
        (cellAt [row] place).equal? place.spot.affinity .binary (.text member))) := by
  constructor
  · exact eval_member row place members
  · intro values sought
    by_cases isKey : place.spot.isKey
    · obtain ⟨affinity, cell⟩ := sound isKey
      simp only [soughtKeys?, isKey, if_true, literals?_map_text, Option.some_inj] at sought
      rw [← sought, hasKey_eq (inner isKey), affinity, cell, disjunction_beq_true, List.any_map,
        List.any_map]
      rfl
    · simp [soughtKeys?, isKey] at sought

theorem Decides.not
    {row : Row}
    {expression : Sql.Expression Place}
    {truth : Option Bool}
    (decides : Decides row expression truth) :
    Decides row (.unary .not expression) (negate truth) := by
  refine ⟨?_, by simp [soughtKeys?]⟩
  simp [eval, decides.1, Cell.applySign]

theorem Decides.or
    {row : Row}
    {left right : Sql.Expression Place}
    {first second : Option Bool}
    (decidesLeft : Decides row left first)
    (decidesRight : Decides row right second) :
    Decides row (.binary .or left right) (disjunction [first, second]) := by
  constructor
  · simp only [eval, decidesLeft.1, decidesRight.1]
    rcases first with _ | _ | _ <;> rcases second with _ | _ | _ <;> rfl
  · intro values sought
    simp only [soughtKeys?] at sought
    obtain ⟨lefts, soughtLeft, rest⟩ := Option.bind_eq_some_iff.mp sought
    obtain ⟨rights, soughtRight, same⟩ := Option.bind_eq_some_iff.mp rest
    rw [← Option.some_inj.mp same, hasKey, List.any_append, ← hasKey, ← hasKey,
      decidesLeft.2 lefts soughtLeft, decidesRight.2 rights soughtRight, disjunction_beq_true]
    simp

theorem decides_constant
    (row : Row)
    (truth : Bool) :
    Decides row (.binary .equal (.literal (.number "1"))
      (.literal (.number (if truth then "1" else "0")))) (some truth) := by
  refine ⟨?_, by simp [soughtKeys?]⟩
  cases truth <;> rfl

end Database
end TableQuery
