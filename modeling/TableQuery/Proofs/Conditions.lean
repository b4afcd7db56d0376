import Mathlib.Data.List.Induction
import TableQuery.Proofs.Operands
import TableQuery.Proofs.Tables
import TableQuery.Proofs.Truth

/-!
# The meaning of conditions

A condition is an expression over the names of columns, and with its names resolved the same
expression over places in rows.  The engine keeps a row for a list of conditions if each of them is
true of the row.
-/

namespace TableQuery
namespace Sql

/-! ## Expressions over names and places -/

namespace Expression

/-- Expressions that are joined by one operation from the left. -/
def chain (operator : Operator) : List (Expression α) → Expression α
  | [] => .literal .null
  | first :: rest => rest.foldl (.binary operator) first

theorem chain_singleton
    (operator : Operator)
    (expression : Expression α) :
    chain operator [expression] = expression := rfl

/-- The last of some expressions is joined to all the others. -/
theorem chain_concat
    (operator : Operator)
    (first : Expression α)
    (others : List (Expression α))
    (last : Expression α) :
    chain operator (first :: (others ++ [last])) =
      .binary operator (chain operator (first :: others)) last := by
  rw [chain, List.foldl_append]
  rfl

/-- What is joined by "and" are the parts of each expression. -/
theorem conjuncts_chain_and (expressions : List (Expression α)) (nonempty : expressions ≠ []) :
    (chain .and expressions).conjuncts = expressions.flatMap conjuncts := by
  have joined : ∀ (rest : List (Expression α)) (first : Expression α),
      (rest.foldl (.binary .and) first).conjuncts =
        first.conjuncts ++ rest.flatMap conjuncts := by
    intro rest
    induction rest with
    | nil => simp
    | cons second others inductionHypothesis =>
        intro first
        rw [List.foldl_cons, inductionHypothesis, conjuncts, List.flatMap_cons, List.append_assoc]
  cases expressions with
  | nil => exact absurd rfl nonempty
  | cons first rest => exact joined rest first

/-- Expressions that are joined by "or" are one condition. -/
theorem conjuncts_chain_or
    {expressions : List (Expression α)}
    (single : ∀ expression ∈ expressions, expression.conjuncts = [expression]) :
    (chain .or expressions).conjuncts = [chain .or expressions] := by
  cases expressions with
  | nil => rfl
  | cons first rest =>
      induction rest using List.reverseRecOn with
      | nil => exact single first (by simp)
      | append_singleton others last _ =>
          rw [chain_concat]
          rfl

end Expression

/-- A name as the engine reads it between backticks. -/
def named (column : String) : Reference :=
  { column, quote := some '`' }

/-- A comparison as an expression over what names stand for. -/
def Comparison.expression (place : String → α) (part : Comparison) : Expression α :=
  .negatedIf part.comparator.negates
    (.binary part.comparator.operator (.reference (place part.column))
      (.literal (.text part.value)))

/-- A condition as an expression over what names stand for. -/
def Condition.expression (place : String → α) : Condition → Expression α
  | .comparison part => part.expression place
  | .membership negated column members =>
    .negatedIf negated
      (.member (.reference (place column)) (members.map fun member => .literal (.text member)))
  | .constant truth =>
    .binary .equal (.literal (.number "1")) (.literal (.number (if truth then "1" else "0")))
  | .group connective parts =>
    .chain (connective.getD .any).operator (parts.map fun part => part.expression place)

/-- The columns of a condition. -/
def Condition.columns : Condition → List String
  | .comparison part => [part.column]
  | .membership _ column _ => [column]
  | .constant _ => []
  | .group _ parts => parts.map Comparison.column

/-- A group is the chain of its comparisons, also where it has only one. -/
theorem expression_ofParts
    (place : String → α)
    (connective : Connective)
    (parts : List Comparison) :
    (Condition.ofParts connective parts).expression place =
      .chain connective.operator (parts.map fun part => part.expression place) := by
  by_cases single : parts.length = 1
  · obtain ⟨part, rfl⟩ := List.length_eq_one_iff.mp single
    rfl
  · simp [Condition.ofParts, single, Condition.expression]

@[simp] theorem columns_ofParts
    (connective : Connective)
    (parts : List Comparison) :
    (Condition.ofParts connective parts).columns = parts.map Comparison.column := rfl

theorem tree_chain
    (operator : Operator)
    (operands : List Operand) :
    (Operand.chain operator operands).tree = .chain operator (operands.map Operand.tree) := by
  have joined : ∀ (rest : List Operand) (first : Operand),
      (rest.foldl (Operand.joined operator) first).tree =
        (rest.map Operand.tree).foldl (.binary operator) first.tree := by
    intro rest
    induction rest with
    | nil => simp
    | cons second others inductionHypothesis =>
        intro first
        rw [List.foldl_cons, inductionHypothesis]
        rfl
  cases operands with
  | nil => rfl
  | cons first rest => exact joined rest first

theorem tree_comparison (part : Comparison) : part.operand.tree = part.expression named := by
  obtain ⟨column, comparator, value⟩ := part
  cases comparator <;> rfl

/-- The engine reads a condition as its expression over names. -/
theorem tree_condition (condition : Condition) :
    condition.operand.tree = condition.expression named := by
  cases condition with
  | comparison part => exact tree_comparison part
  | membership negated column members => cases negated <;> rfl
  | constant truth => rfl
  | group connective parts =>
      simp only [Condition.operand, Condition.expression, tree_chain, List.map_map]
      congr 1
      exact List.map_congr_left fun part _ => tree_comparison part

theorem tree_filterOperand (conditions : List Condition) :
    (filterOperand conditions).tree =
      .chain .and (conditions.map fun condition => condition.expression named) := by
  rw [filterOperand, tree_chain, List.map_map]
  congr 1
  exact List.map_congr_left fun condition _ => tree_condition condition

end Sql

namespace Database

/-! ## Resolution -/

namespace Scope

/-- Names that mean places in a scope. -/
def Resolves (scope : Scope) (place : String → Place) (column : String) : Prop :=
  scope.meaning (Sql.named column) = .ok (.reference (place column))

variable {scope : Scope}
  {place : String → Place}

theorem resolve_binary
    {operator : Sql.Operator}
    {left right : Sql.Expression Sql.Reference}
    {left' right' : Sql.Expression Place}
    (resolvedLeft : scope.resolve left = .ok left')
    (resolvedRight : scope.resolve right = .ok right') :
    scope.resolve (.binary operator left right) = .ok (.binary operator left' right') := by
  cases operator <;> simp only [resolve, resolvedLeft, resolvedRight] <;> rfl

theorem resolve_negatedIf
    {expression : Sql.Expression Sql.Reference}
    {expression' : Sql.Expression Place}
    (resolved : scope.resolve expression = .ok expression')
    (negated : Bool) :
    scope.resolve (.negatedIf negated expression) = .ok (.negatedIf negated expression') := by
  cases negated with
  | false => exact resolved
  | true =>
      simp only [Sql.Expression.negatedIf, if_true, resolve, resolved]
      rfl

theorem resolve_chain
    {operator : Sql.Operator}
    {named : α → Sql.Expression Sql.Reference}
    {placed : α → Sql.Expression Place}
    {items : List α}
    (resolved : ∀ item ∈ items, scope.resolve (named item) = .ok (placed item)) :
    scope.resolve (.chain operator (items.map named)) = .ok (.chain operator (items.map placed)) := by
  cases items with
  | nil => rfl
  | cons first rest =>
      induction rest using List.reverseRecOn with
      | nil => exact resolved first (by simp)
      | append_singleton others last inductionHypothesis =>
          have front := inductionHypothesis fun item member =>
            resolved item (List.mem_append_left [last] member)
          have back := resolved last (by simp)
          simp only [List.map_cons, List.map_append, List.map_nil,
            Sql.Expression.chain_concat] at front ⊢
          exact resolve_binary front back

theorem resolveAll_map_text (members : List String) :
    scope.resolveAll (members.map fun member => .literal (.text member)) =
      .ok (members.map fun member => .literal (.text member)) := by
  induction members with
  | nil => rfl
  | cons member rest inductionHypothesis =>
      rw [List.map_cons, resolveAll, inductionHypothesis]
      rfl

theorem resolve_comparison
    {part : Sql.Comparison}
    (resolves : scope.Resolves place part.column) :
    scope.resolve (part.expression Sql.named) = .ok (part.expression place) := by
  apply resolve_negatedIf
  apply resolve_binary
  · rw [resolve]
    exact resolves
  · rfl

/-- A condition is resolved to the same condition over places. -/
theorem resolve_condition
    {condition : Sql.Condition}
    (resolves : ∀ column ∈ condition.columns, scope.Resolves place column) :
    scope.resolve (condition.expression Sql.named) = .ok (condition.expression place) := by
  cases condition with
  | comparison part => exact resolve_comparison (resolves part.column (by simp [Sql.Condition.columns]))
  | membership negated column members =>
      have known : scope.meaning (Sql.named column) = .ok (.reference (place column)) :=
        resolves column (by simp [Sql.Condition.columns])
      apply resolve_negatedIf
      simp only [resolve, known, resolveAll_map_text]
      rfl
  | constant truth => rfl
  | group connective parts =>
      apply resolve_chain
      intro part member
      exact resolve_comparison (resolves part.column (List.mem_map_of_mem member))

end Scope

/-! ## Places -/

/-- The place of a column of the only table of a statement. -/
def placeOf (table : Table) (name : String) : Place :=
  ⟨0, (table.column? name).getD .number⟩

/-- Whether a table has a column of a name. -/
def Table.Declares (table : Table) (name : String) : Prop :=
  (table.column? name).isSome

instance (table : Table) (name : String) : Decidable (table.Declares name) :=
  inferInstanceAs (Decidable (_ = true))

section Places

variable {table : Table}
  {name : String}

/-- A column of a name is one of the columns, and its name is the same. -/
theorem column?_eq_some_iff {spot : Spot} :
    table.column? name = some spot ↔
      ∃ index column, (table.columns.findIdx? fun column => sameName column.name name) = some index ∧
        table.columns[index]? = some column ∧
        spot = .column index column.affinity column.isKey := by
  simp only [Table.column?, Option.bind_eq_bind, Option.bind_eq_some_iff, Option.pure_def,
    Option.some_inj]
  constructor
  · rintro ⟨index, position, column, found, same⟩
    exact ⟨index, column, position, found, same.symm⟩
  · rintro ⟨index, column, position, found, same⟩
    exact ⟨index, position, column, found, same.symm⟩

/-- The columns of a table alone say where a name is found. -/
theorem column?_of_columns
    {other : Table}
    (same : other.columns = table.columns)
    (name : String) :
    other.column? name = table.column? name := by
  rw [Table.column?, Table.column?, same]

theorem cellAt_placeOf
    (declared : table.Declares name)
    (row : Row) :
    cellAt [row] (placeOf table name) = table.cellOf row name := by
  obtain ⟨spot, known⟩ := Option.isSome_iff_exists.mp declared
  simp [cellAt, placeOf, Table.cellOf, known]

theorem affinity_placeOf (declared : table.Declares name) :
    (placeOf table name).spot.affinity = table.affinityOf name := by
  obtain ⟨spot, known⟩ := Option.isSome_iff_exists.mp declared
  simp [placeOf, Table.affinityOf, known]

/-- In a sound table the key holds the numbers of the rows. -/
theorem isSoundFor_placeOf
    (sound : table.IsSound)
    (declared : table.Declares name)
    {row : Row}
    (member : row ∈ table.rows) :
    (placeOf table name).IsSoundFor row := by
  intro isKey
  obtain ⟨spot, known⟩ := Option.isSome_iff_exists.mp declared
  obtain ⟨index, column, _, found, rfl⟩ := column?_eq_some_iff.mp known
  simp only [placeOf, known, Option.getD_some] at isKey
  have key : column.isKey := isKey
  refine ⟨?_, ?_⟩
  · simp only [placeOf, known, Option.getD_some]
    exact sound.keyAffinity column (List.mem_of_getElem? found) key
  · have cell := sound.keys row member index column found key
    rw [cellAt_placeOf declared]
    simp [Table.cellOf, known, Row.cell, cell]

end Places

end Database

/-! ## Truth -/

namespace Sql

open Database

/-- Whether a comparison is true of a row. -/
def Comparison.isTrue (table : Table) (row : Row) (part : Comparison) : Bool :=
  table.compare? row part.column part.comparator part.value == some true

/-- Whether a condition is true of a row. -/
def Condition.isTrue (table : Table) (row : Row) : Condition → Bool
  | .comparison part => part.isTrue table row
  | .membership negated column members =>
    if negated then members.all fun member =>
      table.compare? row column .equal member == some false
    else members.any fun member => table.compare? row column .equal member == some true
  | .constant truth => truth
  | .group connective parts =>
    match connective.getD .any with
    | .any => parts.any (·.isTrue table row)
    | .all => parts.all (·.isTrue table row)

/-- A comparison whose text can be a pattern, where it is one. -/
def Comparison.IsShort (part : Comparison) : Prop :=
  part.comparator.operator = .like →
    part.value.utf8ByteSize ≤ patternLimit ∧ '\x00' ∉ part.value.toList

/-- The comparisons of a condition. -/
def Condition.parts : Condition → List Comparison
  | .comparison part => [part]
  | .group _ parts => parts
  | _ => []

/-- Whether a condition asks if a column equals a value. -/
def Condition.Equates : Condition → Prop
  | .comparison part => part.comparator = .equal
  | .membership .. => True
  | .constant _ => False
  | .group _ parts => ∃ part ∈ parts, part.comparator = .equal

/-- Whether a condition asks if the key of a table equals a value, so that the key may be sought. -/
def Condition.SeeksKey (table : Table) (condition : Condition) : Prop :=
  condition.Equates ∧ ∃ column ∈ condition.columns, (placeOf table column).spot.isKey

end Sql

namespace Database

section Conditions

variable {table : Table}
  {row : Row}

/-- The places of a sound table in one of its rows. -/
def Table.IsSoundRow (table : Table) (row : Row) : Prop :=
  ∀ name, table.Declares name → (placeOf table name).IsSoundFor row

theorem decides_comparison
    (sound : table.IsSoundRow row)
    {part : Sql.Comparison}
    (inner : part.comparator = .equal → (placeOf table part.column).spot.isKey → row.IsInner)
    (declared : table.Declares part.column)
    (short : part.IsShort) :
    Decides row (part.expression (placeOf table))
      (table.compare? row part.column part.comparator part.value) := by
  obtain ⟨column, comparator, value⟩ := part
  have cell := cellAt_placeOf declared row
  have affinity := affinity_placeOf declared
  have place := sound column declared
  simp only [Table.compare?]
  simp only at cell affinity
  rw [← cell, ← affinity]
  cases comparator with
  | equal => exact decides_equal (inner rfl) place value
  | notEqual => exact decides_notEqual row _ value
  | like => exact decides_like row _ (short rfl).1 (short rfl).2
  | notLike => exact (decides_like row _ (short rfl).1 (short rfl).2).not

/-- What is joined by "or" is true if some of the parts are. -/
theorem decides_chain_or
    {parts : List α}
    (nonempty : parts ≠ [])
    {expression : α → Sql.Expression Place}
    {truth : α → Option Bool}
    (decides : ∀ part ∈ parts, Decides row (expression part) (truth part)) :
    ∃ whole, Decides row (.chain .or (parts.map expression)) whole ∧
      (whole == some true) = parts.any fun part => truth part == some true := by
  cases parts with
  | nil => exact absurd rfl nonempty
  | cons first rest =>
      induction rest using List.reverseRecOn with
      | nil => exact ⟨truth first, decides first (by simp), by simp⟩
      | append_singleton others last inductionHypothesis =>
          obtain ⟨front, decidesFront, known⟩ := inductionHypothesis (by simp) fun part member =>
            decides part (List.mem_append_left [last] member)
          have back := decides last (by simp)
          refine ⟨disjunction [front, truth last], ?_, ?_⟩
          · have joined := decidesFront.or back
            simpa [Sql.Expression.chain_concat] using joined
          · rw [disjunction_beq_true, List.any_cons, List.any_cons, known]
            simp [Bool.or_assoc]

/-- Conditions after others are left alone unless the others hold. -/
theorem holdAll_append_eq
    (rows : List Row)
    (left right : List (Sql.Expression Place)) :
    holdAll rows (left ++ right) =
      (holdAll rows left).bind fun truth => if truth then holdAll rows right else .ok false := by
  induction left with
  | nil => rfl
  | cons condition rest inductionHypothesis =>
      simp only [List.cons_append, holdAll, inductionHypothesis]
      rcases holds rows condition with _ | _ | _ <;> rfl

/-- Conditions after others hold if both do. -/
theorem holdAll_append
    {rows : List Row}
    {left right : List (Sql.Expression Place)}
    {first second : Bool}
    (holdsLeft : holdAll rows left = .ok first)
    (holdsRight : holdAll rows right = .ok second) :
    holdAll rows (left ++ right) = .ok (first && second) := by
  rw [holdAll_append_eq, holdsLeft]
  cases first with
  | false => rfl
  | true => exact holdsRight

theorem holdAll_flatMap
    {rows : List Row}
    {conditions : α → List (Sql.Expression Place)}
    {truth : α → Bool}
    {items : List α}
    (each : ∀ item ∈ items, holdAll rows (conditions item) = .ok (truth item)) :
    holdAll rows (items.flatMap conditions) = .ok (items.all truth) := by
  induction items with
  | nil => rfl
  | cons item rest inductionHypothesis =>
      rw [List.flatMap_cons, List.all_cons]
      exact holdAll_append (each item (by simp)) (inductionHypothesis fun other member =>
        each other (List.mem_cons_of_mem item member))

theorem holdAll_singleton_eq
    (rows : List Row)
    (expression : Sql.Expression Place) :
    holdAll rows [expression] = holds rows expression := by
  simp only [holdAll]
  rcases holds rows expression with _ | _ | _ <;> rfl

theorem holdAll_singleton
    {expression : Sql.Expression Place}
    {truth : Option Bool}
    (decides : Decides row expression truth) :
    holdAll [row] [expression] = .ok (truth == some true) := by
  rw [holdAll_singleton_eq, decides.holds]

theorem conjuncts_comparison
    (place : String → α)
    (part : Sql.Comparison) :
    (part.expression place).conjuncts = [part.expression place] := by
  obtain ⟨column, comparator, value⟩ := part
  cases comparator <;> rfl

theorem holdAll_membership
    (sound : table.IsSoundRow row)
    {column : String}
    (inner : (placeOf table column).spot.isKey → row.IsInner)
    (declared : table.Declares column)
    (negated : Bool)
    (members : List String) :
    holdAll [row]
        (Sql.Condition.expression (placeOf table) (.membership negated column members)).conjuncts =
      .ok (Sql.Condition.isTrue table row (.membership negated column members)) := by
  have decides := decides_member inner (sound column declared) members
  rw [cellAt_placeOf declared, affinity_placeOf declared] at decides
  cases negated with
  | false =>
      refine (holdAll_singleton decides).trans (congrArg Except.ok ?_)
      rw [disjunction_beq_true, List.any_map]
      rfl
  | true =>
      refine (holdAll_singleton decides.not).trans (congrArg Except.ok ?_)
      rw [negate_disjunction_beq_true, List.all_map]
      rfl

/-- A group holds where one of its comparisons is true, or all of them are. -/
theorem holdAll_group
    {parts : List Sql.Comparison}
    (nonempty : parts ≠ [])
    (decides : ∀ part ∈ parts, Decides row (part.expression (placeOf table))
      (table.compare? row part.column part.comparator part.value))
    (connective : Option Connective) :
    holdAll [row] (Sql.Condition.expression (placeOf table) (.group connective parts)).conjuncts =
      .ok (Sql.Condition.isTrue table row (.group connective parts)) := by
  rw [Sql.Condition.expression, Sql.Condition.isTrue]
  cases connective.getD .any with
  | any =>
      have each : ∀ expression ∈ parts.map (fun part => part.expression (placeOf table)),
          expression.conjuncts = [expression] := by
        intro expression member
        obtain ⟨part, _, rfl⟩ := List.mem_map.mp member
        exact conjuncts_comparison _ part
      obtain ⟨whole, decidesWhole, known⟩ := decides_chain_or nonempty decides
      simp only [Connective.operator]
      rw [Sql.Expression.conjuncts_chain_or each, holdAll_singleton decidesWhole, known]
      rfl
  | all =>
      simp only [Connective.operator]
      rw [Sql.Expression.conjuncts_chain_and _ (by simpa using nonempty), List.flatMap_map]
      exact holdAll_flatMap fun part member => by
        rw [conjuncts_comparison]
        exact holdAll_singleton (decides part member)

/-- The parts of a condition hold exactly where the condition is true. -/
theorem holdAll_condition
    (sound : table.IsSoundRow row)
    {condition : Sql.Condition}
    (inner : condition.SeeksKey table → row.IsInner)
    (grammatical : condition.Grammatical)
    (declared : ∀ column ∈ condition.columns, table.Declares column)
    (short : ∀ part ∈ condition.parts, part.IsShort) :
    holdAll [row] (condition.expression (placeOf table)).conjuncts =
      .ok (condition.isTrue table row) := by
  cases condition with
  | comparison part =>
      have named : part.column ∈ Sql.Condition.columns (.comparison part) := by
        simp [Sql.Condition.columns]
      have decides := decides_comparison sound
        (fun equal isKey => inner ⟨equal, part.column, named, isKey⟩) (declared part.column named)
        (short part (by simp [Sql.Condition.parts]))
      rw [Sql.Condition.expression, conjuncts_comparison]
      exact holdAll_singleton decides
  | membership negated column members =>
      have named : column ∈ Sql.Condition.columns (.membership negated column members) := by
        simp [Sql.Condition.columns]
      exact holdAll_membership sound (fun isKey => inner ⟨trivial, column, named, isKey⟩)
        (declared column named) negated members
  | constant truth =>
      refine (holdAll_singleton (decides_constant row truth)).trans (congrArg Except.ok ?_)
      cases truth <;> rfl
  | group connective parts =>
      have nonempty : parts ≠ [] := by
        rintro rfl
        cases connective <;> simp [Sql.Condition.Grammatical] at grammatical
      refine holdAll_group nonempty (fun part member => ?_) connective
      have named : part.column ∈ Sql.Condition.columns (.group connective parts) :=
        List.mem_map_of_mem member
      exact decides_comparison sound
        (fun equal isKey => inner ⟨⟨part, member, equal⟩, part.column, named, isKey⟩)
        (declared part.column named) (short part member)

end Conditions

end Database
end TableQuery
