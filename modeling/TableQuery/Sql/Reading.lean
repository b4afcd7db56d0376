import TableQuery.Database.Problem
import TableQuery.Sql.Expression

/-!
# Reading expressions

An expression is read token by token.  What has begun and still lacks an operand waits in a stack
of frames, the innermost one first.  An operation that holds an operand less closely than a waiting
one completes the waiting one, so operations of one precedence group to the left.  A token that
does not fit is refused as soon as it comes.
-/

namespace TableQuery
namespace Sql

/-- The result of reading, or a problem. -/
abbrev Read := Except Database.Problem

/-- The problem of a token that does not fit. -/
def problemAt : Token → Database.Problem
  | .illegal text => .unrecognized text
  | token => .unexpected token.text

/-! ## Operands -/

/-- An expression with the height of its tree. -/
structure Operand where
  tree : Expression Reference
  height : Nat

/-- The greatest height of a tree. -/
def heightLimit : Nat := 1000

namespace Operand

/-- An operand of a height, unless it is too high. -/
def ofHeight (tree : Expression Reference) (height : Nat) : Read Operand :=
  if heightLimit < height then .error (.tooHigh heightLimit) else .ok ⟨tree, height⟩

/-- A value that stands in the statement. -/
def literal (value : Literal) : Operand :=
  ⟨.literal value, 1⟩

/-- A column that is named. -/
def reference (reference : Reference) : Operand :=
  ⟨.reference reference, 1 + reference.owners.length⟩

/-- The negation of an operand, on demand. -/
def negatedIf (negated : Bool) (operand : Operand) : Read Operand :=
  if negated then ofHeight (.unary .not operand.tree) (operand.height + 1) else .ok operand

/-- An operation on one operand.  The sign of a number becomes part of it. -/
def sign (sign : Sign) (operand : Operand) : Read Operand :=
  let tree := match sign, operand.tree with
    | .negate, .literal (.number written) =>
      if written.toList.head? = some '-' then .unary .negate operand.tree
      else .literal (.number ("-" ++ written))
    | sign, tree => .unary sign tree
  ofHeight tree (operand.height + 1)

/-- An operation on two operands. -/
def join (operator : Operator) (left right : Operand) : Read Operand :=
  ofHeight (.binary operator left.tree right.tree) (max left.height right.height + 1)

/-- Whether a subject lies between two operands. -/
def between (subject least greatest : Operand) : Read Operand :=
  ofHeight
    (.binary .and (.binary .atLeast subject.tree least.tree)
      (.binary .atMost subject.tree greatest.tree))
    (max subject.height (max least.height greatest.height) + 1)

/-- Whether a subject is one of some members. -/
def member (subject : Operand) (members : List Operand) : Read Operand :=
  ofHeight (.member subject.tree (members.map tree))
    ((members.map height).foldl max subject.height + 1)

/-- An operand whose texts are compared in a named order. -/
def collate (operand : Operand) (order : String) : Read Operand :=
  ofHeight (.collate operand.tree order) (operand.height + 1)

end Operand

/-! ## Frames -/

/-- What has begun and waits for an operand. -/
inductive Frame where
  | group
  | binary (left : Operand) (negated : Bool) (operator : Operator)
  | unary (sign : Sign)
  /-- A list of members; the earlier ones stand with the last one first. -/
  | members (negated : Bool) (subject : Operand) (earlier : List Operand)
  /-- The lower bound of a range. -/
  | low (negated : Bool) (subject : Operand)
  /-- The upper bound of a range. -/
  | high (negated : Bool) (subject least : Operand)

namespace Frame

/-- How closely a frame holds the operand that it waits for; none if only a token of its own can
complete it. -/
def precedence? : Frame → Option Nat
  | .binary _ _ operator => some operator.precedence
  | .unary sign => some sign.precedence
  | .high .. => some Operator.equal.precedence
  | .group | .members .. | .low .. => none

/-- Completes a frame with the operand that it waits for. -/
def complete (operand : Operand) : Frame → Read Operand
  | .binary left negated operator => do (← Operand.join operator left operand).negatedIf negated
  | .unary sign => operand.sign sign
  | .high negated subject least => do (← subject.between least operand).negatedIf negated
  | .group | .members .. | .low .. => .ok operand

end Frame

/-- Completes the innermost frames that hold an operand at least as closely as a precedence. -/
def completeFrames (precedence : Nat) : List Frame → Operand → Read (List Frame × Operand)
  | [], operand => .ok ([], operand)
  | frame :: rest, operand =>
    match frame.precedence? with
    | some held =>
      if precedence ≤ held then do completeFrames precedence rest (← frame.complete operand)
      else .ok (frame :: rest, operand)
    | none => .ok (frame :: rest, operand)

/-! ## Stages -/

/-- What has to come next. -/
inductive Stage where
  | operand
  /-- An operand is complete; what comes may use it. -/
  | complete (operand : Operand)
  /-- The word "not" has come after an operand. -/
  | negation (operand : Operand)
  /-- The word "is" has come after an operand, perhaps with the word "not". -/
  | identity (negated : Bool) (operand : Operand)
  /-- The parenthesis of a list of members. -/
  | opening (negated : Bool) (operand : Operand)
  /-- The first member of a list, which may be empty. -/
  | firstMember
  /-- The name of an order of texts. -/
  | collation (operand : Operand)
  /-- The name after a dot. -/
  | part (owners : List String)

/-- How far an expression has been read. -/
structure Reading where
  frames : List Frame := []
  stage : Stage := .operand

namespace Reading

/-- The name that a token is. -/
def nameOf? : Token → Option (String × Option Char)
  | .name quote text => some (text, some quote)
  | .word text => some (text, none)
  | .keyword keyword text => if keyword.canName then some (text, none) else none
  | _ => none

/-- The operand that a token is by itself. -/
def operandOf? : Token → Option Operand
  | .literal text => some (.literal (.text text))
  | .number text => some (.literal (.number text))
  | .keyword .null _ => some (.literal .null)
  | token => (nameOf? token).map fun (text, quote) => .reference { column := text, quote }

/-- The step where an operand has to come. -/
def stepOperand (frames : List Frame) (token : Token) : Read Reading :=
  match Sign.ofToken? token, operandOf? token with
  | some sign, _ => .ok ⟨.unary sign :: frames, .operand⟩
  | none, some operand => .ok ⟨frames, .complete operand⟩
  | none, none =>
    if token = .symbol .opening then .ok ⟨.group :: frames, .operand⟩ else .error (problemAt token)

/-- Lets an operation take the complete operand as its left one. -/
def takeLeft (frames : List Frame) (operand : Operand) (negated : Bool) (operator : Operator) :
    Read Reading := do
  let (frames, left) ← completeFrames operator.precedence frames operand
  return ⟨.binary left negated operator :: frames, .operand⟩

/-- The step on the word "and", which also stands between the bounds of a range. -/
def stepAnd (frames : List Frame) (operand : Operand) : Read Reading := do
  let (frames, operand) ← completeFrames Sign.not.precedence frames operand
  match frames with
  | .low negated subject :: rest => return ⟨.high negated subject operand :: rest, .operand⟩
  | frames => takeLeft frames operand false .and

/-- The step on a closing parenthesis. -/
def stepClosing (frames : List Frame) (operand : Operand) : Read Reading := do
  let (frames, operand) ← completeFrames 0 frames operand
  match frames with
  | .group :: rest => return ⟨rest, .complete operand⟩
  | .members negated subject earlier :: rest =>
    let found ← subject.member (operand :: earlier).reverse
    return ⟨rest, .complete (← found.negatedIf negated)⟩
  | _ => throw (problemAt (.symbol .closing))

/-- The step on a comma, which stands between members only. -/
def stepComma (frames : List Frame) (operand : Operand) : Read Reading := do
  let (frames, operand) ← completeFrames 0 frames operand
  match frames with
  | .members negated subject earlier :: rest =>
    return ⟨.members negated subject (operand :: earlier) :: rest, .operand⟩
  | _ => throw (problemAt (.symbol .comma))

/-- The step on a dot, which stands after names only. -/
def stepDot (frames : List Frame) (operand : Operand) : Read Reading :=
  match operand.tree with
  | .reference reference =>
    if reference.owners.length < 2 then
      .ok ⟨frames, .part (reference.owners ++ [reference.column])⟩
    else .error (problemAt (.symbol .dot))
  | _ => .error (problemAt (.symbol .dot))

/-- Compares the complete operand with nothing. -/
def compareNull (frames : List Frame) (operand : Operand) (operator : Operator) :
    Read Reading := do
  let (frames, operand) ← completeFrames operator.precedence frames operand
  return ⟨frames, .complete (← Operand.join operator operand (.literal .null))⟩

/-- Completes what holds an operand as closely as a comparison, and goes on to a stage. -/
def compareWith (frames : List Frame) (operand : Operand) (next : Operand → Stage) :
    Read Reading := do
  let (frames, operand) ← completeFrames Operator.equal.precedence frames operand
  return ⟨frames, next operand⟩

/-- Begins a range whose subject is the complete operand. -/
def beginRange (frames : List Frame) (operand : Operand) (negated : Bool) : Read Reading := do
  let (frames, operand) ← completeFrames Operator.equal.precedence frames operand
  return ⟨.low negated operand :: frames, .operand⟩

/-- The step after a complete operand. -/
def stepComplete (frames : List Frame) (operand : Operand) (token : Token) : Read Reading :=
  match token with
  | .keyword .and _ => stepAnd frames operand
  | .keyword .not _ => .ok ⟨frames, .negation operand⟩
  | .keyword .is _ => compareWith frames operand (.identity false)
  | .keyword .isNull _ => compareNull frames operand .is
  | .keyword .notNull _ => compareNull frames operand .isNot
  | .keyword .in _ => compareWith frames operand (.opening false)
  | .keyword .between _ => beginRange frames operand false
  | .keyword .collate _ => do
    let (frames, operand) ← completeFrames collatePrecedence frames operand
    return ⟨frames, .collation operand⟩
  | .symbol .closing => stepClosing frames operand
  | .symbol .comma => stepComma frames operand
  | .symbol .dot => stepDot frames operand
  | token =>
    match Operator.ofToken? token with
    | some operator => takeLeft frames operand false operator
    | none => .error (problemAt token)

/-- The step after an operand and the word "not". -/
def stepNegation (frames : List Frame) (operand : Operand) (token : Token) : Read Reading :=
  match token with
  | .keyword .like _ => takeLeft frames operand true .like
  | .keyword .in _ => compareWith frames operand (.opening true)
  | .keyword .between _ => beginRange frames operand true
  | .keyword .null _ => compareNull frames operand .isNot
  | token => .error (problemAt token)

/-- The step on a token. -/
def step (reading : Reading) (token : Token) : Read Reading :=
  match reading.stage with
  | .operand => stepOperand reading.frames token
  | .complete operand => stepComplete reading.frames operand token
  | .negation operand => stepNegation reading.frames operand token
  | .identity negated operand =>
    match negated, token with
    | false, .keyword .not _ => .ok { reading with stage := .identity true operand }
    | negated, token =>
      stepOperand (.binary operand false (if negated then .isNot else .is) :: reading.frames) token
  | .opening negated operand =>
    if token = .symbol .opening then
      .ok ⟨.members negated operand [] :: reading.frames, .firstMember⟩
    else .error (problemAt token)
  | .firstMember =>
    match token, reading.frames with
    | .symbol .closing, .members negated subject earlier :: rest => do
      let found ← subject.member earlier.reverse
      return ⟨rest, .complete (← found.negatedIf negated)⟩
    | token, frames => stepOperand frames token
  | .collation operand =>
    match nameOf? token, token with
    | some (order, _), _ => do
      return { reading with stage := .complete (← operand.collate order) }
    | none, .literal order => do
      return { reading with stage := .complete (← operand.collate order) }
    | none, token => .error (problemAt token)
  | .part owners =>
    match nameOf? token with
    | some (column, quote) =>
      .ok { reading with stage := .complete (.reference { owners, column, quote }) }
    | none => .error (problemAt token)

/-- Whether a token of its own has to come before the expression can end. -/
def isOpen (reading : Reading) : Bool :=
  reading.frames.any fun frame => frame.precedence?.isNone

/-- The operand that is complete outside of every parenthesis, if there is one. -/
def outermost? (reading : Reading) : Option Operand :=
  match reading.stage with
  | .complete operand => if reading.isOpen then none else some operand
  | _ => none

/-- The whole expression, given the operand that is complete. -/
def whole (reading : Reading) (operand : Operand) : Read (Expression Reference) := do
  return (← completeFrames 0 reading.frames operand).2.tree

end Reading

end Sql
end TableQuery
