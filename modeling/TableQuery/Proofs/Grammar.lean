import TableQuery.Direction
import TableQuery.Proofs.Digits
import TableQuery.Query.Predicate
import TableQuery.Sql.Token

/-!
# The grammar of requests

A request fetches the rows of one table: it may have conditions, it is sorted by one column, and it
may have a section.  A reader takes a request from its tokens by recursive descent, and reading
undoes writing.  The reader knows nothing but the grammar: no table, no limits of an engine and no
way in which requests come about.
-/

namespace TableQuery

/-- The token between the parts of a group. -/
def Connective.token : Connective → Sql.Token
  | .any => .keyword .or "OR"
  | .all => .keyword .and "AND"

/-- The tokens of a comparator. -/
def Comparator.tokens : Comparator → List Sql.Token
  | .equal => [.symbol .equal]
  | .notEqual => [.symbol .notEqual]
  | .like => [.keyword .like "LIKE"]
  | .notLike => [.keyword .not "NOT", .keyword .like "LIKE"]

/-- The token of a direction. -/
def Direction.token : Direction → Sql.Token
  | .ascending => .keyword .asc "ASC"
  | .descending => .keyword .desc "DESC"

namespace Sql

/-- A comparison of a column with a text. -/
structure Comparison where
  column : String
  comparator : Comparator
  value : String
deriving DecidableEq, Repr

/-- A condition of a request. -/
inductive Condition where
  | comparison (comparison : Comparison)
  /-- A column is, or is not, one of some texts. -/
  | membership (negated : Bool) (column : String) (members : List String)
  /-- A comparison of two digits, which holds for every row or for none. -/
  | constant (truth : Bool)
  /-- Comparisons between parentheses; a single one is joined by no word. -/
  | group (connective : Option Connective) (parts : List Comparison)
deriving DecidableEq, Repr

/-- What a statement asks for. -/
structure Request where
  table : String
  conditions : List Condition := []
  sortColumn : String
  direction : Direction := .ascending
  limit : Option Int := none
  offset : Option Int := none
deriving DecidableEq, Repr

/-! ## Writing -/

/-- The token of a name between backticks. -/
def nameToken (text : String) : Token :=
  .name '`' text

namespace Comparison

/-- The tokens of a comparison. -/
def tokens (comparison : Comparison) : List Token :=
  nameToken comparison.column ::
    (comparison.comparator.tokens ++ [.literal comparison.value])

end Comparison

namespace Condition

/-- Comparisons between parentheses, joined by a word if there are several. -/
def ofParts (connective : Connective) (parts : List Comparison) : Condition :=
  .group (if parts.length = 1 then none else some connective) parts

/-- The tokens of a condition. -/
def tokens : Condition → List Token
  | .comparison part => part.tokens
  | .membership negated column members =>
    nameToken column ::
      ((if negated then [.keyword .not "NOT", .keyword .in "IN"] else [.keyword .in "IN"]) ++
        .symbol .opening ::
          ([.symbol .comma].intercalate (members.map fun member => [.literal member]) ++
            [.symbol .closing]))
  | .constant truth => [.number "1", .symbol .equal, .number (if truth then "1" else "0")]
  | .group connective parts =>
    .symbol .opening ::
      ([(connective.getD .any).token].intercalate (parts.map Comparison.tokens) ++
        [.symbol .closing])

/-- A condition that the grammar has: no list is empty, and a word stands between comparisons if
there are several. -/
def Grammatical : Condition → Prop
  | .membership _ _ members => members ≠ []
  | .group none parts => parts.length = 1
  | .group (some _) parts => 2 ≤ parts.length
  | .comparison _ | .constant _ => True

theorem grammatical_ofParts
    (connective : Connective)
    {parts : List Comparison}
    (nonempty : parts ≠ []) :
    (ofParts connective parts).Grammatical := by
  have positive : 0 < parts.length := List.length_pos_iff.mpr nonempty
  by_cases single : parts.length = 1
  · simp [ofParts, single, Grammatical]
  · simp only [ofParts, single, if_false, Grammatical]
    omega

end Condition

/-- The tokens of a filter; without conditions there is none. -/
def filterTokens (conditions : List Condition) : List Token :=
  if conditions.isEmpty then []
  else .keyword .where "WHERE" ::
    [Connective.token .all].intercalate (conditions.map Condition.tokens)

/-- The tokens of an integer. -/
def integerTokens : Int → List Token
  | .ofNat number => [.number number.repr]
  | .negSucc number => [.symbol .minus, .number (number + 1).repr]

/-- The tokens of a section. -/
def sectionTokens (limit offset : Option Int) : List Token :=
  (match limit with
    | some count => .keyword .limit "LIMIT" :: integerTokens count
    | none => []) ++
  (match offset with
    | some count => .keyword .offset "OFFSET" :: integerTokens count
    | none => [])

namespace Request

/-- The tokens of a request. -/
def tokens (request : Request) : List Token :=
  [.keyword .select "SELECT", .symbol .star, .keyword .from "FROM", nameToken request.table] ++
    (filterTokens request.conditions ++
      ([.keyword .order "ORDER", .keyword .by "BY", nameToken request.sortColumn,
          request.direction.token] ++
        sectionTokens request.limit request.offset))

/-- The tokens of the request for the count of the rows for which the conditions hold. -/
def countTokens (table : String) (conditions : List Condition) : List Token :=
  [.keyword .select "SELECT", .word "COUNT", .symbol .opening, .symbol .star, .symbol .closing,
    .keyword .from "FROM", nameToken table] ++ filterTokens conditions

/-- A request that the grammar has: its conditions are, and rows are left out only where the rest
is bounded. -/
structure Grammatical (request : Request) : Prop where
  conditions : ∀ condition ∈ request.conditions, condition.Grammatical
  offset : request.offset.isSome → request.limit.isSome

end Request

/-! ## Reading -/

/-- A reader of the front of a list of tokens. -/
abbrev Reader (α : Type) := List Token → Option (α × List Token)

/-- Reads members with separators between them.  The first argument bounds their count. -/
def readSeparated (read : Reader α) (separates : Token → Bool) : Nat → Reader (List α)
  | 0, _ => none
  | bound + 1, tokens => do
    match ← read tokens with
    | (first, separator :: rest) =>
      if separates separator then
        let (others, rest) ← readSeparated read separates bound rest
        some (first :: others, rest)
      else some ([first], separator :: rest)
    | (first, []) => some ([first], [])

/-- Reads as many members with separators between them as there are. -/
def readAll (read : Reader α) (separates : Token → Bool) : Reader (List α) :=
  fun tokens => readSeparated read separates tokens.length tokens

/-- Whether a token is the word "or". -/
def isOr : Token → Bool
  | .keyword .or _ => true
  | _ => false

/-- Whether a token is the word "and". -/
def isAnd : Token → Bool
  | .keyword .and _ => true
  | _ => false

/-- Reads a comparator. -/
def readComparator : Reader Comparator
  | .symbol .equal :: rest => some (.equal, rest)
  | .symbol .notEqual :: rest => some (.notEqual, rest)
  | .keyword .like _ :: rest => some (.like, rest)
  | .keyword .not _ :: .keyword .like _ :: rest => some (.notLike, rest)
  | _ => none

/-- Reads a literal. -/
def readLiteral : Reader String
  | .literal text :: rest => some (text, rest)
  | _ => none

/-- Reads a comparison. -/
def readComparison : Reader Comparison
  | .name '`' column :: rest => do
    let (comparator, rest) ← readComparator rest
    let (value, rest) ← readLiteral rest
    some (⟨column, comparator, value⟩, rest)
  | _ => none

/-- Reads comparisons that are joined by one word, and the parenthesis after them. -/
def readParts (joins : Token → Bool) : Reader (List Comparison) := fun tokens => do
  match ← readAll readComparison joins tokens with
  | (parts, .symbol .closing :: rest) => some (parts, rest)
  | _ => none

/-- Reads comparisons after a parenthesis. -/
def readGroup : Reader Condition := fun tokens =>
  match readParts isOr tokens with
  | some (parts, rest) => some (.ofParts .any parts, rest)
  | none => do
    let (parts, rest) ← readParts isAnd tokens
    some (.ofParts .all parts, rest)

/-- Reads the members of a list after its parenthesis. -/
def readMembership (negated : Bool) (column : String) : Reader Condition := fun tokens => do
  match ← readAll readLiteral (· = .symbol .comma) tokens with
  | (members, .symbol .closing :: rest) => some (.membership negated column members, rest)
  | _ => none

/-- Reads a condition. -/
def readCondition : Reader Condition
  | .number left :: .symbol .equal :: .number right :: rest =>
    if left = "1" ∧ right = "1" then some (.constant true, rest)
    else if left = "1" ∧ right = "0" then some (.constant false, rest)
    else none
  | .symbol .opening :: rest => readGroup rest
  | .name '`' column :: .keyword .in _ :: .symbol .opening :: rest =>
    readMembership false column rest
  | .name '`' column :: .keyword .not _ :: .keyword .in _ :: .symbol .opening :: rest =>
    readMembership true column rest
  | tokens => do
    let (comparison, rest) ← readComparison tokens
    some (.comparison comparison, rest)

/-- Reads a filter, if there is one. -/
def readFilter : Reader (List Condition)
  | .keyword .where _ :: rest => readAll readCondition isAnd rest
  | tokens => some ([], tokens)

/-- The natural that is written in decimal. -/
def naturalOf? (text : String) : Option Nat :=
  (text.toList.mapM Text.asciiDigit?).map Numeral.positionalValue

/-- Reads an integer. -/
def readInteger : Reader Int
  | .number text :: rest => do some ((← naturalOf? text : Nat), rest)
  | .symbol .minus :: .number text :: rest => do some (-(← naturalOf? text : Nat), rest)
  | _ => none

/-- Reads a section to the end of the tokens. -/
def readSection : List Token → Option (Option Int × Option Int)
  | [] => some (none, none)
  | .keyword .limit _ :: rest => do
    match ← readInteger rest with
    | (limit, []) => some (some limit, none)
    | (limit, .keyword .offset _ :: rest) =>
      match ← readInteger rest with
      | (offset, []) => some (some limit, some offset)
      | _ => none
    | _ => none
  | _ => none

/-- The direction that a token names. -/
def directionOf? : Token → Option Direction
  | .keyword .asc _ => some .ascending
  | .keyword .desc _ => some .descending
  | _ => none

namespace Request

/-- Reads a request that takes up all of the tokens. -/
def read : List Token → Option Request
  | .keyword .select _ :: .symbol .star :: .keyword .from _ :: .name '`' table :: rest => do
    match ← readFilter rest with
    | (conditions, .keyword .order _ :: .keyword .by _ :: .name '`' sortColumn :: word :: rest) =>
      let direction ← directionOf? word
      let (limit, offset) ← readSection rest
      some { table, conditions, sortColumn, direction, limit, offset }
    | _ => none
  | _ => none

/-- Reads a request from a statement. -/
def parse (statement : String) : Option Request :=
  read (tokenize statement)

end Request

end Sql
end TableQuery
