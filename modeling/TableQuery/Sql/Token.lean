import TableQuery.Number.Numeral
import TableQuery.Text.Case

/-!
# Tokens of statements

A statement is read character by character: the state holds the token that has begun, and each
step tells which tokens have ended.  Inside quotes a doubled quote stands for one quote, so only
the character after a quote decides whether the token has ended.  Comments make no token.
-/

namespace TableQuery
namespace Sql

/-! ## Words -/

/-- A word with a meaning of its own. -/
inductive Keyword where
  | select
  | from
  | as
  | where
  | and
  | or
  | not
  | is
  | isNull
  | notNull
  | null
  | like
  | in
  | between
  | collate
  | order
  | by
  | asc
  | desc
  | limit
  | offset
  | nulls
  | first
  | last
  | join
  | inner
  | cross
  | on
  | union
  | all
  | intersect
  | except
  /-- A word of statements that are not read here. -/
  | reserved
deriving DecidableEq, Repr

namespace Keyword

/-- The words with a meaning in the statements that are read here. -/
def spelled : List (String × Keyword) :=
  [("SELECT", .select), ("FROM", .from), ("AS", .as), ("WHERE", .where), ("AND", .and), ("OR", .or),
    ("NOT", .not), ("IS", .is), ("ISNULL", .isNull), ("NOTNULL", .notNull), ("NULL", .null),
    ("LIKE", .like), ("IN", .in), ("BETWEEN", .between), ("COLLATE", .collate), ("ORDER", .order),
    ("BY", .by), ("ASC", .asc), ("DESC", .desc), ("LIMIT", .limit), ("OFFSET", .offset),
    ("NULLS", .nulls), ("FIRST", .first), ("LAST", .last), ("JOIN", .join), ("INNER", .inner),
    ("CROSS", .cross), ("ON", .on), ("UNION", .union), ("ALL", .all),
    ("INTERSECT", .intersect), ("EXCEPT", .except)]

/-- The words that no name can be without quotes, although they are not read here. -/
def reservedWords : List String :=
  ["ADD", "ALTER", "AUTOINCREMENT", "CASE", "CHECK", "COMMIT", "CONSTRAINT", "CREATE", "DEFAULT",
    "DEFERRABLE", "DELETE", "DISTINCT", "DROP", "ELSE", "ESCAPE", "EXISTS", "FOREIGN", "FULL",
    "GROUP", "HAVING", "INDEX", "INSERT", "INTO", "LEFT", "NATURAL", "NOTHING", "OUTER", "PRIMARY",
    "REFERENCES", "RETURNING", "RIGHT", "SET", "TABLE", "THEN", "TO", "TRANSACTION", "UNIQUE",
    "UPDATE", "USING", "VALUES", "WHEN"]

/-- The keyword that a word is, in any case of letters. -/
def ofText? (word : String) : Option Keyword :=
  let upper := String.ofList (word.toList.map Text.upperAscii)
  match spelled.lookup upper with
  | some keyword => some keyword
  | none => if reservedWords.contains upper then some .reserved else none

/-- Whether a keyword can also be a name. -/
def canName : Keyword → Bool
  | .like | .by | .asc | .desc | .offset | .nulls | .first | .last => true
  | _ => false

end Keyword

/-! ## Signs -/

/-- A sign between words. -/
inductive Symbol where
  | opening
  | closing
  | comma
  | semicolon
  | dot
  | star
  | slash
  | percent
  | plus
  | minus
  | tilde
  | equal
  | doubleEqual
  | notEqual
  | different
  | less
  | atMost
  | greater
  | atLeast
  | shiftLeft
  | shiftRight
  | ampersand
  | bar
  | doubleBar
deriving DecidableEq, Repr

namespace Symbol

/-- The characters of a sign. -/
def text : Symbol → String
  | .opening => "("
  | .closing => ")"
  | .comma => ","
  | .semicolon => ";"
  | .dot => "."
  | .star => "*"
  | .slash => "/"
  | .percent => "%"
  | .plus => "+"
  | .minus => "-"
  | .tilde => "~"
  | .equal => "="
  | .doubleEqual => "=="
  | .notEqual => "!="
  | .different => "<>"
  | .less => "<"
  | .atMost => "<="
  | .greater => ">"
  | .atLeast => ">="
  | .shiftLeft => "<<"
  | .shiftRight => ">>"
  | .ampersand => "&"
  | .bar => "|"
  | .doubleBar => "||"

/-- The sign that a character is by itself. -/
def ofChar? : Char → Option Symbol
  | '(' => some .opening
  | ')' => some .closing
  | ',' => some .comma
  | ';' => some .semicolon
  | '.' => some .dot
  | '*' => some .star
  | '/' => some .slash
  | '%' => some .percent
  | '+' => some .plus
  | '-' => some .minus
  | '~' => some .tilde
  | '=' => some .equal
  | '<' => some .less
  | '>' => some .greater
  | '&' => some .ampersand
  | '|' => some .bar
  | _ => none

/-- The sign that two characters are together. -/
def ofPair? : Char → Char → Option Symbol
  | '=', '=' => some .doubleEqual
  | '!', '=' => some .notEqual
  | '<', '>' => some .different
  | '<', '=' => some .atMost
  | '>', '=' => some .atLeast
  | '<', '<' => some .shiftLeft
  | '>', '>' => some .shiftRight
  | '|', '|' => some .doubleBar
  | _, _ => none

end Symbol

/-! ## Tokens -/

/-- A token of a statement. -/
inductive Token where
  | keyword (keyword : Keyword) (text : String)
  /-- A word that is no keyword. -/
  | word (text : String)
  | symbol (symbol : Symbol)
  /-- A name between quotes, with the quote that opens it. -/
  | name (quote : Char) (text : String)
  /-- What stands between single quotes. -/
  | literal (text : String)
  | number (text : String)
  /-- A piece of text that is no token. -/
  | illegal (text : String)
deriving DecidableEq, Repr

/-- The characters of a text with every quote among them doubled. -/
def doubled (quote : Char) (chars : List Char) : List Char :=
  chars.flatMap fun c => if c = quote then [c, c] else [c]

namespace Token

/-- A text between quotes, where a quote inside it is doubled. -/
def enclose (quote : Char) (text : String) : String :=
  if quote = '[' then "[" ++ text ++ "]"
  else String.ofList (quote :: (doubled quote text.toList ++ [quote]))

/-- The characters of a token. -/
def text : Token → String
  | .keyword _ text => text
  | .word text => text
  | .symbol given => given.text
  | .name quote text => enclose quote text
  | .literal text => enclose '\'' text
  | .number text => text
  | .illegal text => text

/-- The token of the text between quotes. -/
def quoted (quote : Char) (text : String) : Token :=
  if quote = '\'' then .literal text else .name quote text

end Token

/-! ## Scanning -/

/-- The token that has begun, with its characters so far, the last one first. -/
inductive Scan where
  | between
  | word (reversed : List Char)
  | number (reversed : List Char)
  | quoted (quote : Char) (reversed : List Char)
  /-- A text between quotes after a quote that may close it. -/
  | quoteSeen (quote : Char) (reversed : List Char)
  /-- A name between brackets. -/
  | bracketed (reversed : List Char)
  /-- The first character of a sign that may have two. -/
  | sign (first : Char)
  /-- A comment up to the end of the line. -/
  | lineComment
  /-- A comment up to its closing mark, and whether a star has just been seen. -/
  | blockComment (star : Bool)
deriving DecidableEq, Repr

namespace Scan

/-- The text of characters in reverse order. -/
def textOf (reversed : List Char) : String :=
  String.ofList reversed.reverse

/-- Whether a character can begin a word. -/
def beginsWord (c : Char) : Bool :=
  ('a' ≤ c && c ≤ 'z') || ('A' ≤ c && c ≤ 'Z') || c == '_' || 128 ≤ c.toNat

/-- Whether a character can continue a word. -/
def continuesWord (c : Char) : Bool :=
  beginsWord c || c == '$' || (Text.asciiDigit? c).isSome

/-- Whether a character can continue a number: a sign does right after the mark of a power. -/
def continuesNumber (reversed : List Char) (c : Char) : Bool :=
  continuesWord c || c == '.' ||
    ((c == '+' || c == '-') &&
      match reversed with
      | mark :: before =>
        (mark == 'e' || mark == 'E') &&
          before.all fun d => d == '.' || (Text.asciiDigit? d).isSome
      | [] => false)

/-- The token of a whole word. -/
def wordToken (reversed : List Char) : Token :=
  match Keyword.ofText? (textOf reversed) with
  | some keyword => .keyword keyword (textOf reversed)
  | none => .word (textOf reversed)

/-- The token of a whole number; letters that run into it make it illegal. -/
def numberToken (reversed : List Char) : Token :=
  match Numeral.decimal? Text.asciiDigit? reversed.reverse with
  | some _ => .number (textOf reversed)
  | none => .illegal (textOf reversed)

/-- The token of a character that stands alone. -/
def charToken (c : Char) : Token :=
  match Symbol.ofChar? c with
  | some symbol => .symbol symbol
  | none => .illegal (String.singleton c)

/-- Whether a sign that begins with a character may have two characters. -/
def beginsPair (c : Char) : Bool :=
  ['!', '=', '<', '>', '|', '-', '/', '.'].contains c

/-- The step on a character outside any token. -/
def start (c : Char) : Scan × List Token :=
  if Text.isAsciiBlank c then (.between, [])
  else if c = '\'' || c = '"' || c = '`' then (.quoted c [], [])
  else if c = '[' then (.bracketed [], [])
  else if beginsWord c then (.word [c], [])
  else if (Text.asciiDigit? c).isSome then (.number [c], [])
  else if beginsPair c then (.sign c, [])
  else (.between, [charToken c])

/-- Ends a token before a character, which then begins the next one. -/
def restart (token : Token) (c : Char) : Scan × List Token :=
  let (state, tokens) := start c
  (state, token :: tokens)

/-- The step on a character after the first one of a sign. -/
def stepSign (first c : Char) : Scan × List Token :=
  if first = '-' ∧ c = '-' then (.lineComment, [])
  else if first = '/' ∧ c = '*' then (.blockComment false, [])
  else if first = '.' ∧ (Text.asciiDigit? c).isSome then (.number [c, '.'], [])
  else
    match Symbol.ofPair? first c with
    | some symbol => (.between, [.symbol symbol])
    | none => restart (charToken first) c

/-- The step on a character: the new state and the tokens that have ended. -/
def step : Scan → Char → Scan × List Token
  | .between, c => start c
  | .word reversed, c =>
    if continuesWord c then (.word (c :: reversed), []) else restart (wordToken reversed) c
  | .number reversed, c =>
    if continuesNumber reversed c then (.number (c :: reversed), [])
    else restart (numberToken reversed) c
  | .quoted quote reversed, c =>
    if c = quote then (.quoteSeen quote reversed, []) else (.quoted quote (c :: reversed), [])
  | .quoteSeen quote reversed, c =>
    if c = quote then (.quoted quote (c :: reversed), [])
    else restart (.quoted quote (textOf reversed)) c
  | .bracketed reversed, c =>
    if c = ']' then (.between, [.name '[' (textOf reversed)]) else (.bracketed (c :: reversed), [])
  | .sign first, c => stepSign first c
  | .lineComment, c => (if c = '\n' then .between else .lineComment, [])
  | .blockComment star, c =>
    (if star && c = '/' then .between else .blockComment (c == '*'), [])

/-- The token that ends with the text.  A quote that is never closed makes none. -/
def finish : Scan → List Token
  | .between => []
  | .word reversed => [wordToken reversed]
  | .number reversed => [numberToken reversed]
  | .quoted quote reversed => [.illegal (String.ofList (quote :: doubled quote reversed.reverse))]
  | .quoteSeen quote reversed => [.quoted quote (textOf reversed)]
  | .bracketed reversed => [.illegal (String.ofList ('[' :: reversed.reverse))]
  | .sign first => [charToken first]
  | .lineComment => []
  | .blockComment _ => []

/-- A step with the tokens that have ended before it, the last one first. -/
def advance (progress : Scan × List Token) (c : Char) : Scan × List Token :=
  let (state, ended) := step progress.1 c
  (state, ended.reverseAux progress.2)

end Scan

/-- The tokens of a statement. -/
def tokenize (statement : String) : List Token :=
  let (state, reversed) := statement.toList.foldl Scan.advance (.between, [])
  (state.finish.reverseAux reversed).reverse

end Sql
end TableQuery
