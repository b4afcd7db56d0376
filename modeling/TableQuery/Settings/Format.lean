import TableQuery.Text.Blank

/-!
# Settings files

A settings file is a sequence of bindings `name = value`, comments and blank lines.  A value may
stand in single or double quotes, in which it can span lines and hold escapes; without quotes it
ends with its line or before a comment.  A binding that cannot be read is skipped to the end of the
line on which reading stopped.
-/

namespace TableQuery
namespace Settings

/-- What a settings file holds at one point. -/
inductive Binding where
  /-- A name with its value, if it has one. -/
  | named (name : String) (value : Option String)
  /-- A comment or blank space at the end. -/
  | nothing
  /-- Something that cannot be read, in the part that begins on a line. -/
  | malformed (line : Nat)
deriving DecidableEq, Repr

/-- A step of reading: a result, or the characters at which reading stopped. -/
abbrev Reading := Except (List Char)

/-- Whether a character ends a line. -/
def endsLine (c : Char) : Bool :=
  c == '\n' || c == '\r'

/-- Whether a character is blank within a line. -/
def isLineBlank (c : Char) : Bool :=
  Text.isBlank c && !endsLine c

/-- Skips the word that may stand before a name, with the blanks after it. -/
def skipExport (chars : List Char) : List Char :=
  match chars with
  | 'e' :: 'x' :: 'p' :: 'o' :: 'r' :: 't' :: c :: rest =>
    if isLineBlank c then rest.dropWhile isLineBlank else chars
  | _ => chars

/-- Whether a character can belong to a name without quotes. -/
def isNameChar (c : Char) : Bool :=
  c != '=' && c != '#' && !Text.isBlank c

/-- Reads a name; a comment has none. -/
def readName (chars : List Char) : Reading (Option String × List Char) :=
  match chars with
  | '#' :: _ => .ok (none, chars)
  | '\'' :: rest =>
    let name := rest.takeWhile (· != '\'')
    match rest.dropWhile (· != '\'') with
    | [] => .error chars
    | _ :: after => if name.isEmpty then .error chars else .ok (some (String.ofList name), after)
  | _ =>
    let name := chars.takeWhile isNameChar
    if name.isEmpty then .error chars
    else .ok (some (String.ofList name), chars.dropWhile isNameChar)

/-- Reads up to a closing quote; a backslash takes the next character with it. -/
def quotedBody (quote : Char) : List Char → Option (List Char × List Char)
  | [] => none
  | '\\' :: c :: rest => (quotedBody quote rest).map fun (body, after) => ('\\' :: c :: body, after)
  | c :: rest =>
    if c = quote then some ([], rest)
    else (quotedBody quote rest).map fun (body, after) => (c :: body, after)

/-- The character that an escape in single quotes stands for. -/
def singleEscape? : Char → Option Char
  | '\\' => some '\\'
  | '\'' => some '\''
  | _ => none

/-- The character that an escape in double quotes stands for. -/
def doubleEscape? : Char → Option Char
  | '\\' => some '\\'
  | '\'' => some '\''
  | '"' => some '"'
  | 'a' => some '\x07'
  | 'b' => some '\x08'
  | 'f' => some '\x0c'
  | 'n' => some '\n'
  | 'r' => some '\r'
  | 't' => some '\t'
  | 'v' => some '\x0b'
  | _ => none

/-- Replaces the escapes of a quoted value; a backslash before any other character stays. -/
def decodeEscapes (escape? : Char → Option Char) : List Char → List Char
  | '\\' :: c :: rest =>
    match escape? c with
    | some meant => meant :: decodeEscapes escape? rest
    | none => '\\' :: decodeEscapes escape? (c :: rest)
  | c :: rest => c :: decodeEscapes escape? rest
  | [] => []

/-- Cuts a value at the first blank that a comment follows. -/
def cutComment : List Char → List Char
  | [] => []
  | c :: rest =>
    if Text.isBlank c && (rest.dropWhile Text.isBlank).head? == some '#' then []
    else c :: cutComment rest

/-- Reads a value in quotes. -/
def readQuoted (quote : Char) (escape? : Char → Option Char) (chars rest : List Char) :
    Reading (String × List Char) :=
  match quotedBody quote rest with
  | some (body, after) => .ok (String.ofList (decodeEscapes escape? body), after)
  | none => .error chars

/-- Reads a value; `spaced` says whether blanks stood before it, after which a comment may follow
at once. -/
def readValue (spaced : Bool) (chars : List Char) : Reading (String × List Char) :=
  match chars with
  | [] => .ok ("", [])
  | '\'' :: rest => readQuoted '\'' singleEscape? chars rest
  | '"' :: rest => readQuoted '"' doubleEscape? chars rest
  | c :: _ =>
    if endsLine c || (spaced && c == '#') then .ok ("", chars)
    else
      let line := chars.takeWhile (!endsLine ·)
      .ok (String.ofList (Text.stripRight Text.isBlank (cutComment line)),
        chars.dropWhile (!endsLine ·))

/-- Reads the sign between a name and its value, and the value; without the sign there is none. -/
def readAssigned (chars : List Char) : Reading (Option String × List Char) :=
  match chars with
  | '=' :: rest => do
    let spaced := (rest.head?.map isLineBlank).getD false
    let (value, after) ← readValue spaced (rest.dropWhile isLineBlank)
    return (some value, after)
  | _ => .ok (none, chars)

/-- The characters after the end of the line, before which only a comment and blanks may stand. -/
def readLineEnd (chars : List Char) : Reading (List Char) :=
  let unspaced := chars.dropWhile isLineBlank
  let after := match unspaced with
    | '#' :: rest => rest.dropWhile (!endsLine ·)
    | _ => unspaced
  match after with
  | [] => .ok []
  | '\r' :: '\n' :: rest => .ok rest
  | c :: rest => if endsLine c then .ok rest else .error after

/-- Reads one binding that does not begin with blanks. -/
def readBinding (chars : List Char) : Reading (Binding × List Char) := do
  let (name, afterName) ← readName (skipExport chars)
  let (value, afterValue) ← readAssigned (afterName.dropWhile isLineBlank)
  let rest ← readLineEnd afterValue
  match name with
  | some name => return (.named name value, rest)
  | none => return (.nothing, rest)

/-- Skips the rest of a line. -/
def skipLine (chars : List Char) : List Char :=
  (chars.dropWhile (!endsLine ·)).drop 1

/-- The bindings of the rest of a file that has a count of line ends in all; a further argument
bounds the count of the bindings. -/
def bindingsFrom (lineEnds : Nat) : Nat → List Char → List Binding
  | 0, _ => []
  | bound + 1, chars =>
    let start := chars.dropWhile Text.isBlank
    if start.isEmpty then []
    else
      let (binding, rest) := match readBinding start with
        | .ok (binding, rest) => (binding, rest)
        | .error rest => (.malformed (lineEnds - chars.count '\n' + 1), skipLine rest)
      binding :: bindingsFrom lineEnds bound rest

/-- Turns the ends of lines of all systems into one. -/
def universalLines : List Char → List Char
  | [] => []
  | '\r' :: '\n' :: rest => '\n' :: universalLines rest
  | '\r' :: rest => '\n' :: universalLines rest
  | c :: rest => c :: universalLines rest

/-- The bindings of the text of a settings file; a byte order mark in front does not count. -/
def bindings (content : String) : List Binding :=
  let chars := match content.toList with
    | '\ufeff' :: rest => rest
    | chars => chars
  let lines := universalLines chars
  bindingsFrom (lines.count '\n') (lines.length + 1) lines

end Settings
end TableQuery
