/-!
# Fragments of statements

A fragment is a text with gaps for escaped values.  It is fixed before the escape is known: the
escape fills the gaps and touches nothing else.
-/

namespace TableQuery
namespace Sql

/-- A function that makes a text safe between the quotes of a literal. -/
abbrev Escape := String → String

/-- The escape of the engine: a NUL character is dropped, a quote is doubled. -/
def doubleQuotes : Escape := fun raw =>
  String.ofList ((raw.toList.filter (· != '\x00')).flatMap fun c =>
    if c = '\'' then ['\'', '\''] else [c])

/-- A piece of a statement. -/
inductive Piece where
  /-- A text that is written as it is. -/
  | fixed (text : String)
  /-- A gap for the escape of a text. -/
  | escaped (raw : String)
  /-- The escape of a text is computed for gaps that follow, and nothing is written. -/
  | prepared (raw : String)
  /-- A gap for an escape that an earlier piece has prepared. -/
  | repeated (raw : String)
deriving DecidableEq, Repr

/-- The text of a piece under an escape. -/
def Piece.render (escape : Escape) : Piece → String
  | .fixed text => text
  | .escaped raw => escape raw
  | .prepared _ => ""
  | .repeated raw => escape raw

/-- The text that a piece passes to the escape. -/
def Piece.escaped? : Piece → Option String
  | .escaped raw => some raw
  | .prepared raw => some raw
  | _ => none

/-- A text with gaps. -/
abbrev Fragment := List Piece

namespace Fragment

/-- The text of a fragment under an escape. -/
def render (escape : Escape) (fragment : Fragment) : String :=
  String.join (fragment.map (Piece.render escape))

/-- The texts that a fragment passes to the escape, in order. -/
def escapedTexts (fragment : Fragment) : List String :=
  fragment.filterMap Piece.escaped?

/-- Joins fragments with a text between any two of them. -/
def join (separator : String) : List Fragment → Fragment
  | [] => []
  | [fragment] => fragment
  | fragment :: rest => fragment ++ .fixed separator :: join separator rest

end Fragment

end Sql
end TableQuery
