/-!
# Blanks

The characters that count as white space, and the removal of blanks at both ends of a text.
-/

namespace TableQuery
namespace Text

/-- Whether a code point lies in one of the ranges. -/
def inRanges (ranges : List (Nat × Nat)) (code : Nat) : Bool :=
  ranges.any fun range => range.1 ≤ code && code ≤ range.2

/-- The ranges of white space: the separators, and the control characters that separate lines,
pages, files, groups, records and units. -/
def blankRanges : List (Nat × Nat) :=
  [(9, 13), (28, 32), (133, 133), (160, 160), (5760, 5760), (8192, 8202), (8232, 8233),
   (8239, 8239), (8287, 8287), (12288, 12288)]

/-- Whether a character is white space. -/
def isBlank (c : Char) : Bool :=
  inRanges blankRanges c.toNat

/-- The blanks of plain ASCII text: a space, a tabulator, and the ends of lines and pages. -/
def isAsciiBlank (c : Char) : Bool :=
  c == ' ' || (9 ≤ c.toNat && c.toNat ≤ 13)

/-- The blanks around a number: those of plain ASCII text, and white space outside ASCII. -/
def isNumberBlank (c : Char) : Bool :=
  isAsciiBlank c || (128 ≤ c.toNat && isBlank c)

/-- Removes the characters of a class from the end of a list. -/
def stripRight (blank : Char → Bool) (chars : List Char) : List Char :=
  (chars.reverse.dropWhile blank).reverse

/-- Removes the characters of a class from both ends of a list. -/
def stripWith (blank : Char → Bool) (chars : List Char) : List Char :=
  stripRight blank (chars.dropWhile blank)

/-- Removes white space from both ends of a text. -/
def strip (text : String) : String :=
  String.ofList (stripWith isBlank text.toList)

end Text
end TableQuery
