import TableQuery.Text.Printable

/-!
# Quoted texts

A text is shown between quotes that it does not contain where that is possible.  The quote, the
backslash and the characters that are not printable are written as escapes, so a quoted text is
unambiguous.  Byte strings follow the same rules with every byte outside ASCII escaped.
-/

namespace TableQuery
namespace Text

/-- The quote around a text: a double one exactly if the text has single ones and no double one. -/
def quoteFor (chars : List Char) : Char :=
  if chars.contains '\'' && !chars.contains '"' then '"' else '\''

/-- The lower-case hexadecimal digits of a number, at least `width` of them. -/
def hexDigits (width number : Nat) : List Char :=
  let digits := Nat.toDigits 16 number
  List.replicate (width - digits.length) '0' ++ digits

/-- The escape of a character by its code point, of two, four or eight digits. -/
def codeEscape (code : Nat) : List Char :=
  if code < 0x100 then '\\' :: 'x' :: hexDigits 2 code
  else if code < 0x10000 then '\\' :: 'u' :: hexDigits 4 code
  else '\\' :: 'U' :: hexDigits 8 code

/-- A character between quotes. -/
def quotedChar (printable : Char → Bool) (quote c : Char) : List Char :=
  if c = quote || c = '\\' then ['\\', c]
  else if c = '\n' then ['\\', 'n']
  else if c = '\r' then ['\\', 'r']
  else if c = '\t' then ['\\', 't']
  else if printable c then [c]
  else codeEscape c.toNat

/-- A list of characters between quotes. -/
def quotedChars (printable : Char → Bool) (chars : List Char) : List Char :=
  let quote := quoteFor chars
  quote :: (chars.flatMap (quotedChar printable quote) ++ [quote])

/-- A text between quotes. -/
def quoted (text : String) : String :=
  String.ofList (quotedChars isPrintable text.toList)

/-- A byte string between quotes, marked by a letter in front. -/
def quotedBytes (bytes : List UInt8) : String :=
  String.ofList ('b' :: quotedChars (fun c => 32 ≤ c.toNat && c.toNat < 127)
    (bytes.map fun byte => Char.ofNat byte.toNat))

end Text
end TableQuery
