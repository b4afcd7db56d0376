import TableQuery.Text.Blank
import TableQuery.Text.CaseTable

/-!
# Letter case

Lower and upper case of whole texts.  A letter can have several characters in the other case, and
the Greek letter sigma has a lower case of its own at the end of a word.
-/

namespace TableQuery
namespace Text

/-- Whether a case rule moves a code point. -/
def CaseTable.covers (rule : Nat × Nat × Nat × Int) (code : Nat) : Bool :=
  rule.1 ≤ code && code ≤ rule.2.1 && (code - rule.1) % rule.2.2.1 == 0

/-- The image of a character under exceptions and rules. -/
def mapCase (exceptions : List (Nat × List Nat)) (rules : List (Nat × Nat × Nat × Int))
    (c : Char) : List Char :=
  match exceptions.lookup c.toNat with
  | some codes => codes.map Char.ofNat
  | none =>
    match rules.find? (CaseTable.covers · c.toNat) with
    | some rule => [Char.ofNat (c.toNat + rule.2.2.2).toNat]
    | none => [c]

/-- The lower case of an ASCII letter; other characters stay. -/
def lowerAscii (c : Char) : Char :=
  if 65 ≤ c.toNat ∧ c.toNat ≤ 90 then Char.ofNat (c.toNat + 32) else c

/-- The upper case of an ASCII letter; other characters stay. -/
def upperAscii (c : Char) : Char :=
  if 97 ≤ c.toNat ∧ c.toNat ≤ 122 then Char.ofNat (c.toNat - 32) else c

/-- The lower case of a character by itself. -/
def lowerChar (c : Char) : List Char :=
  if c.toNat < 128 then [lowerAscii c]
  else mapCase CaseTable.lowerExceptions CaseTable.lowerRules c

/-- The upper case of a character. -/
def upperChar (c : Char) : List Char :=
  if c.toNat < 128 then [upperAscii c]
  else mapCase CaseTable.upperExceptions CaseTable.upperRules c

/-- Whether the first character that is not passed over has a case. -/
def startsCased (chars : List Char) : Bool :=
  match chars.dropWhile fun c => inRanges CaseTable.ignorableRanges c.toNat with
  | [] => false
  | c :: _ => inRanges CaseTable.casedRanges c.toNat

/-- Lower case of a list of characters, given the characters before it, the nearest first.  A
sigma that follows a letter and precedes none takes its final form. -/
def lowerFrom : List Char → List Char → List Char
  | _, [] => []
  | before, c :: rest =>
    let image := if c = 'Σ' then [if startsCased before && !startsCased rest then 'ς' else 'σ']
      else lowerChar c
    image ++ lowerFrom (c :: before) rest

/-- A text in lower case. -/
def lower (text : String) : String :=
  String.ofList (lowerFrom [] text.toList)

/-- A text in upper case. -/
def upper (text : String) : String :=
  String.ofList (text.toList.flatMap upperChar)

end Text
end TableQuery
