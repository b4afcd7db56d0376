import TableQuery.Proofs.Escaping

/-!
# Literals in front of a text

A literal ends at the first quote that is not doubled.  What is read of the literal of a value is the
text of the value without NUL characters, whatever follows, unless another quote does.  So two values
have one literal if and only if these texts are equal.
-/

namespace TableQuery
namespace Sql

open Scan Fragment

/-! ## A reader of literals -/

/-- Reads a text up to the quote that closes it, and gives what is behind that: two quotes stand for
one in the text, and a lone quote closes it. -/
def quotedPrefix? : List Char → Option (List Char × List Char)
  | '\'' :: '\'' :: rest => (quotedPrefix? rest).map fun read => ('\'' :: read.1, read.2)
  | '\'' :: rest => some ([], rest)
  | c :: rest => (quotedPrefix? rest).map fun read => (c :: read.1, read.2)
  | [] => none

/-- Reads a literal from the front of a text, and gives its text and what is behind it. -/
def literalPrefix? : List Char → Option (String × List Char)
  | '\'' :: rest => (quotedPrefix? rest).map fun read => (String.ofList read.1, read.2)
  | _ => none

theorem doubled_cons
    (quote c : Char)
    (chars : List Char) :
    doubled quote (c :: chars) = (if c = quote then [c, c] else [c]) ++ doubled quote chars := rfl

/-- A lone quote closes a text. -/
theorem quotedPrefix?_quote
    {rest : List Char}
    (lone : rest.head? ≠ some '\'') :
    quotedPrefix? ('\'' :: rest) = some ([], rest) := by
  cases rest with
  | nil => rfl
  | cons c others =>
      have other : c ≠ '\'' := by simpa using lone
      simp [quotedPrefix?, other]

/-- Every other character than a quote belongs to the text. -/
theorem quotedPrefix?_of_ne
    {c : Char}
    (other : c ≠ '\'')
    (rest : List Char) :
    quotedPrefix? (c :: rest) = (quotedPrefix? rest).map fun read => (c :: read.1, read.2) := by
  simp [quotedPrefix?, other]

/-- What is read are the characters whose doubled form stands before a lone quote. -/
theorem quotedPrefix?_eq_some_iff
    {chars text rest : List Char} :
    quotedPrefix? chars = some (text, rest) ↔
      chars = doubled '\'' text ++ '\'' :: rest ∧ rest.head? ≠ some '\'' := by
  constructor
  · intro read
    fun_induction quotedPrefix? chars generalizing text with
    | case1 others inductionHypothesis =>
        obtain ⟨⟨body, after⟩, found, same⟩ := Option.map_eq_some_iff.mp read
        obtain ⟨rfl, rfl⟩ := Prod.mk.inj same
        obtain ⟨split, lone⟩ := inductionHypothesis found
        exact ⟨by rw [split]; rfl, lone⟩
    | case2 others notDoubled =>
        obtain ⟨rfl, rfl⟩ := Prod.mk.inj (Option.some.inj read)
        refine ⟨rfl, fun first => ?_⟩
        obtain ⟨tail, rfl⟩ := List.head?_eq_some_iff.mp first
        exact notDoubled tail rfl
    | case3 c others _ notQuote inductionHypothesis =>
        obtain ⟨⟨body, after⟩, found, same⟩ := Option.map_eq_some_iff.mp read
        obtain ⟨rfl, rfl⟩ := Prod.mk.inj same
        obtain ⟨split, lone⟩ := inductionHypothesis found
        exact ⟨by rw [doubled_cons, if_neg notQuote, split]; rfl, lone⟩
    | case4 => cases read
  · rintro ⟨rfl, lone⟩
    induction text with
    | nil => exact quotedPrefix?_quote lone
    | cons c others inductionHypothesis =>
        by_cases quote : c = '\''
        · subst quote
          simp [doubled_cons, quotedPrefix?, inductionHypothesis]
        · simp [doubled_cons, quote, quotedPrefix?_of_ne, inductionHypothesis]

/-- The token of a closed text ends before anything but another quote. -/
theorem tokensFrom_quoteSeen
    {quote : Char}
    {rest : List Char}
    (lone : rest.head? ≠ some quote)
    (reversed : List Char) :
    tokensFrom (.quoteSeen quote reversed) rest =
      .quoted quote (textOf reversed) :: tokensFrom .between rest := by
  cases rest with
  | nil => rfl
  | cons c others =>
      have other : c ≠ quote := by simpa using lone
      simp [tokensFrom, step, other, restart]

/-- The literal in front of a text is the first token that the scanner finds there. -/
theorem tokensFrom_of_literalPrefix?
    {chars rest : List Char}
    {text : String}
    (read : literalPrefix? chars = some (text, rest)) :
    tokensFrom .between chars = .literal text :: tokensFrom .between rest := by
  unfold literalPrefix? at read
  split at read
  next quoted =>
    obtain ⟨⟨body, after⟩, found, same⟩ := Option.map_eq_some_iff.mp read
    obtain ⟨rfl, rfl⟩ := Prod.mk.inj same
    obtain ⟨rfl, lone⟩ := quotedPrefix?_eq_some_iff.mp found
    have closed : scan .between ('\'' :: (doubled '\'' body ++ ['\''])) =
        (.quoteSeen '\'' body.reverse, []) := by
      have opens : start '\'' = (.quoted '\'' [], []) := by decide
      simp [opens, scan_append, scan_doubled]
    have split : '\'' :: (doubled '\'' body ++ '\'' :: after) =
        ('\'' :: (doubled '\'' body ++ ['\''])) ++ after := by simp
    rw [split, tokensFrom_append, closed, tokensFrom_quoteSeen lone, textOf, List.reverse_reverse]
    rfl
  next => cases read

/-! ## Literals of values -/

theorem chars_literal (value : Value) :
    chars (literal value) = '\'' :: (doubled '\'' value.sqlText.toList ++ ['\'']) := by
  simp [literal, Piece.render, toList_doubleQuotes, Value.sqlText]

/-- The literal of a value is read to its end and no further, unless a quote follows. -/
theorem literalPrefix?_chars_literal_iff
    (value : Value)
    {rest : List Char} :
    literalPrefix? (chars (literal value) ++ rest) = some (value.sqlText, rest) ↔
      rest.head? ≠ some '\'' := by
  have whole : chars (literal value) ++ rest =
      '\'' :: (doubled '\'' value.sqlText.toList ++ '\'' :: rest) := by
    simp [chars_literal]
  rw [whole, literalPrefix?]
  constructor
  · intro read
    obtain ⟨⟨body, after⟩, found, same⟩ := Option.map_eq_some_iff.mp read
    obtain ⟨_, rfl⟩ := Prod.mk.inj same
    exact (quotedPrefix?_eq_some_iff.mp found).2
  · intro lone
    rw [quotedPrefix?_eq_some_iff.mpr ⟨rfl, lone⟩]
    simp

/-- The literal of a value is one token with the text of the value without NUL characters, whatever
follows it but a quote.  It has no NUL character itself, and it is the literal of all values with
this text and of no others. -/
theorem literalPrefix?_literal
    (value : Value)
    {rest : List Char}
    (lone : rest.head? ≠ some '\'') :
    literalPrefix? (chars (literal value) ++ rest) = some (value.sqlText, rest) ∧
      tokensFrom .between (chars (literal value) ++ rest) =
        .literal value.sqlText :: tokensFrom .between rest ∧
      '\x00' ∉ chars (literal value) ∧
      ∀ other : Value, chars (literal value) = chars (literal other) ↔
        value.sqlText = other.sqlText := by
  have read := (literalPrefix?_chars_literal_iff value).mpr lone
  refine ⟨read, tokensFrom_of_literalPrefix? read, nul_notMem_literal value, fun other => ?_⟩
  constructor
  · intro same
    have readOther := (literalPrefix?_chars_literal_iff other).mpr lone
    rw [← same, read] at readOther
    exact (Prod.mk.inj (Option.some.inj readOther)).1
  · intro same
    rw [chars_literal, chars_literal, same]

/-- Quotes at the beginning of a value, with a NUL character between them, do not close its literal,
and what follows is not read. -/
theorem literalPrefix?_literal_quotes :
    literalPrefix? (chars (literal (.text "'\x00'a")) ++ ", 'b')".toList) =
        some ("''a", ", 'b')".toList) ∧
      chars (literal (.text "'\x00'a")) = "'''''a'".toList ∧
      chars (literal (.text "'\x00'a")) = chars (literal (.text "''a")) := by
  obtain ⟨read, _, _, same⟩ := literalPrefix?_literal (.text "'\x00'a")
    (by decide : ", 'b')".toList.head? ≠ some '\'')
  have text : Value.sqlText (.text "'\x00'a") = "''a" := by decide
  rw [text] at read
  exact ⟨read, by decide, (same (.text "''a")).mpr (by decide)⟩

end Sql
end TableQuery
