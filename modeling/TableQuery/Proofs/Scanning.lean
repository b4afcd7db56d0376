import TableQuery.Sql.Token

/-!
# Scanning a text in pieces

A text that is put together from pieces has the tokens of the pieces, provided that no piece runs
into the next one.  A piece that closes its last token may be followed by anything; any other piece
has to be followed by a delimiter, which no token but a quoted one takes in.
-/

namespace TableQuery
namespace Sql
namespace Scan

/-- The state after some characters, and the tokens that have ended within them. -/
def scan : Scan → List Char → Scan × List Token
  | state, [] => (state, [])
  | state, c :: rest =>
    let next := step state c
    let last := scan next.1 rest
    (last.1, next.2 ++ last.2)

/-- The tokens of characters that are read from a state to the end of the text. -/
def tokensFrom (state : Scan) (chars : List Char) : List Token :=
  (scan state chars).2 ++ (scan state chars).1.finish

@[simp] theorem scan_nil (state : Scan) : scan state [] = (state, []) := rfl

@[simp] theorem scan_cons
    (state : Scan)
    (c : Char)
    (rest : List Char) :
    scan state (c :: rest) =
      ((scan (step state c).1 rest).1, (step state c).2 ++ (scan (step state c).1 rest).2) := rfl

@[simp] theorem step_between (c : Char) : step .between c = start c := rfl

@[simp] theorem step_quoted_quote
    (quote : Char)
    (reversed : List Char) :
    step (.quoted quote reversed) quote = (.quoteSeen quote reversed, []) := by
  simp [step]

@[simp] theorem step_quoteSeen_quote
    (quote : Char)
    (reversed : List Char) :
    step (.quoteSeen quote reversed) quote = (.quoted quote (quote :: reversed), []) := by
  simp [step]

/-- Reading one list after another goes on from the state after the first one. -/
theorem scan_append
    (state : Scan)
    (left right : List Char) :
    scan state (left ++ right) =
      ((scan (scan state left).1 right).1,
        (scan state left).2 ++ (scan (scan state left).1 right).2) := by
  induction left generalizing state with
  | nil => simp
  | cons c rest inductionHypothesis =>
      simp [inductionHypothesis]

theorem tokensFrom_append
    (state : Scan)
    (left right : List Char) :
    tokensFrom state (left ++ right) =
      (scan state left).2 ++ tokensFrom (scan state left).1 right := by
  simp [tokensFrom, scan_append]

/-- The fold over a statement keeps the tokens of `scan` in reverse order. -/
theorem foldl_advance
    (state : Scan)
    (reversed : List Token)
    (chars : List Char) :
    chars.foldl advance (state, reversed) =
      ((scan state chars).1, (scan state chars).2.reverse ++ reversed) := by
  induction chars generalizing state reversed with
  | nil => simp
  | cons c rest inductionHypothesis =>
      rw [List.foldl_cons]
      have advanced : advance (state, reversed) c =
          ((step state c).1, (step state c).2.reverse ++ reversed) := by
        simp [advance, List.reverseAux_eq]
      rw [advanced, inductionHypothesis]
      simp

/-! ## Delimiters -/

/-- Whether a character ends every token that is not quoted. -/
def isDelimiter (c : Char) : Bool :=
  [' ', '(', ')', ','].contains c

/-- Whether the token that has begun ends before a delimiter. -/
def isSettled : Scan → Bool
  | .between | .word _ | .number _ | .sign _ => true
  | .quoteSeen quote _ => !isDelimiter quote
  | _ => false

theorem eq_of_isDelimiter
    {c : Char}
    (delimiter : isDelimiter c) :
    c = ' ' ∨ c = '(' ∨ c = ')' ∨ c = ',' := by
  simpa [isDelimiter] using delimiter

/-- A delimiter is no second character of a sign. -/
theorem stepSign_delimiter
    (first : Char)
    {c : Char}
    (delimiter : isDelimiter c) :
    stepSign first c = restart (charToken first) c := by
  have alone : Symbol.ofPair? first c = none := by
    rcases eq_of_isDelimiter delimiter with rfl | rfl | rfl | rfl <;>
      unfold Symbol.ofPair? <;> split <;> simp_all
  rcases eq_of_isDelimiter delimiter with rfl | rfl | rfl | rfl <;>
    simp [stepSign, alone, Text.asciiDigit?]

/-- A delimiter continues no number. -/
theorem continuesNumber_delimiter
    (reversed : List Char)
    {c : Char}
    (delimiter : isDelimiter c) :
    continuesNumber reversed c = false := by
  rcases eq_of_isDelimiter delimiter with rfl | rfl | rfl | rfl <;>
    simp [continuesNumber, continuesWord, beginsWord, Text.asciiDigit?]

/-- A delimiter continues no word. -/
theorem continuesWord_delimiter
    {c : Char}
    (delimiter : isDelimiter c) :
    continuesWord c = false := by
  rcases eq_of_isDelimiter delimiter with rfl | rfl | rfl | rfl <;> decide

/-- A delimiter ends the token that has begun and is read as if nothing had come before it. -/
theorem step_delimiter
    {state : Scan}
    {c : Char}
    (settled : state.isSettled)
    (delimiter : isDelimiter c) :
    step state c = ((start c).1, state.finish ++ (start c).2) := by
  cases state with
  | between => rfl
  | word reversed => simp [step, continuesWord_delimiter delimiter, restart, finish]
  | number reversed => simp [step, continuesNumber_delimiter reversed delimiter, restart, finish]
  | quoteSeen quote reversed =>
      have different : c ≠ quote := by
        rintro rfl
        simp [isSettled, delimiter] at settled
      simp [step, different, restart, finish]
  | sign first => simp [step, stepSign_delimiter first delimiter, restart, finish]
  | quoted quote reversed => simp [isSettled] at settled
  | bracketed reversed => simp [isSettled] at settled
  | lineComment => simp [isSettled] at settled
  | blockComment star => simp [isSettled] at settled

/-- A text that is empty or begins with a delimiter. -/
def Delimited (chars : List Char) : Prop :=
  ∀ c ∈ chars.head?, isDelimiter c

theorem delimited_nil : Delimited [] := by
  simp [Delimited]

theorem delimited_cons
    {c : Char}
    (delimiter : isDelimiter c)
    (rest : List Char) :
    Delimited (c :: rest) := by
  simpa [Delimited] using delimiter

theorem Delimited.append
    {left right : List Char}
    (delimitedLeft : Delimited left)
    (delimitedRight : Delimited right) :
    Delimited (left ++ right) := by
  cases left with
  | nil => simpa using delimitedRight
  | cons c rest => simpa [Delimited] using delimitedLeft

/-- Before a delimiter the open token of a settled state ends. -/
theorem tokensFrom_settled
    {state : Scan}
    {rest : List Char}
    (settled : state.isSettled)
    (delimited : Delimited rest) :
    tokensFrom state rest = state.finish ++ tokensFrom .between rest := by
  cases rest with
  | nil => simp [tokensFrom, finish]
  | cons c rest =>
      have delimiter : isDelimiter c := by simpa [Delimited] using delimited
      simp [tokensFrom, step_delimiter settled delimiter]

/-! ## Pieces -/

/-- A piece has some tokens whatever follows it. -/
def Closes (piece : List Char) (tokens : List Token) : Prop :=
  ∀ rest, tokensFrom .between (piece ++ rest) = tokens ++ tokensFrom .between rest

/-- A piece has some tokens if a delimiter or the end of the text follows it. -/
def Spells (piece : List Char) (tokens : List Token) : Prop :=
  ∀ rest, Delimited rest → tokensFrom .between (piece ++ rest) = tokens ++ tokensFrom .between rest

/-- A piece after which no token is open closes its tokens. -/
theorem closes_of_scan
    {piece : List Char}
    {tokens : List Token}
    (scanned : scan .between piece = (.between, tokens)) :
    Closes piece tokens := by
  intro rest
  simp [tokensFrom_append, scanned]

/-- A piece that ends in a settled state spells its tokens and the open one. -/
theorem spells_of_scan
    {piece : List Char}
    (state : Scan)
    (tokens : List Token)
    (scanned : scan .between piece = (state, tokens))
    (settled : state.isSettled) :
    Spells piece (tokens ++ state.finish) := by
  intro rest delimited
  rw [tokensFrom_append, scanned, tokensFrom_settled settled delimited, List.append_assoc]

theorem closes_nil : Closes [] [] :=
  fun _ => rfl

theorem Closes.spells
    {piece : List Char}
    {tokens : List Token}
    (closes : Closes piece tokens) :
    Spells piece tokens :=
  fun rest _ => closes rest

theorem Closes.append
    {left right : List Char}
    {first second : List Token}
    (closesLeft : Closes left first)
    (closesRight : Closes right second) :
    Closes (left ++ right) (first ++ second) := by
  intro rest
  rw [List.append_assoc, closesLeft, closesRight, List.append_assoc]

theorem Closes.append_spells
    {left right : List Char}
    {first second : List Token}
    (closesLeft : Closes left first)
    (spellsRight : Spells right second) :
    Spells (left ++ right) (first ++ second) := by
  intro rest delimited
  rw [List.append_assoc, closesLeft, spellsRight rest delimited, List.append_assoc]

theorem Spells.append_closes
    {left right : List Char}
    {first second : List Token}
    (spellsLeft : Spells left first)
    (closesRight : Closes right second)
    (delimited : Delimited right)
    (nonempty : right ≠ []) :
    Closes (left ++ right) (first ++ second) := by
  intro rest
  have following : Delimited (right ++ rest) := by
    cases right with
    | nil => exact absurd rfl nonempty
    | cons c tail => simpa [Delimited] using delimited
  rw [List.append_assoc, spellsLeft _ following, closesRight, List.append_assoc]

theorem Spells.append
    {left right : List Char}
    {first second : List Token}
    (spellsLeft : Spells left first)
    (spellsRight : Spells right second)
    (delimited : Delimited right) :
    Spells (left ++ right) (first ++ second) := by
  intro rest following
  rw [List.append_assoc, spellsLeft _ (delimited.append following), spellsRight rest following,
    List.append_assoc]

/-- Pieces that each spell their tokens, with a separator between any two of them. -/
theorem spells_intercalate
    {separator : List Char}
    {between : List Token}
    (closesSeparator : Closes separator between)
    (delimited : Delimited separator)
    (nonempty : separator ≠ [])
    (piece : α → List Char)
    (tokens : α → List Token)
    {items : List α}
    (spells : ∀ item ∈ items, Spells (piece item) (tokens item)) :
    Spells (separator.intercalate (items.map piece)) (between.intercalate (items.map tokens)) := by
  induction items with
  | nil =>
      intro rest _
      simp
  | cons item others inductionHypothesis =>
      have spellsItem : Spells (piece item) (tokens item) := spells item (by simp)
      have spellsOthers := inductionHypothesis fun other member =>
        spells other (List.mem_cons_of_mem item member)
      cases others with
      | nil => simpa using spellsItem
      | cons next rest =>
          simp only [List.map_cons, List.intercalate_cons_cons] at spellsOthers ⊢
          exact (spellsItem.append_closes closesSeparator delimited nonempty).append_spells
            spellsOthers

/-! ## Quoted texts -/

/-- Between quotes a doubled quote is read as one quote and ends nothing. -/
theorem scan_doubled
    (quote : Char)
    (reversed chars : List Char) :
    scan (.quoted quote reversed) (doubled quote chars) =
      (.quoted quote (chars.reverse ++ reversed), []) := by
  induction chars generalizing reversed with
  | nil => simp [doubled]
  | cons c rest inductionHypothesis =>
      have split : doubled quote (c :: rest) =
          (if c = quote then [c, c] else [c]) ++ doubled quote rest := by
        simp [doubled]
      by_cases same : c = quote
      · subst same
        simp [split, inductionHypothesis]
      · simp [split, same, step, inductionHypothesis]

/-- A text without a quote among its characters has none to double. -/
theorem doubled_of_notMem
    {quote : Char}
    {chars : List Char}
    (absent : quote ∉ chars) :
    doubled quote chars = chars := by
  induction chars with
  | nil => rfl
  | cons c rest inductionHypothesis =>
      simp only [List.mem_cons, not_or] at absent
      have tail := inductionHypothesis absent.2
      simp only [doubled, List.flatMap_cons] at tail ⊢
      rw [if_neg (Ne.symm absent.1), tail, List.singleton_append]

/-- A text between quotes is one token, whatever characters it has. -/
theorem spells_quoted
    (quote : Char)
    (opens : start quote = (.quoted quote [], []))
    (distinct : isDelimiter quote = false)
    (chars : List Char) :
    Spells (quote :: (doubled quote chars ++ [quote])) [.quoted quote (String.ofList chars)] := by
  have scanned : scan .between (quote :: (doubled quote chars ++ [quote])) =
      (.quoteSeen quote chars.reverse, []) := by
    simp [opens, scan_append, scan_doubled]
  have spelled := spells_of_scan _ _ scanned (by simp [isSettled, distinct])
  simpa [finish, textOf] using spelled

/-- A text between single quotes with every quote in it doubled is one literal. -/
theorem spells_literal (chars : List Char) :
    Spells ('\'' :: (doubled '\'' chars ++ ['\''])) [.literal (String.ofList chars)] :=
  spells_quoted '\'' (by decide) (by decide) chars

/-- A text without a backtick between backticks is one name. -/
theorem spells_name
    {chars : List Char}
    (plain : '`' ∉ chars) :
    Spells ('`' :: (chars ++ ['`'])) [.name '`' (String.ofList chars)] := by
  have spelled := spells_quoted '`' (by decide) (by decide) chars
  rwa [doubled_of_notMem plain] at spelled

/-! ## Numbers -/

theorem scan_digits
    (reversed chars : List Char)
    (digits : ∀ c ∈ chars, (Text.asciiDigit? c).isSome) :
    scan (.number reversed) chars = (.number (chars.reverse ++ reversed), []) := by
  induction chars generalizing reversed with
  | nil => simp
  | cons c rest inductionHypothesis =>
      have digit : (Text.asciiDigit? c).isSome := digits c (by simp)
      have continues : continuesNumber reversed c = true := by
        simp [continuesNumber, continuesWord, digit]
      have others := inductionHypothesis (c :: reversed) fun other member =>
        digits other (List.mem_cons_of_mem c member)
      simp [step, continues, others]

end Scan

/-- The tokens of a text that spells them. -/
theorem tokenize_of_spells
    {statement : String}
    {tokens : List Token}
    (spells : Scan.Spells statement.toList tokens) :
    tokenize statement = tokens := by
  have whole := spells [] Scan.delimited_nil
  have tokenized : tokenize statement = Scan.tokensFrom .between statement.toList := by
    simp [tokenize, Scan.foldl_advance, Scan.tokensFrom, List.reverseAux_eq]
  rw [tokenized, ← List.append_nil statement.toList, whole]
  simp [Scan.tokensFrom, Scan.finish]

end Sql
end TableQuery
