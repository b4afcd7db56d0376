import TableQuery.Proofs.Patterns
import TableQuery.Proofs.Replacements

/-!
# Searches

A search finds the rows of which some field contains its term, ASCII letters counted without their
case and every other character taken for itself.  The engine has one character for U+FFFD, U+FFFE and
U+FFFF, so a term with one of these also finds the others.
-/

namespace TableQuery

open Database

/-! ## Terms in cells -/

namespace Database

namespace Cell

/-- Nothing, or a text without NUL characters. -/
def IsProse : Cell → Prop
  | .null => True
  | .text content => '\x00' ∉ content.toList
  | _ => False

instance : (cell : Cell) → Decidable cell.IsProse
  | .null => inferInstanceAs (Decidable True)
  | .text content => inferInstanceAs (Decidable ('\x00' ∉ content.toList))
  | .integer _ | .real _ | .blob _ => inferInstanceAs (Decidable False)

/-- Whether a cell is a text in which a term stands. -/
def contains (view : Char → Char) (term : String) : Cell → Bool
  | .text content => ContainsUpTo view content term
  | _ => false

/-- A cell is like a term between percent signs if it contains the term.  A missing cell is neither
like it nor unlike it. -/
theorem likes?_between
    {cell : Cell}
    (prose : cell.IsProse)
    {term : String}
    (literal : IsLiteral term.toList) :
    (cell.likes? ("%" ++ term ++ "%") == some true) = cell.contains comparedChar term := by
  cases cell with
  | null => rfl
  | integer number => exact absurd prose id
  | real number => exact absurd prose id
  | blob content => exact absurd prose id
  | text content =>
      have whole : content.toList.takeWhile (· != '\x00') = content.toList := takeWhile_ne_nul prose
      have matched : (Cell.text content).likes? ("%" ++ term ++ "%") =
          some (matchesPattern ("%" ++ term ++ "%").toList content.toList) := by
        simp only [likes?, toText?, Option.getD_some, whole]
      rw [matched, Bool.eq_iff_iff, beq_iff_eq, Option.some_inj, matchesPattern_between literal]
      exact decide_eq_true_iff.symm

end Cell

/-- Characters none of which the engine takes for another one. -/
def IsOrdinary (term : List Char) : Prop :=
  '\ufffd' ∉ term ∧ '\ufffe' ∉ term ∧ '\uffff' ∉ term

instance (term : List Char) : Decidable (IsOrdinary term) :=
  inferInstanceAs (Decidable (_ ∧ _ ∧ _))

theorem isOrdinary_cons_iff
    {c : Char}
    {rest : List Char} :
    IsOrdinary (c :: rest) ↔ IsOrdinary [c] ∧ IsOrdinary rest := by
  simp only [IsOrdinary, List.mem_cons, List.not_mem_nil, or_false, not_or]
  tauto

/-- Only a character itself has a lower case that is not an ASCII character. -/
theorem eq_of_lowerAscii
    {c other : Char}
    (high : 128 ≤ other.toNat)
    (same : Text.lowerAscii c = other) :
    c = other := by
  unfold Text.lowerAscii at same
  split at same
  · rename_i letter
    have code : (Char.ofNat (c.toNat + 32)).toNat = c.toNat + 32 := by
      have valid : (c.toNat + 32).isValidChar := Or.inl (by omega)
      rw [Char.ofNat, dif_pos valid]
      rfl
    rw [same] at code
    omega
  · exact same

/-- An ordinary character is compared by its lower case. -/
theorem comparedChar_eq_iff
    {c : Char}
    (ordinary : IsOrdinary [c])
    (other : Char) :
    comparedChar c = comparedChar other ↔ Text.lowerAscii c = Text.lowerAscii other := by
  obtain ⟨replacement, first, second⟩ : c ≠ '\ufffd' ∧ c ≠ '\ufffe' ∧ c ≠ '\uffff' := by
    simpa [IsOrdinary, eq_comm] using ordinary
  have own : comparedChar c = Text.lowerAscii c := by
    simp [comparedChar, patternChar, first, second]
  rw [own]
  by_cases replaced : other = '\ufffe' ∨ other = '\uffff'
  · have compared : comparedChar other = '\ufffd' := by
      rw [comparedChar, patternChar, if_pos replaced]
      decide
    refine iff_of_false ?_ ?_
    · intro same
      exact replacement (eq_of_lowerAscii (by decide) (same.trans compared))
    · rcases replaced with rfl | rfl
      · exact fun same => first (eq_of_lowerAscii (by decide) same)
      · exact fun same => second (eq_of_lowerAscii (by decide) same)
  · rw [comparedChar, patternChar, if_neg replaced]

/-- Ordinary characters are those of a part of a text if their lower cases are. -/
theorem map_comparedChar_eq_iff
    {chars : List Char}
    (ordinary : IsOrdinary chars)
    (part : List Char) :
    chars.map comparedChar = part.map comparedChar ↔
      chars.map Text.lowerAscii = part.map Text.lowerAscii := by
  induction chars generalizing part with
  | nil => simp
  | cons c rest inductionHypothesis =>
      cases part with
      | nil => simp
      | cons other others =>
          obtain ⟨ordinaryFirst, ordinaryRest⟩ := isOrdinary_cons_iff.mp ordinary
          simp only [List.map_cons, List.cons.injEq, comparedChar_eq_iff ordinaryFirst,
            inductionHypothesis ordinaryRest]

/-- A term of ordinary characters stands where it does up to the case of ASCII letters. -/
theorem containsUpTo_comparedChar
    {term : String}
    (ordinary : IsOrdinary term.toList)
    (content : String) :
    ContainsUpTo comparedChar content term ↔ ContainsUpTo Text.lowerAscii content term := by
  simp only [ContainsUpTo, List.infix_map_iff, map_comparedChar_eq_iff ordinary]

end Database

/-! ## Specifications that search -/

namespace Sql

/-- Operands that are no higher than the first one make a chain higher by one each. -/
theorem Operand.height_foldl_joined
    (operator : Operator)
    {first : Operand}
    {rest : List Operand}
    (low : ∀ operand ∈ rest, operand.height ≤ first.height) :
    (rest.foldl (joined operator) first).height = first.height + rest.length := by
  induction rest generalizing first with
  | nil => rfl
  | cons operand others inductionHypothesis =>
      have longer : (joined operator first operand).height = first.height + 1 := by
        have lower := low operand (by simp)
        simp only [joined]
        omega
      have later : ∀ other ∈ others, other.height ≤ (joined operator first operand).height := by
        intro other member
        have lower := low other (List.mem_cons_of_mem operand member)
        omega
      rw [List.foldl_cons, inductionHypothesis later, longer, List.length_cons]
      omega

/-- A group of comparisons is by one higher than they are many, if none of them is negated. -/
theorem Condition.height_ofParts
    (connective : Connective)
    {parts : List Comparison}
    (nonempty : parts ≠ [])
    (affirmed : ∀ part ∈ parts, part.comparator.negates = false) :
    (Condition.ofParts connective parts).operand.height = parts.length + 1 := by
  have two : ∀ part ∈ parts, part.operand.height = 2 := by
    intro part member
    rw [Comparison.operand, affirmed part member]
    rfl
  obtain ⟨first, rest, rfl⟩ := List.exists_cons_of_ne_nil nonempty
  have low : ∀ operand ∈ rest.map Comparison.operand, operand.height ≤ first.operand.height := by
    intro operand member
    obtain ⟨part, inRest, rfl⟩ := List.mem_map.mp member
    rw [two part (by simp [inRest]), two first (by simp)]
  refine (Operand.height_foldl_joined _ low).trans ?_
  rw [two first (by simp), List.length_map, List.length_cons]
  omega

end Sql

/-- A specification that only searches a table, for a text that stands for itself in a pattern, in
declared fields with texts or nothing. -/
structure Searches (spec : Spec) (term : String) (access : Access) (table : Table) : Prop where
  searchTerm : spec.searchTerm = .text term
  nonempty : term ≠ ""
  literal : IsLiteral term.toList
  nulFree : '\x00' ∉ term.toList
  short : term.utf8ByteSize + 2 ≤ patternLimit
  searchFields : ∃ fields, spec.searchFields = .list fields ∧ fields ≠ []
  alone : spec.predicates = []
  limit : ∃ limit : Nat, spec.limit = .int limit ∧ limit < 2 ^ 63
  offset : ∃ offset : Nat, spec.offset = .int offset ∧ offset < 2 ^ 63
  isOpen : access.connection.isOpen
  found : findTable access.tables spec.table.display = .ok table
  sound : table.IsSound
  declared : ∀ field ∈ spec.fields, table.Declares field.display
  prose : ∀ row ∈ table.rows, ∀ field ∈ spec.fields, (table.cellOf row field.display).IsProse

/-- Whether some field of a row contains a term. -/
def Spec.hasFieldWith (spec : Spec) (view : Char → Char) (term : String) (table : Table)
    (row : Row) : Bool :=
  spec.fields.any fun field => (table.cellOf row field.display).contains view term

/-- The section of the rows of which some field contains a term, in the order of the sort column. -/
def Spec.containing (spec : Spec) (view : Char → Char) (term : String) (table : Table) :
    List Row :=
  window spec.limit.toCount spec.offset.toCount
    ((table.rows.filter (spec.hasFieldWith view term table)).mergeSort
      (table.mayPrecede spec.sortColumn.display spec.sortDirection))

namespace Searches

variable {spec : Spec}
  {term : String}
  {access : Access}
  {table : Table}

theorem hasSearch (searches : Searches spec term access table) : spec.hasSearch = true := by
  obtain ⟨fields, listed, some⟩ := searches.searchFields
  simp [Spec.hasSearch, searches.searchTerm, listed, Value.truthy, searches.nonempty, some]

theorem fields_ne_nil (searches : Searches spec term access table) : spec.fields ≠ [] := by
  obtain ⟨fields, listed, some⟩ := searches.searchFields
  rwa [Spec.fields, listed]

theorem searchText_eq (searches : Searches spec term access table) :
    spec.searchTerm.searchText = "%" ++ term ++ "%" := by
  have text : spec.searchTerm.sqlText = term := by
    have written : (Value.text term).literalText = term := rfl
    rw [searches.searchTerm, Value.sqlText_eq (by rw [written]; exact searches.nulFree), written]
  rw [Value.searchText, text]

/-- The only condition is that some field is like the term between percent signs. -/
theorem conditions_eq (searches : Searches spec term access table) :
    spec.conditions = [.ofParts .any (spec.fields.map fun field =>
      ⟨field.display, .like, spec.searchTerm.searchText⟩)] := by
  rw [Spec.conditions, Spec.searchConditions, if_pos searches.hasSearch, searches.alone]
  rfl

/-- The filter is by one higher than the fields are many. -/
theorem isShallow_iff (searches : Searches spec term access table) :
    spec.IsShallow ↔ spec.fields.length < Sql.heightLimit := by
  have parts : (spec.fields.map fun field =>
      (⟨field.display, .like, spec.searchTerm.searchText⟩ : Sql.Comparison)) ≠ [] := by
    simpa using searches.fields_ne_nil
  have height := Sql.Condition.height_ofParts .any parts (by simp [Comparator.negates])
  have whole : (Sql.filterOperand spec.conditions).height = spec.fields.length + 1 := by
    rw [searches.conditions_eq]
    rw [List.length_map] at height
    exact height
  rw [Spec.IsShallow, whole]
  omega

/-- No column is compared for equality. -/
theorem not_equates
    (searches : Searches spec term access table)
    {condition : Sql.Condition}
    (member : condition ∈ spec.conditions) :
    ¬ condition.Equates := by
  rw [searches.conditions_eq, List.mem_singleton] at member
  subst member
  rintro ⟨part, inParts, equal⟩
  obtain ⟨field, _, rfl⟩ := List.mem_map.mp inParts
  cases equal

theorem hasShortPatterns (searches : Searches spec term access table) : spec.HasShortPatterns := by
  intro pattern member
  have only : pattern = "%" ++ term ++ "%" := by
    simpa [Spec.patterns, searches.hasSearch, searches.alone, searches.searchText_eq] using member
  have length : ("%" ++ term ++ "%").utf8ByteSize = 1 + term.utf8ByteSize + 1 := by
    rw [String.utf8ByteSize_append, String.utf8ByteSize_append]
    rfl
  have short := searches.short
  rw [only, length]
  omega

/-- A row is selected if some field contains the term. -/
theorem selected_eq (searches : Searches spec term access table) :
    spec.selected table = spec.containing comparedChar term table := by
  have kept : ∀ row ∈ table.rows, spec.keeps table row =
      spec.hasFieldWith comparedChar term table row := by
    intro row inRows
    have found : spec.keeps table row = spec.fields.any fun field =>
        (table.cellOf row field.display).likes? ("%" ++ term ++ "%") == some true := by
      simp only [Spec.keeps, searches.hasSearch, searches.alone, Spec.isFound,
        searches.searchText_eq, Table.compare?, Cell.compare?]
      simp
    have each : ∀ field ∈ spec.fields,
        ((table.cellOf row field.display).likes? ("%" ++ term ++ "%") == some true) =
          (table.cellOf row field.display).contains comparedChar term := fun field inFields =>
      Cell.likes?_between (searches.prose row inRows field inFields) searches.literal
    rw [found, Spec.hasFieldWith, Bool.eq_iff_iff, List.any_eq_true, List.any_eq_true]
    refine exists_congr fun field => and_congr_right fun inFields => ?_
    rw [each field inFields]
  rw [Spec.selected, Spec.matching, List.filter_congr kept, Spec.containing]

/-- The case of ASCII letters is all that is not counted where the term has ordinary characters. -/
theorem containing_eq
    (spec : Spec)
    (table : Table)
    (ordinary : IsOrdinary term.toList) :
    spec.containing comparedChar term table = spec.containing Text.lowerAscii term table := by
  have same : Cell.contains comparedChar term = Cell.contains Text.lowerAscii term := by
    funext cell
    cases cell with
    | text content => exact decide_eq_decide.mpr (containsUpTo_comparedChar ordinary content)
    | null | integer _ | real _ | blob _ => rfl
  have kept : spec.hasFieldWith comparedChar term table =
      spec.hasFieldWith Text.lowerAscii term table := by
    funext row
    simp only [Spec.hasFieldWith, same]
  rw [Spec.containing, kept, Spec.containing]

end Searches

/-! ## Runs -/

namespace Execution

/-- What a specification finds are the instances of the rows of which some field contains a term, in
their order, and nothing on the connection changes. -/
def FindsContaining (view : Char → Char) (model : Model) (spec : Spec) (term : String)
    (setting : Setting Access) (table : Table) : Prop :=
  ∃ world, (find Engine.driver model spec).runFrom setting =
    ((spec.containing view term table).mapM (instanceOf model table), (world, setting.2))

section Searches

variable {spec : Spec}
  {term : String}
  {setting : Setting Access}
  {table : Table}

theorem asks_of_searches
    (searches : Searches spec term setting.2 table)
    (sorts : table.Declares spec.sortColumn.display) :
    Asks spec setting table where
  limit := searches.limit
  offset := searches.offset
  searchFields := by
    obtain ⟨fields, listed, _⟩ := searches.searchFields
    exact ⟨fields, listed⟩
  complete := by simp [searches.alone]
  isOpen := searches.isOpen
  found := searches.found
  sound := searches.sound
  names :=
    { sortColumn := sorts
      fields := searches.declared
      predicates := by simp [searches.alone] }

/-- The term is a text, and there are no other values. -/
theorem hasTexts_of_searches (searches : Searches spec term setting.2 table) : spec.HasTexts where
  term := fun _ => searches.searchTerm ▸ Value.hasText_text term
  values := by simp [searches.alone]

/-- A search finds exactly the rows of which some field contains the term, as the engine compares
characters.  A term of ordinary characters is found up to the case of ASCII letters.  No name has a
backtick, the sort column is declared, the filter of so many fields is not too high for the engine,
and the log takes the statement. -/
theorem findsContaining_of_searches
    (searches : Searches spec term setting.2 table)
    (sorts : table.Declares spec.sortColumn.display)
    (names : spec.HasPlainNames)
    (few : spec.fields.length < Sql.heightLimit)
    (takes : TakesStatements setting.1)
    (model : Model) :
    FindsContaining comparedChar model spec term setting table ∧
      (IsOrdinary term.toList →
        FindsContaining Text.lowerAscii model spec term setting table) := by
  have shallow : spec.IsShallow := searches.isShallow_iff.mpr few
  -- The filter only has patterns, so no key is sought and any number of a row will do.
  have finds : FindsSelected model spec setting table :=
    (asks_of_searches searches sorts).findsSelected names (hasTexts_of_searches searches)
      (fun _ member equates => absurd equates (searches.not_equates member))
      searches.hasShortPatterns shallow takes model
  rw [FindsSelected, searches.selected_eq] at finds
  refine ⟨finds, ?_⟩
  intro ordinary
  rwa [FindsContaining, ← Searches.containing_eq spec table ordinary]

end Searches

/-- A search of the staff. -/
def searching (term : String) (fields : List String) : Spec where
  table := .text "staff"
  searchTerm := .text term
  searchFields := .list (fields.map Value.text)

/-- The staff can be searched in declared fields with texts or nothing. -/
theorem searches_searching
    {table : Table}
    (found : findTable [table] "staff" = .ok table)
    (sound : table.IsSound)
    {fields : List String}
    (some : fields ≠ [])
    (declared : ∀ field ∈ fields, table.Declares field)
    (prose : ∀ row ∈ table.rows, ∀ field ∈ fields, (table.cellOf row field).IsProse)
    {term : String}
    (nonempty : term ≠ "")
    (literal : IsLiteral term.toList)
    (nulFree : '\x00' ∉ term.toList)
    (short : term.utf8ByteSize + 2 ≤ patternLimit) :
    Searches (searching term fields) term (accessTo [table]) table where
  searchTerm := rfl
  nonempty := nonempty
  literal := literal
  nulFree := nulFree
  short := short
  searchFields := ⟨_, rfl, by simpa using some⟩
  alone := rfl
  limit := ⟨0, rfl, by decide⟩
  offset := ⟨0, rfl, by decide⟩
  isOpen := rfl
  found := found
  sound := sound
  declared := by
    intro field member
    obtain ⟨name, listed, rfl⟩ := List.mem_map.mp member
    exact declared name listed
  prose := by
    intro row inRows field member
    obtain ⟨name, listed, rfl⟩ := List.mem_map.mp member
    exact prose row inRows name listed

theorem findsContaining_of_searches_staff :
    (searching "mary o'n" ["city", "name"]).containing Text.lowerAscii "mary o'n" staffTable =
        staffTable.rows ∧
      FindsContaining Text.lowerAscii staffModel (searching "mary o'n" ["city", "name"]) "mary o'n"
        (quiet.1, accessTo [staffTable]) staffTable := by
  have searches : Searches (searching "mary o'n" ["city", "name"]) "mary o'n"
      (quiet.1, accessTo [staffTable]).2 staffTable :=
    searches_searching rfl isSound_staffTable (by decide) (by decide) (by decide) (by decide)
      (by decide) (by decide) (by decide)
  have names : (searching "mary o'n" ["city", "name"]).HasPlainNames :=
    ⟨by decide, by decide, by decide, fun _ member => absurd member List.not_mem_nil⟩
  have announced : ∃ after, (announce "").runFrom quiet.1 = (.ok (), after) := ⟨_, rfl⟩
  obtain ⟨after, announced⟩ := announced
  have takes : TakesStatements quiet.1 := (takesStatements_of_announce announced).1
  have sorts : staffTable.Declares "id" := by decide
  have few : (searching "mary o'n" ["city", "name"]).fields.length < Sql.heightLimit := by decide
  have ordinary : IsOrdinary "mary o'n".toList := by decide
  obtain ⟨_, finds⟩ := findsContaining_of_searches searches sorts names few takes staffModel
  exact ⟨by decide +kernel, finds ordinary⟩

/-- What is found has as many instances as rows contain the term. -/
theorem FindsContaining.length
    {view : Char → Char}
    {model : Model}
    {spec : Spec}
    {term : String}
    {setting : Setting Access}
    {table : Table}
    (finds : FindsContaining view model spec term setting table) :
    ((find Engine.driver model spec).runFrom setting).1.toOption.map List.length =
      ((spec.containing view term table).mapM (instanceOf model table)).toOption.map
        List.length := by
  obtain ⟨world, found⟩ := finds
  rw [found]

/-- A search in too many fields of a table without rows does not find that there are none. -/
theorem not_findsContaining_of_many
    {view : Char → Char}
    {model : Model}
    {spec : Spec}
    {term : String}
    {setting : Setting Access}
    {table : Table}
    (searches : Searches spec term setting.2 table)
    (names : spec.HasPlainNames)
    (many : Sql.heightLimit ≤ spec.fields.length)
    (none : table.rows = []) :
    ¬ FindsContaining view model spec term setting table := by
  rintro ⟨world, found⟩
  have nothing : spec.containing view term table = [] := by simp [Spec.containing, none, window]
  rw [nothing] at found
  obtain ⟨limit, limited, _⟩ := searches.limit
  obtain ⟨offset, skipped, _⟩ := searches.offset
  obtain ⟨fields, listed, _⟩ := searches.searchFields
  have shallow : spec.IsShallow :=
    isShallow_of_find limited skipped ⟨fields, listed⟩ names found
  exact absurd (searches.isShallow_iff.mp shallow) many.not_gt

/-- The staff can be searched for a term, but other rows are found than those that contain it. -/
def Missearched (world : World) (table : Table) (fields : List String) (term : String) : Prop :=
  Searches (searching term fields) term (accessTo [table]) table ∧
    ¬ FindsContaining Text.lowerAscii staffModel (searching term fields) term
      (world, accessTo [table]) table

/-- A table with one text. -/
def noteTable (column content : String) : Table where
  name := "staff"
  columns := [.declare "id" "INTEGER PRIMARY KEY", .declare column "TEXT"]
  rows := [⟨1, [.integer 1, .text content]⟩]

theorem isSound_noteTable
    {column : String}
    (made : Access.newTable [] "staff" [("id", "INTEGER PRIMARY KEY"), (column, "TEXT")] =
      .ok { noteTable column "" with rows := [] })
    (content : String) :
    (noteTable column content).IsSound := by
  have inserted : Table.insert { noteTable column "" with rows := [] }
      [.integer 1, .text content] = .ok (noteTable column content) := by
    rfl
  exact (Access.isSound_newTable made).insert rfl inserted

/-- A table without a key. -/
def keylessTable : Table where
  name := "staff"
  columns := [.declare "name" "TEXT"]

theorem isSound_keylessTable : keylessTable.IsSound := by
  have made : Access.newTable [] "staff" [("name", "TEXT")] = .ok keylessTable := by
    rfl
  exact Access.isSound_newTable made

/-- As many fields as the engine does not compare in one expression. -/
def manyFields : List String :=
  List.replicate Sql.heightLimit "name"

theorem missearched_manyFields :
    Missearched quiet.1 { staffTable with rows := [] } manyFields "na" := by
  have each : ∀ field ∈ manyFields, field = "name" := fun _ => List.eq_of_mem_replicate
  have length : manyFields.length = Sql.heightLimit := List.length_replicate
  have some : manyFields ≠ [] := by
    intro none
    rw [none] at length
    cases length
  have declared : ∀ field ∈ manyFields, Table.Declares { staffTable with rows := [] } field := by
    intro field member
    rw [each field member]
    decide
  have searches : Searches (searching "na" manyFields) "na"
      (accessTo [{ staffTable with rows := [] }]) { staffTable with rows := [] } :=
    searches_searching rfl isSound_emptyTable some declared
      (fun _ inRows => absurd inRows List.not_mem_nil) (by decide) (by decide) (by decide)
      (by decide)
  have plain : ∀ field ∈ (searching "na" manyFields).fields, field.IsPlainName := by
    intro field member
    obtain ⟨name, listed, rfl⟩ := List.mem_map.mp member
    rw [each name listed]
    decide
  have names : (searching "na" manyFields).HasPlainNames :=
    ⟨by decide, by decide, plain, fun _ member => absurd member List.not_mem_nil⟩
  have many : Sql.heightLimit ≤ (searching "na" manyFields).fields.length := by
    have mapped : (searching "na" manyFields).fields.length = manyFields.length :=
      List.length_map _
    exact (mapped.trans length).ge
  have missed : ¬ FindsContaining Text.lowerAscii staffModel (searching "na" manyFields) "na"
      (quiet.1, accessTo [{ staffTable with rows := [] }]) { staffTable with rows := [] } :=
    not_findsContaining_of_many searches names many rfl
  exact ⟨searches, missed⟩

/-- A search does not always find the rows of which a field contains the term: U+FFFE is taken for
U+FFFD, a backtick ends the name of a field and what follows it is read as a condition, many fields
make an expression that is too high, rows are sorted by a column that need not be there, and a
statement is not run that cannot be logged. -/
theorem not_findsContaining :
    Missearched quiet.1 (noteTable "name" "\ufffd") ["name"] "\ufffe" ∧
      Missearched quiet.1 (noteTable "name` LIKE '%' OR `name" "Mary")
        ["name` LIKE '%' OR `name"] "zz" ∧
      Missearched quiet.1 { staffTable with rows := [] } manyFields "na" ∧
      Missearched quiet.1 keylessTable ["name"] "na" ∧
      Missearched overfull staffTable ["name"] "mary" := by
  refine ⟨⟨?_, ?_⟩, ⟨?_, ?_⟩, missearched_manyFields, ⟨?_, ?_⟩, ⟨?_, ?_⟩⟩
  · exact searches_searching rfl (isSound_noteTable rfl _) (by decide) (by decide) (by decide)
      (by decide) (by decide) (by decide) (by decide)
  · exact fun finds => absurd finds.length (by decide +kernel)
  · exact searches_searching rfl (isSound_noteTable rfl _) (by decide) (by decide) (by decide)
      (by decide) (by decide) (by decide) (by decide)
  · exact fun finds => absurd finds.length (by decide +kernel)
  · exact searches_searching rfl isSound_keylessTable (by decide) (by decide) (by decide)
      (by decide) (by decide) (by decide) (by decide)
  · exact fun finds => absurd finds.length (by decide +kernel)
  · exact searches_searching rfl isSound_staffTable (by decide) (by decide) (by decide)
      (by decide) (by decide) (by decide) (by decide)
  · exact fun finds => absurd finds.length (by decide +kernel)

end Execution

end TableQuery
