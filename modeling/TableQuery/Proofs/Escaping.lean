import TableQuery.Proofs.Completeness
import TableQuery.Proofs.Conditions

/-!
# Characters of statements

The engine refuses statements with a NUL character.  The escape drops them from values, so a
statement has one exactly where a name has one.
-/

namespace TableQuery

/-- A name without NUL characters. -/
def Value.IsNulFree (name : Value) : Prop :=
  '\x00' ∉ name.display.toList

namespace Sql

open Fragment

/-! ## Fragments -/

theorem nul_notMem_doubleQuotes (raw : String) : '\x00' ∉ (doubleQuotes raw).toList := by
  intro member
  rw [doubleQuotes, String.toList_ofList] at member
  obtain ⟨c, kept, inPair⟩ := List.mem_flatMap.mp member
  have notNul : c ≠ '\x00' := by simpa using (List.mem_filter.mp kept).2
  split at inPair
  · simp at inPair
  · exact notNul (List.mem_singleton.mp inPair).symm

theorem nul_mem_quoteName (name : Value) :
    '\x00' ∈ (quoteName name).toList ↔ '\x00' ∈ name.display.toList := by
  simp [quoteName]

/-- Joined fragments have a NUL character exactly where one of them has one, unless the text
between them has one. -/
theorem nul_mem_join
    {separator : String}
    (separatorFree : '\x00' ∉ separator.toList)
    (fragments : List Fragment) :
    '\x00' ∈ chars (join separator fragments) ↔ ∃ fragment ∈ fragments, '\x00' ∈ chars fragment := by
  rw [chars_join]
  constructor
  · intro member
    rcases mem_intercalate member with inSeparator | ⟨list, known, inList⟩
    · exact absurd inSeparator separatorFree
    · obtain ⟨fragment, present, rfl⟩ := List.mem_map.mp known
      exact ⟨fragment, present, inList⟩
  · rintro ⟨fragment, present, inFragment⟩
    exact mem_intercalate_of_mem _ (List.mem_map_of_mem present) inFragment

theorem nul_notMem_literal (value : Value) : '\x00' ∉ chars (literal value) := by
  have free := nul_notMem_doubleQuotes value.literalText
  simp [literal, Piece.render, free]

theorem nul_mem_comparison
    (column : Value)
    {symbol : String}
    (symbolFree : '\x00' ∉ symbol.toList)
    (value : Value) :
    '\x00' ∈ chars (comparison column symbol value) ↔ '\x00' ∈ column.display.toList := by
  have text := nul_notMem_literal value
  simp [comparison, Piece.render, nul_mem_quoteName, symbolFree, text]

theorem nul_mem_membership
    (negated : Bool)
    (column : Value)
    {members : List Value}
    (nonempty : members ≠ []) :
    '\x00' ∈ chars (membership negated column members) ↔ '\x00' ∈ column.display.toList := by
  have list : '\x00' ∉ chars (join "," (members.map literal)) := by
    rw [nul_mem_join (by decide)]
    rintro ⟨fragment, member, inFragment⟩
    obtain ⟨value, _, rfl⟩ := List.mem_map.mp member
    exact nul_notMem_literal value inFragment
  cases negated <;> simp [membership, nonempty, Piece.render, nul_mem_quoteName, list]

/-- Comparisons of columns with what stands for their values have the NUL characters of the
columns. -/
theorem nul_mem_join_comparisons
    {separator : String}
    (separatorFree : '\x00' ∉ separator.toList)
    (pairs : List (Value × Value)) :
    '\x00' ∈ chars (join separator (pairs.map fun pair => comparison pair.1 "=" pair.2)) ↔
      ∃ pair ∈ pairs, '\x00' ∈ pair.1.display.toList := by
  rw [nul_mem_join separatorFree]
  simp only [List.mem_map, exists_exists_and_eq_and, nul_mem_comparison _ (by decide : '\x00' ∉ "=".toList)]

/-- A predicate has a NUL character exactly where a column of its condition has one. -/
theorem nul_mem_predicate
    {given : Predicate}
    {fragment : Fragment}
    (rendered : predicate given = .ok fragment) :
    '\x00' ∈ chars fragment ↔ ∃ name ∈ given.condition.columns, '\x00' ∈ name.toList := by
  have rendered := (predicate_eq_ok_iff.mp rendered).2
  cases given with
  | comparison comparator column value =>
      rw [← Except.ok.inj rendered, nul_mem_comparison column (by cases comparator <;> decide)]
      simp [Predicate.condition, Condition.columns]
  | membership negated column members =>
      rw [← Except.ok.inj rendered]
      by_cases empty : members = []
      · subst empty
        cases negated <;> simp [membership, Piece.render, Predicate.condition, Condition.columns]
      · rw [nul_mem_membership negated column empty]
        simp [Predicate.condition, Condition.columns, empty]
  | group connective pairs =>
      simp only [layout, group] at rendered
      split at rendered
      · cases rendered
      · have parts := nul_mem_join_comparisons
          (by cases connective <;> decide : '\x00' ∉ (" " ++ connective.keyword ++ " ").toList) pairs
        rw [← Except.ok.inj rendered]
        simp [Piece.render, parts, Predicate.condition, Condition.ofParts, Condition.columns,
          pairComparison]
  | foreign typeName => cases rendered

/-- A search has a NUL character exactly where one of its fields has one. -/
theorem nul_mem_searchIn
    (raw : String)
    (fields : List Value) :
    '\x00' ∈ chars (searchIn raw fields) ↔ ∃ field ∈ fields, '\x00' ∈ field.display.toList := by
  have text := nul_notMem_doubleQuotes raw
  have part (field : Value) :
      '\x00' ∈ chars (searchField raw field) ↔ '\x00' ∈ field.display.toList := by
    simp [searchField, Piece.render, nul_mem_quoteName, text]
  have parts := nul_mem_join (by decide : '\x00' ∉ " OR ".toList) (fields.map (searchField raw))
  simp only [List.mem_map, exists_exists_and_eq_and, part] at parts
  simp [searchIn, Piece.render, parts]

end Sql

/-! ## Conditions -/

/-- The names that a specification gives. -/
def Spec.names (spec : Spec) : List Value :=
  spec.table :: spec.sortColumn :: (spec.fields ++ spec.predicates.flatMap Predicate.columns)

/-- The condition of a predicate is about the columns of the predicate. -/
theorem Predicate.columns_condition
    {given : Predicate}
    {name : String}
    (member : name ∈ given.condition.columns) :
    ∃ column ∈ given.columns, column.display = name := by
  cases given with
  | comparison comparator column value =>
      exact ⟨column, List.mem_singleton_self column, (List.mem_singleton.mp member).symm⟩
  | membership negated column members =>
      cases members with
      | nil => simp [condition, Sql.Condition.columns] at member
      | cons first rest =>
          exact ⟨column, List.mem_singleton_self column, (List.mem_singleton.mp member).symm⟩
  | group connective pairs =>
      obtain ⟨part, inParts, rfl⟩ := List.mem_map.mp member
      obtain ⟨pair, inPairs, rfl⟩ := List.mem_map.mp inParts
      exact ⟨pair.1, List.mem_map_of_mem inPairs, rfl⟩
  | foreign typeName => simp [condition, Sql.Condition.columns] at member

/-- The only condition of a search compares each field with the term. -/
theorem Spec.mem_searchConditions_iff
    {spec : Spec}
    {condition : Sql.Condition} :
    condition ∈ spec.searchConditions ↔ spec.hasSearch ∧
      condition = .ofParts .any (spec.fields.map fun field =>
        ⟨field.display, .like, spec.searchTerm.searchText⟩) := by
  by_cases searches : spec.hasSearch <;> simp [searchConditions, searches]

/-- The conditions of a specification are about columns that it names. -/
theorem Spec.mem_names_of_conditions
    {spec : Spec}
    {condition : Sql.Condition}
    (known : condition ∈ spec.conditions)
    {name : String}
    (member : name ∈ condition.columns) :
    ∃ column ∈ spec.names, column.display = name := by
  rcases List.mem_append.mp known with inSearch | inPredicates
  · obtain ⟨_, rfl⟩ := mem_searchConditions_iff.mp inSearch
    obtain ⟨part, inParts, rfl⟩ := List.mem_map.mp member
    obtain ⟨field, inFields, rfl⟩ := List.mem_map.mp inParts
    exact ⟨field, by simp [names, inFields], rfl⟩
  · obtain ⟨given, inSpec, rfl⟩ := List.mem_map.mp inPredicates
    obtain ⟨column, inColumns, same⟩ := Predicate.columns_condition member
    have listed := List.mem_flatMap.mpr ⟨given, inSpec, inColumns⟩
    exact ⟨column, by simp only [names, List.mem_cons, List.mem_append]; tauto, same⟩

namespace Sql

open Fragment

/-- Predicates that are rendered have a NUL character exactly where a column of their conditions
has one. -/
theorem nul_mem_predicates
    {predicates : List Predicate}
    {fragments : List Fragment}
    (rendered : predicates.mapM predicate = .ok fragments) :
    (∃ fragment ∈ fragments, '\x00' ∈ chars fragment) ↔
      ∃ condition ∈ predicates.map Predicate.condition,
        ∃ name ∈ condition.columns, '\x00' ∈ name.toList := by
  rw [Except.mapM_eq_ok_iff] at rendered
  induction rendered with
  | nil => simp
  | cons first _ inductionHypothesis =>
      simp only [List.mem_cons, List.map_cons, exists_eq_or_imp, inductionHypothesis,
        nul_mem_predicate first]

/-- The conditions of a specification have a NUL character exactly where one of their columns has
one. -/
theorem nul_mem_compileWhere
    {spec : Spec}
    (collected : ∃ fields, spec.searchFields = .list fields)
    {filter : String}
    (compiled : (compileWhere spec doubleQuotes).outcome = .ok filter) :
    '\x00' ∈ filter.toList ↔
      ∃ condition ∈ spec.conditions, ∃ name ∈ condition.columns, '\x00' ∈ name.toList := by
  obtain ⟨fields, known⟩ := collected
  cases outcomes : (conditions spec).mapM id with
  | error fault => simp [compileWhere, whereClause, outcomes] at compiled
  | ok fragments =>
      have whole : filter = (whereOf fragments).render doubleQuotes := by
        simpa [compileWhere, whereClause, outcomes] using compiled.symm
      have joined : '\x00' ∈ filter.toList ↔ ∃ fragment ∈ fragments, '\x00' ∈ chars fragment := by
        rw [whole, toList_render, whereOf, ← nul_mem_join (by decide : '\x00' ∉ " AND ".toList)]
        split
        · simp_all [join]
        · simp [Piece.render]
      rw [joined]
      obtain ⟨found, rest, searched, rendered, rfl⟩ :=
        (mapM_conditions_eq_ok_iff spec fragments).mp outcomes
      have others := nul_mem_predicates rendered
      rcases search_eq_ok_iff.mp searched with
        ⟨absent, rfl⟩ | ⟨searches, _, members, collected, rfl⟩
      · rw [Option.toList_none, List.nil_append, others]
        simp [Spec.conditions, Spec.searchConditions, absent]
      · obtain rfl : fields = members := by simpa [known, Value.items] using collected
        simp [others, nul_mem_searchIn, Spec.conditions, Spec.searchConditions, searches,
          Spec.fields, known]

/-- The conditions of a specification have a NUL character only where a name has one. -/
theorem nul_notMem_compileWhere
    {spec : Spec}
    (collected : ∃ fields, spec.searchFields = .list fields)
    (nulFree : ∀ name ∈ spec.names, name.IsNulFree)
    {filter : String}
    (compiled : (compileWhere spec doubleQuotes).outcome = .ok filter) :
    '\x00' ∉ filter.toList := by
  rw [nul_mem_compileWhere collected compiled]
  rintro ⟨condition, known, name, member, inName⟩
  obtain ⟨column, listed, rfl⟩ := Spec.mem_names_of_conditions known member
  exact nulFree column listed inName

end Sql

end TableQuery
