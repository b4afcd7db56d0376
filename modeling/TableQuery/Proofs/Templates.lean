import TableQuery.Proofs.Completeness
import TableQuery.Proofs.Structure

/-!
# Templates

The conditions of a specification are a template that is fixed before the escape is known.  Its gaps
take the escaped texts of values: each value is escaped once and in order, and the term of a search
once for all fields.  Names are never escaped.
-/

namespace TableQuery

/-! ## Texts of values -/

theorem map_getElem?_range'
    (before texts : List α) :
    (List.range' before.length texts.length).map ((before ++ texts)[·]?) = texts.map some := by
  apply List.ext_getElem (by simp)
  intro index _ inRange
  have within : index < texts.length := by simpa using inRange
  simp [within]

namespace Spec

/-- The columns that the search of a specification looks into, if it has one. -/
def searched (spec : Spec) : List Value :=
  if spec.hasSearch then spec.searchFields.items.toOption.getD [] else []

/-- The texts of the values of the predicates in order. -/
def valueTexts (spec : Spec) : List String :=
  (spec.predicates.flatMap Predicate.values).map Value.literalText

/-- The texts that are escaped in order: the term of the search first, then the values. -/
def rawTexts (spec : Spec) : List String :=
  (if spec.hasSearch then [spec.searchTerm.literalText] else []) ++ spec.valueTexts

/-- The texts that fill the gaps, by their numbers: the first one in every field of a search, each
of the others once. -/
def gapNumbers (spec : Spec) : List Nat :=
  spec.searched.map (fun _ => 0) ++
    List.range' (if spec.hasSearch then 1 else 0) spec.valueTexts.length

/-- The gaps that follow one another have these texts. -/
theorem map_gapNumbers (spec : Spec) :
    spec.gapNumbers.map (spec.rawTexts[·]?) =
      (spec.searched.map (fun _ => spec.searchTerm.literalText) ++ spec.valueTexts).map some := by
  by_cases searches : spec.hasSearch
  · have values := map_getElem?_range' [spec.searchTerm.literalText] spec.valueTexts
    simpa [gapNumbers, rawTexts, searches] using values
  · have values := map_getElem?_range' [] spec.valueTexts
    simpa [gapNumbers, rawTexts, searched, searches] using values

end Spec

/-! ## Templates -/

namespace Sql

/-- Fixed texts with a gap between any two of them, each for one of so many contents. -/
structure Template (count : Nat) where
  opening : String
  gaps : List (Fin count × String)

namespace Template

/-- The text of a template with its gaps filled. -/
def fill (template : Template count) (contents : Fin count → String) : String :=
  template.opening ++ String.join (template.gaps.map fun gap => contents gap.1 ++ gap.2)

/-- The contents that the gaps take, by their numbers. -/
def numbers (template : Template count) : List Nat :=
  template.gaps.map fun gap => gap.1.val

end Template

/-- The text whose escape a piece writes. -/
def Piece.gap? : Piece → Option String
  | .escaped raw => some raw
  | .repeated raw => some raw
  | _ => none

@[simp] theorem Fragment.render_cons
    (escape : Escape)
    (piece : Piece)
    (rest : Fragment) :
    Fragment.render escape (piece :: rest) = piece.render escape ++ rest.render escape := by
  simp [Fragment.render]

@[simp] theorem Fragment.render_nil (escape : Escape) : Fragment.render escape [] = "" := rfl

theorem Fragment.render_append
    (escape : Escape)
    (left right : Fragment) :
    (left ++ right).render escape = left.render escape ++ right.render escape := by
  simp [Fragment.render]

theorem Fragment.render_join
    (escape : Escape)
    (separator : String)
    (fragments : List Fragment) :
    (Fragment.join separator fragments).render escape =
      separator.intercalate (fragments.map (Fragment.render escape)) := by
  induction fragments with
  | nil => rfl
  | cons fragment rest inductionHypothesis =>
      cases rest with
      | nil => simp [Fragment.join]
      | cons next others =>
          simp only [List.map_cons] at inductionHypothesis
          simp [Fragment.join, Fragment.render_append, Piece.render, inductionHypothesis,
            String.append_assoc]

/-- The text of a clause is put together from those of its conditions. -/
theorem render_whereOf_eq_intercalate
    (fragments : List Fragment)
    (escape : Escape) :
    (whereOf fragments).render escape =
      if (fragments.map (Fragment.render escape)).isEmpty then ""
      else "WHERE " ++ " AND ".intercalate (fragments.map (Fragment.render escape)) := by
  rw [render_whereOf, Fragment.render_join]
  cases fragments <;> rfl

/-- A fragment is a template for its gaps, whatever the escape is. -/
theorem exists_template
    {texts : List String}
    {fragment : Fragment}
    {numbers : List Nat}
    (known : numbers.map (texts[·]?) = (fragment.filterMap Piece.gap?).map some) :
    ∃ template : Template texts.length, template.numbers = numbers ∧
      ∀ escape : Escape,
        fragment.render escape = template.fill fun index => escape texts[index] := by
  induction fragment generalizing numbers with
  | nil =>
      obtain rfl : numbers = [] := by simpa using known
      exact ⟨⟨"", []⟩, rfl, fun _ => rfl⟩
  | cons piece rest inductionHypothesis =>
      -- A gap takes the first number, and the template of the rest is opened by its text.
      have gap (raw : String)
          (gaps : numbers.map (texts[·]?) = some raw :: (rest.filterMap Piece.gap?).map some) :
          ∃ template : Template texts.length, template.numbers = numbers ∧
            ∀ escape : Escape,
              escape raw ++ Fragment.render escape rest =
                template.fill fun index => escape texts[index] := by
        obtain ⟨number, others, rfl, first, following⟩ := List.map_eq_cons_iff.mp gaps
        obtain ⟨inRange, rfl⟩ := List.getElem?_eq_some_iff.mp first
        obtain ⟨template, same, filled⟩ := inductionHypothesis following
        refine ⟨⟨"", (⟨number, inRange⟩, template.opening) :: template.gaps⟩, ?_, ?_⟩
        · simpa [Template.numbers] using same
        · intro escape
          simp [Template.fill, filled escape, String.append_assoc]
      cases piece with
      | fixed text =>
          obtain ⟨template, same, filled⟩ := inductionHypothesis known
          refine ⟨{ template with opening := text ++ template.opening }, same, fun escape => ?_⟩
          simp [Piece.render, filled escape, Template.fill, String.append_assoc]
      | prepared raw =>
          obtain ⟨template, same, filled⟩ := inductionHypothesis known
          exact ⟨template, same, fun escape => by simp [Piece.render, filled escape]⟩
      | escaped raw =>
          obtain ⟨template, same, filled⟩ := gap raw known
          exact ⟨template, same, fun escape => by rw [Fragment.render_cons, ← filled escape]; rfl⟩
      | repeated raw =>
          obtain ⟨template, same, filled⟩ := gap raw known
          exact ⟨template, same, fun escape => by rw [Fragment.render_cons, ← filled escape]; rfl⟩

/-! ## Texts of fragments -/

section Readings

variable [Nesting]
  (read : Piece → Option String)
  (fixed : ∀ text, read (.fixed text) = none)
  (escaped : ∀ raw, read (.escaped raw) = some raw)

include fixed

omit [Nesting] in
/-- What is read from joined fragments is read from each of them. -/
theorem filterMap_join
    (separator : String)
    (fragments : List Fragment) :
    (Fragment.join separator fragments).filterMap read =
      fragments.flatMap (List.filterMap read) := by
  induction fragments with
  | nil => rfl
  | cons fragment rest inductionHypothesis =>
      cases rest with
      | nil => simp [Fragment.join]
      | cons next others => simp [Fragment.join, fixed, inductionHypothesis]

omit [Nesting] in
theorem filterMap_whereOf (fragments : List Fragment) :
    (whereOf fragments).filterMap read = fragments.flatMap (List.filterMap read) := by
  cases fragments with
  | nil => rfl
  | cons first rest => simp [whereOf, fixed, filterMap_join read fixed]

omit [Nesting] in
/-- What is read from a search is read from the term once beforehand and once for every field. -/
theorem filterMap_searchIn
    (raw : String)
    (fields : List Value) :
    (searchIn raw fields).filterMap read =
      (read (.prepared raw)).toList ++ fields.flatMap fun _ => (read (.repeated raw)).toList := by
  have inField (field : Value) :
      (searchField raw field).filterMap read = (read (.repeated raw)).toList := by
    cases known : read (.repeated raw) <;> simp [searchField, fixed, known]
  cases known : read (.prepared raw) <;>
    simp [searchIn, fixed, known, filterMap_join read fixed, List.flatMap_map, inField]

include escaped

/-- What is read from a predicate are the texts of its values. -/
theorem filterMap_predicate
    {given : Predicate}
    {fragment : Fragment}
    (rendered : predicate given = .ok fragment) :
    fragment.filterMap read = given.values.map Value.literalText := by
  have literals (value : Value) : (literal value).filterMap read = [value.literalText] := by
    simp [literal, fixed, escaped]
  have comparisons (column : Value) (symbol : String) (value : Value) :
      (comparison column symbol value).filterMap read = [value.literalText] := by
    simp [comparison, fixed, literals]
  have laid := (predicate_eq_ok_iff.mp rendered).2
  cases given with
  | comparison comparator column value =>
      obtain rfl := Except.ok.inj laid
      exact comparisons column comparator.symbol value
  | membership negated column members =>
      obtain rfl := Except.ok.inj laid
      cases members with
      | nil => simp [membership, fixed, Predicate.values]
      | cons first rest =>
          simp [membership, fixed, filterMap_join read fixed, literals, Predicate.values,
            List.flatMap_map, ← List.map_eq_flatMap]
  | group connective pairs =>
      cases pairs with
      | nil => cases laid
      | cons first rest =>
          obtain rfl := Except.ok.inj laid
          simp [fixed, filterMap_join read fixed, comparisons, Predicate.values, List.flatMap_map,
            ← List.map_eq_flatMap]
  | foreign typeName => cases laid

theorem filterMap_predicates
    {predicates : List Predicate}
    {fragments : List Fragment}
    (rendered : predicates.mapM predicate = .ok fragments) :
    fragments.flatMap (List.filterMap read) =
      (predicates.flatMap Predicate.values).map Value.literalText := by
  have related := Except.mapM_eq_ok_iff.mp rendered
  clear rendered
  induction related with
  | nil => rfl
  | cons first _ inductionHypothesis =>
      simp [filterMap_predicate read fixed escaped first, inductionHypothesis]

end Readings

section Conditions

variable [Nesting]

theorem filterMap_search
    {spec : Spec}
    {found : Option Fragment}
    (rendered : search spec = .ok found) :
    found.toList.flatMap (List.filterMap Piece.gap?) =
        spec.searched.map (fun _ => spec.searchTerm.literalText) ∧
      found.toList.flatMap Fragment.escapedTexts =
        if spec.hasSearch then [spec.searchTerm.literalText] else [] := by
  unfold Spec.searched
  rcases search_eq_ok_iff.mp rendered with ⟨absent, rfl⟩ | ⟨searches, _, fields, known, rfl⟩
  · simp [absent]
  · have gaps := filterMap_searchIn Piece.gap? (fun _ => rfl) spec.searchTerm.literalText fields
    have escapes :=
      filterMap_searchIn Piece.escaped? (fun _ => rfl) spec.searchTerm.literalText fields
    rw [if_pos searches, if_pos searches, known]
    constructor
    · simp only [Option.toList_some, List.flatMap_singleton, gaps, Piece.gap?, Option.toList_none,
        List.nil_append]
      exact List.map_eq_flatMap.symm
    · simp [Fragment.escapedTexts, escapes, Piece.escaped?]

/-- The texts that are escaped for predicates that can all be rendered. -/
theorem escapedByPredicates_eq
    {predicates : List Predicate}
    {fragments : List Fragment}
    (rendered : predicates.mapM predicate = .ok fragments) :
    escapedByPredicates predicates = fragments.flatMap Fragment.escapedTexts := by
  have related := Except.mapM_eq_ok_iff.mp rendered
  clear rendered
  induction related with
  | nil => rfl
  | cons first _ inductionHypothesis =>
      simp [escapedByPredicates, first, inductionHypothesis]

/-- Conditions that can be compiled have gaps for the term of the search and for the values, and
these are the texts that are escaped. -/
theorem texts_of_conditions
    {spec : Spec}
    {fragments : List Fragment}
    (rendered : (conditions spec).mapM id = .ok fragments) :
    (whereOf fragments).filterMap Piece.gap? =
        spec.searched.map (fun _ => spec.searchTerm.literalText) ++ spec.valueTexts ∧
      escapedBy spec = spec.rawTexts := by
  obtain ⟨found, others, searched, known, rfl⟩ :=
    (mapM_conditions_eq_ok_iff spec fragments).mp rendered
  have search := filterMap_search searched
  have gaps := filterMap_predicates Piece.gap? (fun _ => rfl) (fun _ => rfl) known
  have escapes := filterMap_predicates Piece.escaped? (fun _ => rfl) (fun _ => rfl) known
  constructor
  · rw [filterMap_whereOf Piece.gap? fun _ => rfl, List.flatMap_append, search.1, gaps, Spec.valueTexts]
  · rw [escapedBy, searched]
    simp only
    rw [search.2, escapedByPredicates_eq known, Spec.rawTexts, Spec.valueTexts, ← escapes]
    rfl

end Conditions

end Sql

/-! ## Names -/

/-- A predicate with other names for its columns. -/
def Predicate.renamed (name : Value → Value) : Predicate → Predicate
  | .comparison comparator column value => .comparison comparator (name column) value
  | .membership negated column members => .membership negated (name column) members
  | .group connective pairs => .group connective (pairs.map fun pair => (name pair.1, pair.2))
  | .foreign typeName => .foreign typeName

@[simp] theorem Predicate.values_renamed
    (name : Value → Value)
    (given : Predicate) :
    (given.renamed name).values = given.values := by
  cases given <;> simp [renamed, values, Function.comp_def]

theorem Predicate.IsComplete.renamed
    {given : Predicate}
    (complete : given.IsComplete)
    (name : Value → Value) :
    (given.renamed name).IsComplete := by
  cases given with
  | comparison comparator column value => trivial
  | membership negated column members => trivial
  | group connective pairs => exact mt List.map_eq_nil_iff.mp complete
  | foreign typeName => exact complete

namespace Spec

/-- A specification with other names for its table, its key and its columns. -/
def renamed (name : Value → Value) (spec : Spec) : Spec :=
  { spec with
    table := name spec.table
    primaryKey := name spec.primaryKey
    sortColumn := name spec.sortColumn
    searchFields :=
      match spec.searchFields with
      | .list fields => .list (fields.map name)
      | fields => fields
    predicates := spec.predicates.map (Predicate.renamed name) }

/-- Names do not matter to whether a query searches. -/
@[simp] theorem hasSearch_renamed
    (name : Value → Value)
    (spec : Spec) :
    (spec.renamed name).hasSearch = spec.hasSearch := by
  unfold hasSearch renamed
  congr 1
  cases fields : spec.searchFields <;> simp [Value.truthy]

@[simp] theorem rawTexts_renamed
    (name : Value → Value)
    (spec : Spec) :
    (spec.renamed name).rawTexts = spec.rawTexts := by
  have values : (spec.renamed name).valueTexts = spec.valueTexts := by
    simp [valueTexts, renamed, List.flatMap_map]
  rw [rawTexts, rawTexts, hasSearch_renamed, values]
  rfl

/-- Names do not matter to whether the columns of a search can be collected. -/
theorem items_renamed
    (name : Value → Value)
    {spec : Spec}
    (collected : ∃ fields, spec.searchFields.items = .ok fields) :
    ∃ fields, (spec.renamed name).searchFields.items = .ok fields := by
  obtain ⟨fields, known⟩ := collected
  cases listed : spec.searchFields with
  | list fields => exact ⟨fields.map name, by simp [renamed, listed, Value.items]⟩
  | _ => exact ⟨fields, by rw [← known]; simp [renamed, listed]⟩

/-- Names do not matter to whether values have texts. -/
theorem HasTexts.renamed
    [Nesting]
    {spec : Spec}
    (texts : spec.HasTexts)
    (name : Value → Value) :
    (spec.renamed name).HasTexts where
  term := fun searches => texts.term ((hasSearch_renamed name spec).symm.trans searches)
  values := by
    intro given member
    obtain ⟨before, known, rfl⟩ := List.mem_map.mp member
    rw [Predicate.values_renamed]
    exact texts.values before known

end Spec

/-! ## Compilations -/

namespace Sql

section Compilations

variable [Nesting]

/-- The texts that are escaped for conditions that can be compiled. -/
theorem escaped_of_compileWhere
    {spec : Spec}
    {first : Escape}
    {filter : String}
    (compiled : (compileWhere spec first).outcome = .ok filter)
    (escape : Escape) :
    (compileWhere spec escape).escaped = spec.rawTexts := by
  obtain ⟨fragments, rendered, _⟩ := (compileWhere_eq_ok_iff spec first filter).mp compiled
  exact (texts_of_conditions rendered).2

/-- Names are not escaped: other names leave the texts that are. -/
theorem escaped_renamed
    {spec : Spec}
    {first : Escape}
    {filter : String}
    (compiled : (compileWhere spec first).outcome = .ok filter)
    (name : Value → Value)
    (escape : Escape) :
    (compileWhere (spec.renamed name) escape).escaped = spec.rawTexts := by
  obtain ⟨collected, texts, complete⟩ :=
    (exists_compileWhere_iff spec first).mp ⟨filter, compiled⟩
  have compiles : ∃ other, (compileWhere (spec.renamed name) escape).outcome = .ok other := by
    refine (exists_compileWhere_iff _ _).mpr ⟨?_, texts.renamed name, ?_⟩
    · intro searches
      rw [Spec.hasSearch_renamed] at searches
      exact Spec.items_renamed name (collected searches)
    · intro given member
      obtain ⟨before, known, rfl⟩ := List.mem_map.mp member
      exact (complete before known).renamed name
  obtain ⟨other, compiledOther⟩ := compiles
  rw [escaped_of_compileWhere compiledOther, Spec.rawTexts_renamed]

/-- All clauses are compiled from the compiled conditions, where the section can be compiled. -/
theorem compile_eq_of_ok
    {spec : Spec}
    {first : Escape}
    {clauses : Clauses}
    (compiled : (compile spec first).outcome = .ok clauses)
    (escape : Escape) :
    (compile spec escape).outcome =
        (compileWhere spec escape).outcome.map ({ clauses with filter := · }) ∧
      (compile spec escape).escaped = (compileWhere spec escape).escaped ∧
      ∀ name, (compile (spec.renamed name) escape).escaped =
        (compileWhere (spec.renamed name) escape).escaped := by
  have bounds (name : Value → Value) :
      (spec.renamed name).limit = spec.limit ∧ (spec.renamed name).offset = spec.offset :=
    ⟨rfl, rfl⟩
  unfold compile at compiled ⊢
  simp only [bounds]
  split at compiled
  · cases compiled
  · cases compiled
  · simp only at compiled
    cases filtered : (compileWhere spec first).outcome with
    | error fault => simp [filtered, Except.map] at compiled
    | ok filter =>
        rw [filtered] at compiled
        obtain rfl := Except.ok.inj compiled
        exact ⟨rfl, rfl, fun _ => rfl⟩

/-- The conditions of a specification that can be compiled are a template, whatever the escape is.
The texts that are escaped are those of the values: the term of the search first, for all its
fields, and then each value once in order.  A compilation of all clauses escapes the same texts, and
no name is escaped in either. -/
theorem compileWhere_fills_template
    {spec : Spec}
    {first : Escape}
    {filter : String}
    (compiled : (compileWhere spec first).outcome = .ok filter) :
    ∃ template : Template spec.rawTexts.length, template.numbers = spec.gapNumbers ∧
      (∀ escape,
        (compileWhere spec escape).outcome =
          .ok (template.fill fun index => escape spec.rawTexts[index]) ∧
        (compileWhere spec escape).escaped = spec.rawTexts ∧
        ∀ name, (compileWhere (spec.renamed name) escape).escaped = spec.rawTexts) ∧
      ∀ clauses, (compile spec first).outcome = .ok clauses → ∀ escape,
        (compile spec escape).outcome =
          .ok { clauses with filter := template.fill fun index => escape spec.rawTexts[index] } ∧
        (compile spec escape).escaped = spec.rawTexts ∧
        ∀ name, (compile (spec.renamed name) escape).escaped = spec.rawTexts := by
  obtain ⟨fragments, rendered, _⟩ := (compileWhere_eq_ok_iff spec first filter).mp compiled
  have gaps := spec.map_gapNumbers
  rw [← (texts_of_conditions rendered).1] at gaps
  obtain ⟨template, numbered, filled⟩ := exists_template gaps
  have outcome (escape : Escape) : (compileWhere spec escape).outcome =
      .ok (template.fill fun index => escape spec.rawTexts[index]) :=
    (compileWhere_eq_ok_iff spec escape _).mpr ⟨fragments, rendered, filled escape⟩
  refine ⟨template, numbered, fun escape => ⟨outcome escape, ?_, ?_⟩, ?_⟩
  · exact escaped_of_compileWhere compiled escape
  · exact fun name => escaped_renamed compiled name escape
  · intro clauses known escape
    obtain ⟨all, same, sameRenamed⟩ := compile_eq_of_ok known escape
    refine ⟨?_, same.trans (escaped_of_compileWhere compiled escape), fun name => ?_⟩
    · rw [all, outcome]
      rfl
    · exact (sameRenamed name).trans (escaped_renamed compiled name escape)

end Compilations

theorem compileWhere_fills_template_staff :
    ∃ filter, (compileWhere Spec.staff id).outcome = .ok filter ∧
      Spec.staff.rawTexts = ["O'Neil", "%' --", "Rome", "30"] ∧
      Spec.staff.gapNumbers = [0, 0, 1, 2, 3] ∧
      ∃ template : Template Spec.staff.rawTexts.length,
        template.numbers = Spec.staff.gapNumbers ∧
        ∀ escape,
          (compileWhere Spec.staff escape).outcome =
            .ok (template.fill fun index => escape Spec.staff.rawTexts[index]) ∧
          (compileWhere Spec.staff escape).escaped = Spec.staff.rawTexts := by
  -- What can be compiled does not depend on the escape.
  obtain ⟨quoted, compiledQuoted, _⟩ := spells_compileWhere Spec.isPlain_staff
  obtain ⟨filter, compiled⟩ := (exists_compileWhere_iff Spec.staff id).mpr
    ((exists_compileWhere_iff Spec.staff doubleQuotes).mp ⟨quoted, compiledQuoted⟩)
  obtain ⟨template, numbered, filled, _⟩ := compileWhere_fills_template compiled
  refine ⟨filter, compiled, by decide +kernel, by decide +kernel, template, numbered, ?_⟩
  exact fun escape => ⟨(filled escape).1, (filled escape).2.1⟩

end Sql
end TableQuery
