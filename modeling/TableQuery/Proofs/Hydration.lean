import Mathlib.Data.List.Forall2
import Mathlib.Data.List.Induction
import Mathlib.Data.List.Nodup
import TableQuery.Model.Basic
import TableQuery.Proofs.Actions

/-!
# Rows as instances

An instance has the columns of its row in the order of the row.  Casts change the values of the
columns that they name and nothing else.
-/

namespace TableQuery

/-! ## Named columns -/

namespace Value

/-- The entries of a row whose columns are named by texts. -/
def ofColumns (columns : List (String × Value)) : List (Value × Value) :=
  columns.map fun column => (.text column.1, column.2)

theorem equal_text (name other : String) :
    equal (.text name) (.text other) = (name == other) := by
  rw [Bool.beq_comm]
  simp [equal, asText?]

theorem lookup_ofColumns
    (name : String)
    (columns : List (String × Value)) :
    lookup (.text name) (ofColumns columns) = columns.lookup name := by
  induction columns with
  | nil => rfl
  | cons first rest inductionHypothesis =>
      rcases first with ⟨other, value⟩
      unfold lookup ofColumns at inductionHypothesis ⊢
      rw [List.map_cons, List.find?_cons, List.lookup_cons, equal_text]
      cases name == other with
      | true => rfl
      | false => exact inductionHypothesis

/-- There is a value under the names of the columns. -/
theorem isSome_lookup_iff
    {name : String}
    {columns : List (String × α)} :
    (columns.lookup name).isSome ↔ name ∈ columns.map Prod.fst := by
  induction columns with
  | nil => simp
  | cons first rest inductionHypothesis =>
      rw [List.lookup_cons, List.map_cons, List.mem_cons]
      by_cases same : name = first.1
      · simp [same]
      · have other : (name == first.1) = false := by simpa using same
        rw [other, inductionHypothesis]
        simp [same]

/-- A column, with a value set if it has a given name. -/
def setColumn (name : String) (value : Value) (column : String × Value) : String × Value :=
  if column.1 = name then (name, value) else column

/-- A column that is there keeps its place when its value is set. -/
theorem insert_ofColumns
    {name : String}
    {columns : List (String × Value)}
    (distinct : (columns.map Prod.fst).Nodup)
    (present : name ∈ columns.map Prod.fst)
    (value : Value) :
    insert (.text name) value (ofColumns columns) =
      ofColumns (columns.map (setColumn name value)) := by
  induction columns with
  | nil => cases present
  | cons first rest inductionHypothesis =>
      rw [List.map_cons, List.nodup_cons] at distinct
      by_cases same : first.1 = name
      · have others : ∀ column ∈ rest, setColumn name value column = column := by
          intro column member
          apply if_neg
          rintro rfl
          exact distinct.1 (same ▸ List.mem_map_of_mem member)
        have unchanged := List.map_congr_left others
        rw [List.map_id'] at unchanged
        simp [ofColumns, setColumn, insert, equal_text, same, unchanged]
      · have later : name ∈ rest.map Prod.fst :=
          (List.mem_cons.mp present).resolve_left (Ne.symm same)
        have following := inductionHypothesis distinct.2 later
        unfold ofColumns at following ⊢
        simp [setColumn, insert, equal_text, same, Ne.symm same, following]

/-- A dictionary of named columns stays one when a column is inserted. -/
theorem exists_insert_ofColumns
    (name : String)
    (value : Value)
    (columns : List (String × Value)) :
    ∃ kept, insert (.text name) value (ofColumns columns) = ofColumns kept ∧
      kept.map Prod.fst ⊆ name :: columns.map Prod.fst := by
  induction columns with
  | nil => exact ⟨[(name, value)], rfl, by simp⟩
  | cons first rest inductionHypothesis =>
      obtain ⟨kept, inserted, names⟩ := inductionHypothesis
      have step : insert (.text name) value (ofColumns (first :: rest)) =
          if name == first.1 then ofColumns ((first.1, value) :: rest)
          else (.text first.1, first.2) :: insert (.text name) value (ofColumns rest) := by
        rw [ofColumns, List.map_cons, insert, equal_text]
        rfl
      rw [step]
      split
      · exact ⟨_, rfl, by simp⟩
      · refine ⟨first :: kept, by rw [inserted]; rfl, ?_⟩
        intro other member
        rcases List.mem_cons.mp member with rfl | later
        · simp
        · rcases List.mem_cons.mp (names later) with rfl | inRest
          · simp
          · simp [inRest]

/-- The dictionary of named columns has no other names. -/
theorem exists_ofPairs_ofColumns (columns : List (String × Value)) :
    ∃ kept, ofPairs (ofColumns columns) = ofColumns kept ∧
      kept.map Prod.fst ⊆ columns.map Prod.fst := by
  induction columns using List.reverseRecOn with
  | nil => exact ⟨[], rfl, by simp⟩
  | append_singleton earlier last inductionHypothesis =>
      obtain ⟨before, made, names⟩ := inductionHypothesis
      obtain ⟨kept, inserted, more⟩ := exists_insert_ofColumns last.1 last.2 before
      refine ⟨kept, ?_, ?_⟩
      · rw [← inserted, ← made]
        simp [ofPairs, ofColumns]
      · intro name member
        rcases List.mem_cons.mp (more member) with rfl | inBefore
        · simp
        · have known := names inBefore
          simp only [List.map_append, List.mem_append]
          exact .inl known

end Value

namespace Model

/-! ## Casts -/

/-- The value of a column after the cast that is named for it; nothing stays nothing. -/
def convert (casts : List (String × Value.Cast)) (column : String × Value) : Except Fault Value :=
  match casts.lookup column.1 with
  | some cast => if column.2.isNone then .ok column.2 else cast.apply column.2
  | none => .ok column.2

/-- The columns after their casts. -/
def convertAll (casts : List (String × Value.Cast)) (columns : List (String × Value)) :
    List (String × Value) :=
  columns.map fun column => (column.1, (convert casts column).toOption.getD .none)

/-- A cast for another column does not matter. -/
theorem convert_cons_of_ne
    {name : String}
    {column : String × Value}
    (other : column.1 ≠ name)
    (cast : Value.Cast)
    (casts : List (String × Value.Cast)) :
    convert ((name, cast) :: casts) column = convert casts column := by
  have apart : (column.1 == name) = false := by simpa using other
  simp only [convert, List.lookup_cons, apart]

/-- A column for which there is no cast keeps its value. -/
theorem convert_of_notMem
    {name : String}
    {casts : List (String × Value.Cast)}
    (absent : name ∉ casts.map Prod.fst)
    (value : Value) :
    convert casts (name, value) = .ok value := by
  have missing : casts.lookup name = none := by
    rw [← Option.not_isSome_iff_eq_none, Value.isSome_lookup_iff]
    exact absent
  simp only [convert, missing]

/-- After the first cast the others make of each column what all of them make of the column before
it. -/
theorem applyCasts_cons
    {name : String}
    {cast : Value.Cast}
    {casts : List (String × Value.Cast)}
    (absent : name ∉ casts.map Prod.fst)
    {columns : List (String × Value)}
    (distinct : (columns.map Prod.fst).Nodup)
    (converts : ∀ column ∈ columns, ∃ value, convert ((name, cast) :: casts) column = .ok value) :
    ∃ f : String × Value → String × Value,
      applyCasts ((name, cast) :: casts) (Value.ofColumns columns) =
          applyCasts casts (Value.ofColumns (columns.map f)) ∧
        ∀ column ∈ columns, (f column).1 = column.1 ∧
          convert casts (f column) = convert ((name, cast) :: casts) column := by
  rw [applyCasts, Value.lookup_ofColumns]
  cases found : columns.lookup name with
  | none =>
      refine ⟨id, by rw [List.map_id], fun column member => ⟨rfl, ?_⟩⟩
      have other := List.lookup_eq_none_iff.mp found column member
      rw [bne_iff_ne] at other
      exact (convert_cons_of_ne other.symm cast casts).symm
  | some value =>
      have member : (name, value) ∈ columns := by
        obtain ⟨before, after, rfl, _⟩ := List.lookup_eq_some_iff.mp found
        simp
      have only : ∀ column ∈ columns, column.1 = name → column = (name, value) :=
        fun column listed same => List.inj_on_of_nodup_map distinct listed member same
      by_cases nothing : value.isNone
      · refine ⟨id, by simp [nothing], fun column listed => ⟨rfl, ?_⟩⟩
        by_cases same : column.1 = name
        · rw [only column listed same, id, convert_of_notMem absent]
          simp [convert, nothing]
        · exact (convert_cons_of_ne same cast casts).symm
      · have own : convert ((name, cast) :: casts) (name, value) = cast.apply value := by
          simp [convert, nothing]
        obtain ⟨result, converted⟩ := converts _ member
        refine ⟨Value.setColumn name result, ?_, ?_⟩
        · have inserted :=
            Value.insert_ofColumns distinct (List.mem_map_of_mem member) result
          rw [own] at converted
          simp [nothing, converted, inserted, bind, Except.bind]
        · intro column listed
          by_cases same : column.1 = name
          · rw [Value.setColumn, if_pos same, convert_of_notMem absent, only column listed same,
              converted]
            exact ⟨rfl, rfl⟩
          · rw [Value.setColumn, if_neg same]
            exact ⟨rfl, (convert_cons_of_ne same cast casts).symm⟩

/-- Casts that all succeed are applied to the columns of their names. -/
theorem applyCasts_ofColumns
    {casts : List (String × Value.Cast)}
    (once : (casts.map Prod.fst).Nodup)
    {columns : List (String × Value)}
    (distinct : (columns.map Prod.fst).Nodup)
    (converts : ∀ column ∈ columns, ∃ value, convert casts column = .ok value) :
    applyCasts casts (Value.ofColumns columns) =
      .ok (Value.ofColumns (convertAll casts columns)) := by
  induction casts generalizing columns with
  | nil =>
      have unchanged : convertAll [] columns = columns := List.map_id' columns
      rw [unchanged]
      rfl
  | cons first rest inductionHypothesis =>
      rcases first with ⟨name, cast⟩
      rw [List.map_cons, List.nodup_cons] at once
      obtain ⟨f, applied, step⟩ := applyCasts_cons once.1 distinct converts
      have names : (columns.map f).map Prod.fst = columns.map Prod.fst := by
        rw [List.map_map]
        exact List.map_congr_left fun column member => (step column member).1
      have all : convertAll rest (columns.map f) = convertAll ((name, cast) :: rest) columns := by
        rw [convertAll, List.map_map]
        apply List.map_congr_left
        intro column member
        rw [Function.comp_apply, (step column member).1, (step column member).2]
      rw [applied, ← all]
      apply inductionHypothesis once.2 (names ▸ distinct)
      intro after listed
      obtain ⟨column, member, rfl⟩ := List.mem_map.mp listed
      rw [(step column member).2]
      exact converts column member

/-! ## Names of attributes -/

/-- All names of columns but one can be those of attributes. -/
theorem checkAttributes_ofColumns (columns : List (String × Value)) :
    checkAttributes (Value.ofColumns columns) =
      if "self" ∈ columns.map Prod.fst then .error Value.wrongType else .ok () := by
  induction columns with
  | nil => rfl
  | cons first rest inductionHypothesis =>
      rcases first with ⟨name, value⟩
      have step : checkAttributes (Value.ofColumns ((name, value) :: rest)) =
          (if name = "self" then .error Value.wrongType else .ok ()) >>=
            fun _ => checkAttributes (Value.ofColumns rest) := by
        rfl
      rw [step, inductionHypothesis]
      simp only [List.map_cons, List.mem_cons]
      by_cases same : name = "self"
      · simp [same, bind, Except.bind]
      · have other : "self" ≠ name := Ne.symm same
        simp only [same, other, if_false, false_or, bind, Except.bind]

/-- The attributes can be given back unless one of them hides the operation that does so. -/
theorem toDict_ofColumns
    (model : Model)
    (columns : List (String × Value)) :
    Instance.toDict ⟨model, Value.ofColumns columns⟩ =
      if "to_dict" ∈ columns.map Prod.fst then .error Value.wrongType
      else .ok (Value.ofColumns columns) := by
  unfold Instance.toDict Instance.attribute?
  simp only [Value.lookup_ofColumns, Value.isSome_lookup_iff]

/-! ## Instances -/

/-- Each column of a row becomes an attribute of the same name at the same place, with its value
cast where there is a cast for it and it is not nothing.  One name is refused, and one hides the
operation that gives the attributes back. -/
theorem hydrate_ofColumns
    {model : Model}
    (once : (model.casts.map Prod.fst).Nodup)
    {columns : List (String × Value)}
    (distinct : (columns.map Prod.fst).Nodup)
    (converts : ∀ column ∈ columns, ∃ value, convert model.casts column = .ok value) :
    ∃ attributes,
      List.Forall₂
          (fun column kept => kept.1 = column.1 ∧ convert model.casts column = .ok kept.2)
          columns attributes ∧
        model.hydrate (.dict (Value.ofColumns columns)) =
          (if "self" ∈ columns.map Prod.fst then .error Value.wrongType
          else .ok ⟨model, Value.ofColumns attributes⟩) ∧
        Instance.toDict ⟨model, Value.ofColumns attributes⟩ =
          if "to_dict" ∈ columns.map Prod.fst then .error Value.wrongType
          else .ok (Value.ofColumns attributes) := by
  have names : (convertAll model.casts columns).map Prod.fst = columns.map Prod.fst := by
    rw [convertAll, List.map_map]
    rfl
  refine ⟨convertAll model.casts columns, ?_, ?_, ?_⟩
  · rw [convertAll, List.forall₂_map_right_iff, List.forall₂_same]
    intro column member
    obtain ⟨value, converted⟩ := converts column member
    exact ⟨rfl, by rw [converted]; rfl⟩
  · have entries : (Value.dict (Value.ofColumns columns)).toDict = .ok (Value.ofColumns columns) :=
      rfl
    unfold hydrate
    rw [entries]
    simp only [bind, Except.bind, applyCasts_ofColumns once distinct converts,
      checkAttributes_ofColumns, names]
    by_cases taken : "self" ∈ columns.map Prod.fst
    · simp only [taken, if_true]
    · simp only [taken, if_false]
      rfl
  · rw [toDict_ofColumns, names]

/-- A model whose ages, heights and cities are cast. -/
def castStaff : Model where
  name := "Staff"
  table := .text "staff"
  casts := [("age", .integer), ("height", .float), ("city", .text)]

/-- A row without a height, in which two columns have names of attributes of the model. -/
def staffRow : List (String × Value) :=
  [("pk", .text "7"), ("age", .text " 42 "), ("city", .none), ("casts", .none)]

/-- Only the age is cast, and all columns are there. -/
theorem hydrate_ofColumns_staff :
    let attributes : List (String × Value) :=
      [("pk", .text "7"), ("age", .int 42), ("city", .none), ("casts", .none)]
    castStaff.hydrate (.dict (Value.ofColumns staffRow)) =
        .ok ⟨castStaff, Value.ofColumns attributes⟩ ∧
      Instance.toDict ⟨castStaff, Value.ofColumns attributes⟩ =
        .ok (Value.ofColumns attributes) := by
  intro attributes
  have once : (castStaff.casts.map Prod.fst).Nodup := by decide
  have distinct : (staffRow.map Prod.fst).Nodup := by decide
  have converts : ∀ column ∈ staffRow, ∃ value, convert castStaff.casts column = .ok value := by
    simp only [staffRow, List.forall_mem_cons]
    exact ⟨⟨_, rfl⟩, ⟨_, rfl⟩, ⟨_, rfl⟩, ⟨_, rfl⟩, by simp⟩
  obtain ⟨found, kept, hydrated, shown⟩ := hydrate_ofColumns once distinct converts
  have same : found = attributes := by
    simp only [staffRow, List.forall₂_cons_left_iff, List.forall₂_nil_left_iff] at kept
    obtain ⟨⟨_, _⟩, _, ⟨rfl, key⟩, ⟨⟨_, _⟩, _, ⟨rfl, age⟩, ⟨⟨_, _⟩, _, ⟨rfl, city⟩,
      ⟨⟨_, _⟩, _, ⟨rfl, casts⟩, rfl, rfl⟩, rfl⟩, rfl⟩, rfl⟩ := kept
    obtain rfl := Except.ok.inj key
    obtain rfl := Except.ok.inj age
    obtain rfl := Except.ok.inj city
    obtain rfl := Except.ok.inj casts
    rfl
  subst same
  exact ⟨hydrated, shown⟩

/-- A column can take the name of the instance itself, or hide an operation. -/
theorem not_hydrate_ofColumns :
    castStaff.hydrate (.dict (Value.ofColumns [("self", .int 1)])) =
        .error Value.wrongType ∧
      ∃ found, castStaff.hydrate (.dict (Value.ofColumns [("to_dict", .int 1)])) =
          .ok found ∧
        found.toDict = .error Value.wrongType :=
  ⟨rfl, _, rfl, rfl⟩

end Model
end TableQuery
