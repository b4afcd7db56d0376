import TableQuery.Proofs.Attributes

/-!
# Making instances of instances

A value that a cast has given is what the cast gives of it again, so casts leave alone what casts
have made.  The attributes of an instance therefore are a row of the same instance.
-/

namespace TableQuery
namespace Value

/-! ## Columns and their values -/

/-- A column is found by its name, whether the name is a text or the keyword of a direction. -/
theorem equal_text_iff
    {name : String}
    {key : Value} :
    equal (.text name) key ↔ key.asText? = some name := by
  simp [equal]

/-- A value that has been set is found, and the other columns keep theirs. -/
theorem lookup_insert
    (name other : String)
    (value : Value)
    (entries : List (Value × Value)) :
    lookup (.text other) (insert (.text name) value entries) =
      if other = name then some value else lookup (.text other) entries := by
  induction entries with
  | nil =>
      by_cases same : other = name <;> simp [insert, lookup, equal_text, same]
  | cons first rest inductionHypothesis =>
      obtain ⟨key, old⟩ := first
      unfold lookup at inductionHypothesis ⊢
      rw [insert]
      by_cases own : equal (.text name) key
      · have named := equal_text_iff.mp own
        by_cases same : other = name
        · simp [same, own]
        · have apart : equal (.text other) key = false := by
            rw [Bool.eq_false_iff, ne_eq, equal_text_iff, named]
            simpa using Ne.symm same
          simp [own, same, apart]
      · rw [if_neg own, List.find?_cons, List.find?_cons]
        by_cases found : equal (.text other) key
        · have different : other ≠ name := by
            rintro rfl
            exact own found
          simp [found, different]
        · simpa [found] using inductionHypothesis

/-- To set the value that a column has changes nothing. -/
theorem insert_of_lookup
    {name : String}
    {value : Value}
    {entries : List (Value × Value)}
    (found : lookup (.text name) entries = some value) :
    insert (.text name) value entries = entries := by
  induction entries with
  | nil => simp [lookup] at found
  | cons first rest inductionHypothesis =>
      obtain ⟨key, old⟩ := first
      unfold lookup at inductionHypothesis found
      rw [List.find?_cons] at found
      rw [insert]
      by_cases own : equal (.text name) key
      · have same : old = value := by simpa [own] using found
        rw [if_pos own, same]
      · rw [if_neg own, inductionHypothesis (by simpa [own] using found)]

/-- A column that is there keeps its name and its place when its value is set. -/
theorem keys_insert
    {name : String}
    {entries : List (Value × Value)}
    (present : (lookup (.text name) entries).isSome)
    (value : Value) :
    (insert (.text name) value entries).map Prod.fst = entries.map Prod.fst := by
  induction entries with
  | nil => simp [lookup] at present
  | cons first rest inductionHypothesis =>
      obtain ⟨key, old⟩ := first
      unfold lookup at inductionHypothesis present
      rw [List.find?_cons] at present
      rw [insert]
      by_cases own : equal (.text name) key
      · rw [if_pos own]
        rfl
      · rw [if_neg own, List.map_cons, List.map_cons,
          inductionHypothesis (by simpa [own] using present)]

/-- Whether there is a column of a name depends on the names of the columns only. -/
theorem isSome_lookup_congr
    {entries others : List (Value × Value)}
    (names : entries.map Prod.fst = others.map Prod.fst)
    (key : Value) :
    (lookup key entries).isSome = (lookup key others).isSome := by
  have any (row : List (Value × Value)) :
      (lookup key row).isSome = (row.map Prod.fst).any (equal key) := by
    rw [Bool.eq_iff_iff]
    simp [lookup]
  rw [any, any, names]

/-- What a cast gives is what it gives of that again. -/
theorem Cast.apply_of_apply
    {cast : Cast}
    {value result : Value}
    (converted : cast.apply value = .ok result) :
    cast.apply result = .ok result := by
  cases cast with
  | integer =>
      obtain ⟨number, _, made⟩ := Except.bind_eq_ok_iff.mp converted
      obtain rfl := Except.ok.inj made
      rfl
  | float =>
      obtain ⟨number, _, made⟩ := Except.bind_eq_ok_iff.mp converted
      obtain rfl := Except.ok.inj made
      rfl
  | text =>
      obtain ⟨content, _, made⟩ := Except.bind_eq_ok_iff.mp converted
      obtain rfl := Except.ok.inj made
      rfl
  | truth =>
      obtain rfl := Except.ok.inj converted
      rfl

end Value

namespace Model

/-! ## Casts -/

/-- Whether a cast leaves the value of a column alone, if there is one. -/
def IsFixed (column : String) (cast : Value.Cast) (entries : List (Value × Value)) : Prop :=
  ∀ value, Value.lookup (.text column) entries = some value →
    value.isNone ∨ cast.apply value = .ok value

/-- What a cast that succeeds does: its column is fixed by it, and nothing else changes. -/
theorem exists_of_applyCasts_cons
    {column : String}
    {cast : Value.Cast}
    {casts : List (String × Value.Cast)}
    {entries converted : List (Value × Value)}
    (applied : applyCasts ((column, cast) :: casts) entries = .ok converted) :
    ∃ middle, applyCasts casts middle = .ok converted ∧ IsFixed column cast middle ∧
      middle.map Prod.fst = entries.map Prod.fst ∧
      ∀ other, other ≠ column →
        Value.lookup (.text other) middle = Value.lookup (.text other) entries := by
  rw [applyCasts] at applied
  cases found : Value.lookup (.text column) entries with
  | none =>
      simp only [found] at applied
      exact ⟨entries, applied, by simp [IsFixed, found], rfl, fun _ _ => rfl⟩
  | some value =>
      simp only [found] at applied
      by_cases nothing : value.isNone
      · rw [if_pos nothing] at applied
        exact ⟨entries, applied, by simp [IsFixed, found, nothing], rfl, fun _ _ => rfl⟩
      · rw [if_neg nothing] at applied
        obtain ⟨result, made, continued⟩ := Except.bind_eq_ok_iff.mp applied
        refine ⟨_, continued, ?_, Value.keys_insert (by simp [found]) result, ?_⟩
        · intro kept known
          rw [Value.lookup_insert, if_pos rfl] at known
          obtain rfl := Option.some.inj known
          exact .inr (Value.Cast.apply_of_apply made)
        · intro other different
          rw [Value.lookup_insert, if_neg different]

/-- Casts that leave their columns alone leave the row alone. -/
theorem applyCasts_of_isFixed
    {casts : List (String × Value.Cast)}
    {entries : List (Value × Value)}
    (fixed : ∀ cast ∈ casts, IsFixed cast.1 cast.2 entries) :
    applyCasts casts entries = .ok entries := by
  induction casts with
  | nil => rfl
  | cons first rest inductionHypothesis =>
      obtain ⟨column, cast⟩ := first
      obtain ⟨own, others⟩ := List.forall_mem_cons.mp fixed
      have following := inductionHypothesis others
      rw [applyCasts]
      cases found : Value.lookup (.text column) entries with
      | none => exact following
      | some value =>
          by_cases nothing : value.isNone
          · simp [nothing, following]
          · have same := (own value found).resolve_left nothing
            simp [nothing, same, Value.insert_of_lookup found, following, bind, Except.bind]

/-- After all casts of different columns each of them leaves its column alone.  The names of the
columns stay, and so do the values of the columns without a cast. -/
theorem isFixed_of_applyCasts
    {casts : List (String × Value.Cast)}
    (once : (casts.map Prod.fst).Nodup)
    {entries converted : List (Value × Value)}
    (applied : applyCasts casts entries = .ok converted) :
    (∀ cast ∈ casts, IsFixed cast.1 cast.2 converted) ∧
      converted.map Prod.fst = entries.map Prod.fst ∧
      ∀ name, name ∉ casts.map Prod.fst →
        Value.lookup (.text name) converted = Value.lookup (.text name) entries := by
  induction casts generalizing entries with
  | nil =>
      obtain rfl := Except.ok.inj applied
      exact ⟨by simp, rfl, fun _ _ => rfl⟩
  | cons first rest inductionHypothesis =>
      obtain ⟨column, cast⟩ := first
      rw [List.map_cons, List.nodup_cons] at once
      obtain ⟨middle, continued, own, names, kept⟩ := exists_of_applyCasts_cons applied
      obtain ⟨others, namesAfter, keptAfter⟩ := inductionHypothesis once.2 continued
      refine ⟨?_, namesAfter.trans names, ?_⟩
      · refine List.forall_mem_cons.mpr ⟨?_, others⟩
        intro value found
        exact own value ((keptAfter column once.1).symm.trans found)
      · intro name absent
        rw [List.map_cons, List.mem_cons, not_or] at absent
        rw [keptAfter name absent.2, kept name absent.1]

/-! ## Instances -/

/-- The instance of a row gives its attributes back, unless a column hides this operation.  They are
the columns of the row under the same names and in the same order, and made an instance they are the
same one again. -/
theorem hydrate_toDict
    {model : Model}
    (once : (model.casts.map Prod.fst).Nodup)
    {row : Value}
    {columns : List (Value × Value)}
    (read : row.toDict = .ok columns)
    (shown : Value.lookup (.text "to_dict") columns = none)
    {made : Instance}
    (hydrated : model.hydrate row = .ok made) :
    ∃ attributes, made.toDict = .ok attributes ∧
      attributes.map Prod.fst = columns.map Prod.fst ∧
      model.hydrate (.dict attributes) = .ok made := by
  obtain ⟨entries, same, rest⟩ := Except.bind_eq_ok_iff.mp hydrated
  obtain rfl := Except.ok.inj (read.symm.trans same)
  obtain ⟨converted, applied, checks⟩ := Except.bind_eq_ok_iff.mp rest
  obtain ⟨_, checked, whole⟩ := Except.bind_eq_ok_iff.mp checks
  obtain rfl := Except.ok.inj whole
  obtain ⟨fixed, names, _⟩ := isFixed_of_applyCasts once applied
  have visible : (Value.lookup (.text "to_dict") converted).isSome = false := by
    rw [Value.isSome_lookup_congr names, shown]
    rfl
  refine ⟨converted, ?_, names, ?_⟩
  · simp [Instance.toDict, Instance.attribute?, visible]
  · have again := applyCasts_of_isFixed fixed
    simp [hydrate, Value.toDict, again, checked, bind, Except.bind, pure, Except.pure]

/-- A model with a cast of each type. -/
def scoredStaff : Model where
  name := "Staff"
  table := .text "staff"
  casts := [("age", .integer), ("height", .float), ("active", .truth), ("city", .text),
    ("score", .integer)]

/-- A row in which one column is named by a direction and one value is missing. -/
def scoredRow : List (Value × Value) :=
  [(.text "age", .bytes [32, 52, 50]), (.direction .ascending, .text "up"),
    (.text "height", .text " -Inf "), (.text "active", .text "0"), (.text "city", .bool true),
    (.text "score", .none)]

/-- The attributes of the instance of this row. -/
def scoredAttributes : List (Value × Value) :=
  [(.text "age", .int 42), (.direction .ascending, .text "up"),
    (.text "height", .float (.infinite true)), (.text "active", .bool true),
    (.text "city", .text "True"), (.text "score", .none)]

/-- Values that have been read from texts and bytes are not read again. -/
theorem hydrate_toDict_scored :
    scoredStaff.hydrate (.dict scoredRow) = .ok ⟨scoredStaff, scoredAttributes⟩ ∧
      ∃ attributes, Instance.toDict ⟨scoredStaff, scoredAttributes⟩ = .ok attributes ∧
        attributes.map Prod.fst = scoredRow.map Prod.fst ∧
        scoredStaff.hydrate (.dict attributes) = .ok ⟨scoredStaff, scoredAttributes⟩ := by
  have hydrated : scoredStaff.hydrate (.dict scoredRow) = .ok ⟨scoredStaff, scoredAttributes⟩ := by
    with_unfolding_all rfl
  have once : (scoredStaff.casts.map Prod.fst).Nodup := by decide
  have shown : Value.lookup (.text "to_dict") scoredRow = none := by rfl
  exact ⟨hydrated, hydrate_toDict once rfl shown hydrated⟩

end Model
end TableQuery
