import TableQuery.Proofs.Equality

/-!
# Attributes of instances

The attributes of an instance of a row have the names of the columns of the row.  Two of these
names hide what the instance is asked for itself: a column can take the place of the name of the
key column, and a column can take the place of the operation that gives the attributes.  Under all
other names the key, the text and the equality of instances are those of their columns.
-/

namespace TableQuery

/-! ## Columns -/

namespace Value

/-- A key other than a text finds no column. -/
theorem lookup_columns
    (key : Value)
    (columns : List (String × Value)) :
    lookup key (ofColumns columns) = key.asText?.bind fun name => columns.lookup name := by
  have named (name : String) (same : ∀ other, equal key (.text other) = (name == other)) :
      lookup key (ofColumns columns) = columns.lookup name := by
    rw [← lookup_ofColumns, lookup, lookup, ofColumns, List.find?_map, List.find?_map]
    simp only [Function.comp_def, same, equal_text]
  have unnamed (missed : ∀ other, equal key (.text other) = false) :
      lookup key (ofColumns columns) = Option.none := by
    rw [lookup, ofColumns, List.find?_map]
    simp [Function.comp_def, missed]
  cases key with
  | text name => exact named name (equal_text name)
  | direction given =>
      refine named given.keyword fun other => ?_
      rw [← equal_text]
      rfl
  | float number =>
      refine unnamed fun other => ?_
      cases number <;> rfl
  | _ => exact unnamed fun other => by rfl

theorem isSettled_ofColumns
    {columns : List (String × Value)}
    {entry : Value × Value}
    (member : entry ∈ ofColumns columns) :
    entry.1.IsSettled := by
  obtain ⟨column, _, rfl⟩ := List.mem_map.mp member
  exact isSettled_text column.1

theorem keysApart_ofColumns
    {columns : List (String × Value)}
    (distinct : (columns.map Prod.fst).Nodup) :
    KeysApart (ofColumns columns) := by
  rw [List.Nodup, List.pairwise_map] at distinct
  rw [KeysApart, ofColumns, List.pairwise_map]
  exact distinct.imp fun other => by simpa [equal_text] using other

/-- Columns as dictionaries are equal if there are equal values, or none, under each name. -/
theorem equal_ofColumns_iff
    {columns others : List (String × Value)}
    (distinct : (columns.map Prod.fst).Nodup)
    (distinct' : (others.map Prod.fst).Nodup) :
    equal (.dict (ofColumns columns)) (.dict (ofColumns others)) ↔
      ∀ name, Option.Rel (fun value other => equal value other)
        (columns.lookup name) (others.lookup name) := by
  rw [equal_dict_iff_lookup (fun _ => isSettled_ofColumns) (keysApart_ofColumns distinct)
    (fun _ => isSettled_ofColumns) (keysApart_ofColumns distinct')]
  simp only [lookup_columns]
  constructor
  · intro related name
    exact related (.text name) (isSettled_text name)
  · intro related key _
    cases key.asText? with
    | none => exact .none
    | some name => exact related name

end Value

namespace Model

/-- Casts change neither the names of columns nor their order. -/
theorem exists_ofColumns_of_applyCasts
    {casts : List (String × Value.Cast)}
    {columns : List (String × Value)}
    (distinct : (columns.map Prod.fst).Nodup)
    {entries : List (Value × Value)}
    (applied : applyCasts casts (Value.ofColumns columns) = .ok entries) :
    ∃ converted, entries = Value.ofColumns converted ∧
      converted.map Prod.fst = columns.map Prod.fst := by
  induction casts generalizing columns with
  | nil => exact ⟨columns, (Except.ok.inj applied).symm, rfl⟩
  | cons first rest inductionHypothesis =>
      obtain ⟨name, cast⟩ := first
      rw [applyCasts, Value.lookup_ofColumns] at applied
      cases found : columns.lookup name with
      | none =>
          simp only [found] at applied
          exact inductionHypothesis distinct applied
      | some value =>
          simp only [found] at applied
          split at applied
          · exact inductionHypothesis distinct applied
          · obtain ⟨result, _, continued⟩ := Except.bind_eq_ok_iff.mp applied
            have present : name ∈ columns.map Prod.fst := by
              rw [← Value.isSome_lookup_iff, found]
              rfl
            have names : (columns.map (Value.setColumn name result)).map Prod.fst =
                columns.map Prod.fst := by
              rw [List.map_map]
              refine List.map_congr_left fun column _ => ?_
              rw [Function.comp_apply, Value.setColumn]
              split
              · next same => exact same.symm
              · rfl
            rw [Value.insert_ofColumns distinct present] at continued
            rw [← names]
            exact inductionHypothesis (names ▸ distinct) continued

end Model

namespace Instance

/-- Whether an instance is made of a row whose columns have distinct names. -/
def IsHydrated (self : Instance) : Prop :=
  ∃ row columns, row.toDict = .ok (Value.ofColumns columns) ∧ (columns.map Prod.fst).Nodup ∧
    self.model.hydrate row = .ok self

/-- The attributes of an instance of a row are columns of distinct names. -/
theorem IsHydrated.exists_columns
    {self : Instance}
    (hydrated : self.IsHydrated) :
    ∃ columns, self.attributes = Value.ofColumns columns ∧ (columns.map Prod.fst).Nodup := by
  obtain ⟨row, columns, read, distinct, made⟩ := hydrated
  simp only [Model.hydrate, read, Except.bind_eq_ok_iff] at made
  obtain ⟨entries, same, converted, applied, _, _, whole⟩ := made
  obtain rfl := Except.ok.inj same
  obtain ⟨after, rfl, names⟩ := Model.exists_ofColumns_of_applyCasts distinct applied
  refine ⟨after, ?_, names ▸ distinct⟩
  rw [← Except.ok.inj whole]

variable {self : Instance} {columns : List (String × Value)}

theorem attribute?_eq_lookup
    (named : self.attributes = Value.ofColumns columns)
    (name : String) :
    self.attribute? name = columns.lookup name := by
  rw [attribute?, named, Value.lookup_ofColumns]

/-- The value under a key is that of the column whose name the key is. -/
theorem lookup_attributes
    (named : self.attributes = Value.ofColumns columns)
    (key : Value) :
    Value.lookup key self.attributes = key.asText?.bind self.attribute? := by
  rw [named, Value.lookup_columns]
  congr 1
  funext name
  rw [attribute?_eq_lookup named]

/-- The key of an instance is the value of the column that its key field names. -/
theorem IsHydrated.key_eq
    (hydrated : self.IsHydrated) :
    self.key = self.keyField.hashAtoms >>= fun _ =>
      .ok ((self.keyField.asText?.bind self.attribute?).getD .none) := by
  obtain ⟨columns, named, _⟩ := hydrated.exists_columns
  rw [key, lookup_attributes named]
  rfl

/-- Instances of one class whose columns hide no operation are compared by their attributes. -/
theorem equal_of_shown
    {other : Instance}
    (class' : self.model.identity = other.model.identity)
    (shown : self.attribute? "to_dict" = none)
    (shown' : other.attribute? "to_dict" = none)
    (same : Bool) :
    equal same self other =
      .ok (same || Value.equal (.dict self.attributes) (.dict other.attributes)) := by
  simp [equal, toDict, class', shown, shown', bind, Except.bind, pure, Except.pure]

/-- Such instances of rows are equal where both have equal values, or none, in every column. -/
theorem IsHydrated.equal_iff
    {other : Instance}
    (hydrated : self.IsHydrated)
    (hydrated' : other.IsHydrated)
    (class' : self.model.identity = other.model.identity)
    (shown : self.attribute? "to_dict" = none)
    (shown' : other.attribute? "to_dict" = none)
    (same : Bool) :
    ∃ answer, equal same self other = .ok answer ∧
      (answer ↔ same ∨ ∀ name, Option.Rel (fun value another => Value.equal value another)
        (self.attribute? name) (other.attribute? name)) := by
  obtain ⟨columns, named, distinct⟩ := hydrated.exists_columns
  obtain ⟨others, named', distinct'⟩ := hydrated'.exists_columns
  refine ⟨_, equal_of_shown class' shown shown' same, ?_⟩
  rw [Bool.or_eq_true, named, named', Value.equal_ofColumns_iff distinct distinct']
  simp only [attribute?_eq_lookup named, attribute?_eq_lookup named']

/-- The helpers of an instance of a row.  Its key is the value of the key column of its model, its
text shows the model with that column and value, and it equals an instance of its class exactly
where both have equal values, or none, in every column.  A column `pk_field` takes the place of the
name of the key column, and a column `to_dict` that of the operation by which instances are
compared. -/
theorem helpers_of_isHydrated
    (hydrated : self.IsHydrated)
    {field : String}
    (keyed : self.model.primaryKey = .text field) :
    (self.attribute? "pk_field" = none →
      self.key = .ok ((self.attribute? field).getD .none) ∧
        self.repr = .ok ("<" ++ self.model.name ++ " " ++ field ++ "=" ++
          ((self.attribute? field).getD .none).repr ++ ">")) ∧
      (∀ hidden, self.attribute? "pk_field" = some hidden →
        self.key = (hidden.hashAtoms >>= fun _ =>
          .ok ((hidden.asText?.bind self.attribute?).getD .none)) ∧
        self.repr = self.key >>= fun key => .ok ("<" ++ self.model.name ++ " " ++
          hidden.display ++ "=" ++ key.repr ++ ">")) ∧
      ∀ other : Instance, other.IsHydrated → self.model.identity = other.model.identity →
        ∀ same : Bool,
          ((self.attribute? "to_dict").isSome ∨ (other.attribute? "to_dict").isSome →
            equal same self other = .error Value.wrongType) ∧
          (self.attribute? "to_dict" = none → other.attribute? "to_dict" = none →
            ∃ answer, equal same self other = .ok answer ∧
              (answer ↔ same ∨ ∀ name, Option.Rel (fun value another => Value.equal value another)
                (self.attribute? name) (other.attribute? name))) := by
  refine ⟨?_, ?_, ?_⟩
  · intro plain
    have own : self.keyField = .text field := by rw [keyField, plain, keyed, Option.getD_none]
    have key : self.key = .ok ((self.attribute? field).getD .none) := by
      rw [hydrated.key_eq, own]
      rfl
    refine ⟨key, ?_⟩
    rw [repr, key, own]
    rfl
  · intro hidden found
    have own : self.keyField = hidden := by rw [keyField, found, Option.getD_some]
    refine ⟨by rw [hydrated.key_eq, own], ?_⟩
    rw [repr, own]
    rfl
  · intro other hydrated' class' same
    refine ⟨?_, fun shown shown' => hydrated.equal_iff hydrated' class' shown shown' same⟩
    intro hides
    simp only [equal, class', ne_eq, not_true_eq_false, if_false, toDict]
    by_cases own : (self.attribute? "to_dict").isSome
    · rw [if_pos own]
      rfl
    · rw [if_neg own, if_pos (hides.resolve_left own)]
      rfl

/-- A model of notes. -/
def noteModel : Model where
  name := "Note"
  table := .text "notes"

/-- A note with columns that have names of attributes and operations of its model. -/
def namedNote : Instance where
  model := noteModel
  attributes := Value.ofColumns [("id", .int 7), ("pk", .text "alpha"), ("repr", .none),
    ("casts", .list [.bool true])]

/-- The same note with its columns in another order and a number in the place of a truth value. -/
def equalNote : Instance where
  model := noteModel
  attributes := Value.ofColumns [("casts", .list [.int 1]), ("repr", .none),
    ("id", .int 7), ("pk", .text "alpha")]

theorem isHydrated_namedNote : namedNote.IsHydrated :=
  ⟨.dict namedNote.attributes, _, rfl, by decide, rfl⟩

theorem isHydrated_equalNote : equalNote.IsHydrated :=
  ⟨.dict equalNote.attributes, _, rfl, by decide, rfl⟩

/-- The names of the columns of the two notes do not disturb what the notes are asked for. -/
theorem helpers_of_namedNote :
    namedNote.IsHydrated ∧ equalNote.IsHydrated ∧
      namedNote.key = .ok (.int 7) ∧ namedNote.repr = .ok "<Note id=7>" ∧
      equal false namedNote equalNote = .ok true ∧
      ∀ name, Option.Rel (fun value another => Value.equal value another)
        (namedNote.attribute? name) (equalNote.attribute? name) := by
  obtain ⟨plain, _, compared⟩ := helpers_of_isHydrated isHydrated_namedNote rfl
  obtain ⟨key, text⟩ := plain rfl
  obtain ⟨answer, answered, meaning⟩ :=
    (compared equalNote isHydrated_equalNote rfl false).2 rfl rfl
  have equals : equal false namedNote equalNote = .ok true := rfl
  obtain rfl := Except.ok.inj (answered.symm.trans equals)
  exact ⟨isHydrated_namedNote, isHydrated_equalNote, key, text, equals,
    (meaning.mp rfl).resolve_left (by decide)⟩

/-- A note with a column that names another key column. -/
def hiddenNote : Instance where
  model := noteModel
  attributes := Value.ofColumns [("id", .int 7), ("pk_field", .text "name"), ("name", .text "Ana")]

/-- A note with a column in the place of the operation that gives its attributes. -/
def silentNote : Instance where
  model := noteModel
  attributes := Value.ofColumns [("id", .int 7), ("to_dict", .int 1)]

/-- A column can change the key and the text of an instance, and a column can keep an instance from
being compared. -/
theorem not_helpers_of_hidden :
    hiddenNote.IsHydrated ∧ noteModel.primaryKey = .text "id" ∧
      hiddenNote.attribute? "id" = some (.int 7) ∧ hiddenNote.key = .ok (.text "Ana") ∧
      hiddenNote.repr = .ok "<Note name='Ana'>" ∧
      silentNote.IsHydrated ∧ equal false silentNote silentNote = .error Value.wrongType :=
  ⟨⟨.dict hiddenNote.attributes, _, rfl, by decide, rfl⟩, rfl, rfl, rfl, rfl,
    ⟨.dict silentNote.attributes, _, rfl, by decide, rfl⟩, rfl⟩

end Instance
end TableQuery
