import TableQuery.Proofs.Pages

/-!
# Bounds

A query takes any value as a bound: what is no count stands for zero, and zero for no bound.  Rows
that are found without bounds are found within any bounds of 64 bits as well.
-/

namespace TableQuery
namespace Builder

open Execution

/-- Fetching does not change what a query asks for. -/
theorem apply_find
    (driver : Driver state)
    (builder : Builder)
    (setting : Setting state) :
    builder.apply driver .find setting =
      let ran := (find driver builder.model builder.spec).runFrom setting
      (builder, ran.1.map .instances, ran.2) := by
  have edited : Call.find.edit builder.spec = .ok builder.spec := rfl
  simp only [apply_of_edit driver edited, Call.answer, ExceptT.runFrom_map]

/-- To set both bounds is to ask for a section, and is never refused. -/
theorem applyAll_bounds
    (driver : Driver state)
    (limit offset : Value)
    (calls : List Call)
    (builder : Builder)
    (setting : Setting state) :
    applyAll driver (.limit limit :: .offset offset :: calls) builder setting =
      let ran := applyAll driver calls
        { builder with spec := builder.spec.sectioned limit.toCount offset.toCount } setting
      (.ok .query :: .ok .query :: ran.1, ran.2) := rfl

/-- Where rows are found without bounds, any two values can be taken as bounds that stand for counts
of 64 bits: the rows are then those of the window. -/
theorem window_of_bounds
    {builder : Builder}
    (collected : ∃ fields, builder.spec.searchFields = .list fields)
    (names : builder.spec.HasPlainNames)
    {setting after : Setting Database.Access}
    {rows : List Instance}
    (found : (find Engine.driver builder.model (builder.spec.sectioned 0 0)).runFrom setting =
      (.ok rows, after))
    {limit offset : Value}
    (smallLimit : limit.toCount < 2 ^ 63)
    (smallOffset : offset.toCount < 2 ^ 63) :
    ∀ start, start = setting ∨ start = after →
      (applyAll Engine.driver [.limit limit, .offset offset, .find] builder start).1 =
        [.ok .query, .ok .query,
          .ok (.instances
            (if limit.toCount = 0 then rows.drop offset.toCount
            else (rows.drop offset.toCount).take limit.toCount))] := by
  intro start known
  have takes := takesStatements_of_found found known
  obtain ⟨last, ran, _⟩ := find_section collected names found smallLimit smallOffset takes.1
  rw [← takes.2] at ran
  rw [applyAll_bounds]
  simp only [applyAll, apply_find, ran]
  rfl

theorem window_of_bounds_romans :
    ∃ rows,
      ((find Engine.driver staffModel (romans.sectioned 0 0)).runFrom
        (quiet.1, accessTo [staffTable])).1 = .ok rows ∧
      (applyAll Engine.driver [.limit (.text " 2 "), .offset (.int (-1)), .find]
          ⟨staffModel, romans⟩ (quiet.1, accessTo [staffTable])).1 =
        [.ok .query, .ok .query, .ok (.instances ((rows.drop 0).take 2))] := by
  obtain ⟨rows, found, _⟩ := found_romans
  have collected : ∃ fields, (Builder.mk staffModel romans).spec.searchFields = .list fields :=
    ⟨[], rfl⟩
  have limit : (Value.text " 2 ").toCount = 2 := by decide +kernel
  have offset : (Value.int (-1)).toCount = 0 := by decide
  have smallLimit : (Value.text " 2 ").toCount < 2 ^ 63 := by
    rw [limit]
    decide
  have smallOffset : (Value.int (-1)).toCount < 2 ^ 63 := by
    rw [offset]
    decide
  have shown := window_of_bounds collected hasPlainNames_romans
    (ExceptT.runFrom_eq_of_fst found) smallLimit smallOffset _ (.inl rfl)
  rw [limit, offset] at shown
  exact ⟨rows, found, shown⟩

/-- A bound of more than 64 bits is refused by the engine, and a name with a backtick cuts off the
bounds. -/
theorem not_window_of_bounds :
    (∃ rows,
      ((find Engine.driver staffModel (romans.sectioned 0 0)).runFrom
        (quiet.1, accessTo [staffTable])).1 = .ok rows ∧
      (applyAll Engine.driver [.limit (.int (2 ^ 63)), .offset .none, .find]
          ⟨staffModel, romans⟩ (quiet.1, accessTo [staffTable])).1.map
            (fun answer => answer.toOption.isSome) = [true, true, false]) ∧
    ∃ rows shown,
      ((find Engine.driver staffModel (cutOff.sectioned 0 0)).runFrom
        (quiet.1, accessTo [staffTable])).1 = .ok rows ∧
      (applyAll Engine.driver [.limit .none, .offset (.int 1), .find]
          ⟨staffModel, cutOff⟩ (quiet.1, accessTo [staffTable])).1 =
        [.ok .query, .ok .query, .ok (.instances shown)] ∧
      shown ≠ rows.drop 1 := by
  constructor
  · obtain ⟨rows, found, _⟩ := found_romans
    exact ⟨rows, found, by decide +kernel⟩
  · obtain ⟨rows, found, one⟩ := found_cutOff
    obtain ⟨shown, again, remains⟩ := Except.exists_of_map_toOption
      (by decide +kernel :
        ((find Engine.driver staffModel (cutOff.sectioned 0 1)).runFrom
          (quiet.1, accessTo [staffTable])).1.toOption.map List.length = some 1)
    refine ⟨rows, shown, found, ?_, ?_⟩
    · have counts : (Value.none).toCount = 0 ∧ (Value.int 1).toCount = 1 := ⟨rfl, rfl⟩
      rw [applyAll_bounds, counts.1, counts.2]
      simp only [applyAll, apply_find, again]
      rfl
    · intro same
      have none : (rows.drop 1).length = 0 := by simp [one]
      rw [← same, remains] at none
      cases none

end Builder
end TableQuery
