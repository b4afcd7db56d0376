import TableQuery.Fault

/-!
# Environments

An environment binds names of variables to texts.  Where a name is bound more than once, the first
binding counts.
-/

namespace TableQuery

/-- The variables of an environment with their values. -/
abbrev Environment := List (String × String)

namespace Environment

/-- Binds a name to a value. -/
def assign (name value : String) (environment : Environment) : Environment :=
  (name, value) :: environment.filter fun entry => entry.1 ≠ name

/-- The fault of a variable that no environment can hold, if it is one. -/
def refusal? (name value : String) : Option Fault :=
  if name.toList.any (fun c => c = '=' || c = '\x00') || value.toList.any (· = '\x00') then
    some (.refused .value)
  else if name = "" then some (.refused .system)
  else none

/-- Without the entries of a name, every other name is bound as before. -/
theorem lookup_filter_ne
    (environment : Environment)
    (name wanted : String) :
    (environment.filter fun entry => entry.1 ≠ name).lookup wanted =
      if wanted = name then none else environment.lookup wanted := by
  induction environment with
  | nil => simp
  | cons entry rest inductionHypothesis =>
      obtain ⟨other, value⟩ := entry
      by_cases sought : wanted = other
      · subst sought
        by_cases removed : wanted = name
        · simpa [removed] using inductionHypothesis
        · simp [removed]
      · have different : (wanted == other) = false := by simpa using sought
        by_cases removed : other = name
        · simpa [removed, List.lookup_cons, removed ▸ different] using inductionHypothesis
        · simpa [removed, List.lookup_cons, different] using inductionHypothesis

theorem lookup_assign
    (name value : String)
    (environment : Environment)
    (wanted : String) :
    (environment.assign name value).lookup wanted =
      if wanted = name then some value else environment.lookup wanted := by
  unfold assign
  by_cases same : wanted = name
  · simp [same]
  · have different : (wanted == name) = false := by simpa using same
    simp only [List.lookup_cons, different, lookup_filter_ne, same, if_false]

end Environment
end TableQuery
