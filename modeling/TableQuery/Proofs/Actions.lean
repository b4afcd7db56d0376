import Mathlib.Data.List.Forall2
import TableQuery.World

/-!
# Runs of actions

An action takes a state to a result or a fault and the state after it.  These lemmas run an action
step by step, whatever its faults are.
-/

namespace Except

/-- A result that depends on another one is there if both are. -/
theorem bind_eq_ok_iff
    {first : Except fault α}
    {next : α → Except fault β}
    {result : β} :
    first >>= next = .ok result ↔ ∃ found, first = .ok found ∧ next found = .ok result := by
  cases first <;> simp [bind, Except.bind]

/-- The results of a list are there if each of its members has one. -/
theorem mapM_eq_ok_iff
    {f : α → Except fault β}
    {elements : List α}
    {results : List β} :
    elements.mapM f = .ok results ↔
      List.Forall₂ (fun element result => f element = .ok result) elements results := by
  induction elements generalizing results with
  | nil =>
      rw [List.mapM_nil, List.forall₂_nil_left_iff]
      exact ⟨fun same => (Except.ok.inj same).symm, fun empty => empty ▸ rfl⟩
  | cons first rest inductionHypothesis =>
      rw [List.mapM_cons, List.forall₂_cons_left_iff]
      simp only [bind_eq_ok_iff, inductionHypothesis]
      constructor
      · rintro ⟨result, known, others, following, same⟩
        exact ⟨result, others, known, following, (Except.ok.inj same).symm⟩
      · rintro ⟨result, others, known, following, rfl⟩
        exact ⟨result, known, others, following, rfl⟩

/-- A list that has results has one for each of its members. -/
theorem exists_result_of_mapM
    {f : α → Except fault β}
    {elements : List α}
    {results : List β}
    (known : elements.mapM f = .ok results)
    {element : α}
    (member : element ∈ elements) :
    ∃ result ∈ results, f element = .ok result := by
  have related := mapM_eq_ok_iff.mp known
  clear known
  induction related with
  | nil => simp at member
  | cons first _ inductionHypothesis =>
      rcases List.mem_cons.mp member with rfl | inRest
      · exact ⟨_, List.mem_cons_self, first⟩
      · obtain ⟨result, listed, found⟩ := inductionHypothesis inRest
        exact ⟨result, List.mem_cons_of_mem _ listed, found⟩

/-- The results of a list are not there because of its first member without one. -/
theorem mapM_eq_error_iff
    {f : α → Except fault β}
    {elements : List α}
    {cause : fault} :
    elements.mapM f = .error cause ↔
      ∃ earlier element later, elements = earlier ++ element :: later ∧
        (∀ other ∈ earlier, ∃ result, f other = .ok result) ∧ f element = .error cause := by
  induction elements with
  | nil => simp [pure, Except.pure]
  | cons first rest inductionHypothesis =>
      simp only [List.mapM_cons, List.cons_eq_append_iff]
      cases outcome : f first with
      | error known =>
          constructor
          · intro failed
            obtain rfl : known = cause := Except.error.inj failed
            exact ⟨[], first, rest, .inl ⟨rfl, rfl⟩, by simp, outcome⟩
          · rintro ⟨earlier, element, later, ⟨rfl, whole⟩ | ⟨others, rfl, _⟩, before, failed⟩
            · obtain ⟨rfl, rfl⟩ := List.cons.inj whole
              rw [← outcome, failed]
              rfl
            · obtain ⟨result, succeeded⟩ := before first List.mem_cons_self
              simp [outcome] at succeeded
      | ok result =>
          have following : (Except.ok result >>= fun head => do
              return head :: (← rest.mapM f)) = .error cause ↔
                rest.mapM f = .error cause := by
            cases rest.mapM f <;> simp [bind, Except.bind, pure, Except.pure]
          rw [following, inductionHypothesis]
          constructor
          · rintro ⟨earlier, element, later, split, before, failed⟩
            refine ⟨first :: earlier, element, later, .inr ⟨earlier, rfl, split⟩, ?_, failed⟩
            simpa [outcome] using before
          · rintro ⟨earlier, element, later, ⟨rfl, whole⟩ | ⟨others, rfl, split⟩, before, failed⟩
            · obtain ⟨rfl, rfl⟩ := List.cons.inj whole
              simp [outcome] at failed
            · exact ⟨others, element, later, split,
                fun other member => before other (List.mem_cons_of_mem _ member), failed⟩

/-- A list has results if each of its members has one. -/
theorem exists_mapM_eq_ok
    {f : α → Except fault β}
    {elements : List α}
    (each : ∀ element ∈ elements, ∃ result, f element = .ok result) :
    ∃ results, elements.mapM f = .ok results := by
  cases outcome : elements.mapM f with
  | ok results => exact ⟨results, rfl⟩
  | error cause =>
      obtain ⟨_, element, _, rfl, _, failed⟩ := mapM_eq_error_iff.mp outcome
      obtain ⟨result, succeeded⟩ := each element (by simp)
      cases failed.symm.trans succeeded

/-- What is known of the result of an outcome is known of the outcome. -/
theorem exists_of_map_toOption
    {outcome : Except fault α}
    {f : α → β}
    {image : β}
    (known : outcome.toOption.map f = some image) :
    ∃ result, outcome = .ok result ∧ f result = image := by
  cases outcome with
  | error cause => simp [Except.toOption] at known
  | ok result => exact ⟨result, rfl, Option.some.inj known⟩

end Except

namespace ExceptT

variable {fault state : Type}

/-- The result of an action and the state after it. -/
def runFrom (action : ExceptT fault (StateM state) α) (before : state) : Except fault α × state :=
  action.run.run before

theorem run_run
    (action : ExceptT fault (StateM state) α)
    (before : state) :
    action.run.run before = action.runFrom before := rfl

theorem runFrom_eq_of_fst
    {action : ExceptT fault (StateM state) α}
    {before : state}
    {outcome : Except fault α}
    (known : (action.runFrom before).1 = outcome) :
    action.runFrom before = (outcome, (action.runFrom before).2) :=
  Prod.ext known rfl

@[simp] theorem runFrom_pure
    (result : α)
    (before : state) :
    (pure result : ExceptT fault (StateM state) α).runFrom before = (.ok result, before) := rfl

@[simp] theorem runFrom_throw
    (cause : fault)
    (before : state) :
    (throw cause : ExceptT fault (StateM state) α).runFrom before = (.error cause, before) := rfl

theorem runFrom_bind
    (action : ExceptT fault (StateM state) α)
    (next : α → ExceptT fault (StateM state) β)
    (before : state) :
    (action >>= next).runFrom before =
      match action.runFrom before with
      | (.ok result, after) => (next result).runFrom after
      | (.error cause, after) => (.error cause, after) := by
  simp only [runFrom, ExceptT.run, StateT.run, bind, ExceptT.bind, ExceptT.mk, StateT.bind,
    ExceptT.bindCont]
  rcases action before with ⟨_ | result, after⟩ <;> rfl

/-- After an action with a result the next one goes on. -/
theorem runFrom_bind_ok
    {action : ExceptT fault (StateM state) α}
    {before after : state}
    {result : α}
    (ran : action.runFrom before = (.ok result, after))
    (next : α → ExceptT fault (StateM state) β) :
    (action >>= next).runFrom before = (next result).runFrom after := by
  rw [runFrom_bind, ran]

/-- Two actions have a result one after the other if and only if each of them has one. -/
theorem runFrom_bind_eq_ok_iff
    {action : ExceptT fault (StateM state) α}
    {next : α → ExceptT fault (StateM state) β}
    {before after : state}
    {result : β} :
    (action >>= next).runFrom before = (.ok result, after) ↔
      ∃ value middle, action.runFrom before = (.ok value, middle) ∧
        (next value).runFrom middle = (.ok result, after) := by
  rw [runFrom_bind]
  rcases action.runFrom before with ⟨_ | value, middle⟩
  · simp
  · constructor
    · exact fun ran => ⟨value, middle, rfl, ran⟩
    · rintro ⟨_, _, same, ran⟩
      cases same
      exact ran

@[simp] theorem runFrom_map
    (f : α → β)
    (action : ExceptT fault (StateM state) α)
    (before : state) :
    (f <$> action).runFrom before =
      ((action.runFrom before).1.map f, (action.runFrom before).2) := by
  rw [← bind_pure_comp, runFrom_bind]
  rcases action.runFrom before with ⟨_ | result, after⟩ <;> rfl

@[simp] theorem runFrom_get (before : state) :
    (get : ExceptT fault (StateM state) state).runFrom before = (.ok before, before) := rfl

@[simp] theorem runFrom_set (before after : state) :
    (set after : ExceptT fault (StateM state) PUnit).runFrom before = (.ok ⟨⟩, after) := rfl

@[simp] theorem runFrom_modify
    (f : state → state)
    (before : state) :
    (modify f : ExceptT fault (StateM state) PUnit).runFrom before = (.ok ⟨⟩, f before) := rfl

/-- A result that is known beforehand changes nothing. -/
@[simp] theorem runFrom_lift
    (outcome : Except fault α)
    (before : state) :
    (liftM outcome : ExceptT fault (StateM state) α).runFrom before = (outcome, before) := by
  cases outcome <;> rfl

theorem runFrom_tryCatch
    (action : ExceptT fault (StateM state) α)
    (handle : fault → ExceptT fault (StateM state) α)
    (before : state) :
    (tryCatch action handle).runFrom before =
      match action.runFrom before with
      | (.ok result, after) => (.ok result, after)
      | (.error cause, after) => (handle cause).runFrom after := by
  simp only [runFrom, ExceptT.run, StateT.run, tryCatch, tryCatchThe, MonadExceptOf.tryCatch,
    ExceptT.tryCatch, ExceptT.mk, bind, StateT.bind]
  rcases action before with ⟨_ | result, after⟩ <;> rfl

/-! ## Results of actions -/

/-- Where a condition holds before an action, another one holds of its result and the state after
it.  Nothing is said about faults. -/
def Ensures
    (given : state → Prop)
    (action : ExceptT fault (StateM state) α)
    (done : α → state → Prop) : Prop :=
  ∀ before result after, given before → action.runFrom before = (.ok result, after) →
    done result after

namespace Ensures

variable {given : state → Prop} {done : β → state → Prop}

theorem pure
    {result : β}
    (holds : ∀ before, given before → done result before) :
    Ensures given (pure result : ExceptT fault (StateM state) β) done := by
  rintro before _ _ known ⟨⟩
  exact holds before known

theorem throw (cause : fault) :
    Ensures given (throw cause : ExceptT fault (StateM state) β) done := by
  rintro before result after _ ⟨⟩

/-- The second of two actions starts where the first one ends. -/
theorem bind
    {action : ExceptT fault (StateM state) α}
    {between : α → state → Prop}
    (first : Ensures given action between)
    {next : α → ExceptT fault (StateM state) β}
    (rest : ∀ value, Ensures (between value) (next value) done) :
    Ensures given (action >>= next) done := by
  intro before result after known ran
  obtain ⟨value, middle, begun, ended⟩ := runFrom_bind_eq_ok_iff.mp ran
  exact rest value middle result after (first before value middle known begun) ended

/-- An action that leaves the state alone keeps what is known of it. -/
theorem of_unchanged
    {action : ExceptT fault (StateM state) α}
    (unchanged : ∀ before, given before → (action.runFrom before).2 = before) :
    Ensures given action fun _ => given := by
  intro before result after known ran
  obtain rfl : after = before := by simpa [ran] using unchanged before known
  exact known

theorem get : Ensures given (get : ExceptT fault (StateM state) state) fun _ => given :=
  .of_unchanged fun _ _ => rfl

theorem lift (outcome : Except fault α) :
    Ensures given (liftM outcome : ExceptT fault (StateM state) α) fun _ => given :=
  .of_unchanged fun before _ => by rw [runFrom_lift]

/-- What does not depend on the state holds after every action. -/
theorem const
    (action : ExceptT fault (StateM state) α)
    (known : Prop) :
    Ensures (fun _ => known) action fun _ _ => known :=
  fun _ _ _ holds _ => holds

end Ensures
end ExceptT

namespace TableQuery
namespace Setting

variable {state : Type}

theorem runFrom_onWorld
    (action : Action World α)
    (before : Setting state) :
    (onWorld action).runFrom before =
      ((action.runFrom before.1).1, ((action.runFrom before.1).2, before.2)) := rfl

theorem runFrom_onOther
    (action : Action state α)
    (before : Setting state) :
    (onOther action).runFrom before =
      ((action.runFrom before.2).1, (before.1, (action.runFrom before.2).2)) := rfl

theorem ensures_onWorld
    {given : World → Prop}
    {action : Action World α}
    {done : α → World → Prop}
    (ensures : ExceptT.Ensures given action done) :
    ExceptT.Ensures (fun setting : Setting state => given setting.1) (onWorld action)
      fun result setting => done result setting.1 := by
  intro before result after known ran
  rw [runFrom_onWorld, Prod.mk.injEq] at ran
  rw [← ran.2]
  exact ensures before.1 result _ known (Prod.ext ran.1 rfl)

/-- A change of the other state keeps what is known of the world. -/
theorem ensures_onOther
    (given : World → Prop)
    (action : Action state α) :
    ExceptT.Ensures (fun setting : Setting state => given setting.1) (onOther action)
      fun _ setting => given setting.1 := by
  intro before result after known ran
  rw [runFrom_onOther, Prod.mk.injEq] at ran
  rwa [← ran.2]

end Setting
end TableQuery
