import Mathlib.Data.List.Basic
import Mathlib.Data.List.Induction
import TableQuery.Settings.Reader

/-!
# Readers of settings files

The reader of this library keeps the laws of readers: a variable that is set keeps its value, and
what is added are settings of the text that an environment can hold.  It takes a text to its end if
and only if each of its settings can be added.
-/

namespace TableQuery

/-- An environment after bindings have been added: those that were there stay, the others belong to
a relation between names and values. -/
structure Environment.Gains
    (given : String → String → Prop)
    (before after : Environment) : Prop where
  keeps : ∀ name value, before.lookup name = some value → after.lookup name = some value
  adds : ∀ name value, after.lookup name = some value →
    before.lookup name = some value ∨ given name value

namespace Environment.Gains

variable {given : String → String → Prop}

theorem refl (environment : Environment) : Gains given environment environment :=
  ⟨fun _ _ set => set, fun _ _ set => .inl set⟩

theorem trans
    {first second third : Environment}
    (begins : Gains given first second)
    (ends : Gains given second third) :
    Gains given first third where
  keeps := fun name value set => ends.keeps name value (begins.keeps name value set)
  adds := by
    intro name value set
    rcases ends.adds name value set with earlier | added
    · exact begins.adds name value earlier
    · exact .inr added

theorem mono
    {others : String → String → Prop}
    {before after : Environment}
    (gains : Gains given before after)
    (weaker : ∀ name value, given name value → others name value) :
    Gains others before after where
  keeps := gains.keeps
  adds := fun name value set => (gains.adds name value set).imp_right (weaker name value)

/-- A name that is free can be bound. -/
theorem assign
    {environment : Environment}
    {name value : String}
    (free : environment.lookup name = none)
    (belongs : given name value) :
    Gains given environment (environment.assign name value) where
  keeps := by
    intro wanted found set
    have other : wanted ≠ name := by
      rintro rfl
      cases free.symm.trans set
    rw [Environment.lookup_assign, if_neg other, set]
  adds := by
    intro wanted found set
    rw [Environment.lookup_assign] at set
    by_cases same : wanted = name
    · subst same
      obtain rfl : value = found := by simpa using set
      exact .inr belongs
    · exact .inl (by simpa [same] using set)

end Environment.Gains

namespace Settings

/-! ## Variables that an environment can hold -/

/-- Whether an environment can hold a variable. -/
def IsSettable (name value : String) : Prop :=
  name ≠ "" ∧ '=' ∉ name.toList ∧ '\x00' ∉ name.toList ∧ '\x00' ∉ value.toList

theorem refusal?_eq_none_iff
    {name value : String} :
    Environment.refusal? name value = none ↔ IsSettable name value := by
  unfold Environment.refusal? IsSettable
  constructor
  · intro held
    split at held
    next => cases held
    next free =>
        simp only [Bool.or_eq_true, List.any_eq_true, decide_eq_true_eq, not_or, not_exists,
          not_and] at free
        obtain ⟨inName, inValue⟩ := free
        refine ⟨fun unnamed => ?_, fun sign => (inName _ sign).1 rfl,
          fun nul => (inName _ nul).2 rfl, fun nul => inValue _ nul rfl⟩
        simp [unnamed] at held
  · rintro ⟨named, noSign, noNul, noNulIn⟩
    have held : ¬ ((name.toList.any (fun c => c = '=' || c = '\x00') ||
        value.toList.any (· = '\x00')) = true) := by
      simp only [Bool.or_eq_true, List.any_eq_true, decide_eq_true_eq, not_or, not_exists, not_and]
      refine ⟨fun c member => ⟨?_, ?_⟩, fun c member => ?_⟩ <;> rintro rfl <;> contradiction
    simp only [held, named, if_false, Bool.false_eq_true]

/-- A setting can be added: the environment has a variable of that name or can hold it, or there is
no value. -/
def IsAddable (environment : Environment) (setting : String × Option String) : Prop :=
  ∀ value, setting.2 = some value → environment.lookup setting.1 = none →
    IsSettable setting.1 value

/-- A setting that can be added is bound where its name was free, and changes nothing otherwise. -/
theorem addSetting_of_isAddable
    {environment : Environment}
    {setting : String × Option String}
    (addable : IsAddable environment setting) :
    addSetting setting environment = .ok environment ∨
      ∃ value, setting.2 = some value ∧ environment.lookup setting.1 = none ∧
        IsSettable setting.1 value ∧
          addSetting setting environment = .ok (environment.assign setting.1 value) := by
  unfold addSetting
  cases free : environment.lookup setting.1 with
  | some old => exact .inl rfl
  | none =>
      cases known : setting.2 with
      | none => exact .inl rfl
      | some value =>
          have settable := addable value known free
          refine .inr ⟨value, rfl, rfl, settable, ?_⟩
          simp only [refusal?_eq_none_iff.mpr settable]

theorem addSetting_of_not_isAddable
    {environment : Environment}
    {setting : String × Option String}
    (refused : ¬ IsAddable environment setting) :
    ∃ fault, addSetting setting environment = .error fault := by
  simp only [IsAddable, not_forall] at refused
  obtain ⟨value, known, free, refused⟩ := refused
  cases reason : Environment.refusal? setting.1 value with
  | none => exact absurd (refusal?_eq_none_iff.mp reason) refused
  | some fault => exact ⟨fault, by simp only [addSetting, free, known, reason]⟩

/-! ## Settings added one by one -/

/-- Settings are added one by one, up to the first one that is refused. -/
theorem gains_addSettings
    (settings : List (String × Option String))
    (environment : Environment) :
    Environment.Gains (fun name value => (name, some value) ∈ settings ∧ '\x00' ∉ value.toList)
      environment (addSettings settings environment).environment := by
  induction settings generalizing environment with
  | nil => exact .refl environment
  | cons setting rest inductionHypothesis =>
      have others (environment : Environment) := (inductionHypothesis environment).mono
        fun name value added => And.imp_left (List.mem_cons_of_mem setting) added
      rw [addSettings]
      by_cases addable : IsAddable environment setting
      · rcases addSetting_of_isAddable addable with unchanged | ⟨value, known, free, settable, added⟩
        · simp only [unchanged]
          exact others environment
        · simp only [added]
          have first : (setting.1, some value) ∈ setting :: rest :=
            known ▸ List.mem_cons_self
          exact (Environment.Gains.assign free ⟨first, settable.2.2.2⟩).trans (others _)
      · obtain ⟨fault, failed⟩ := addSetting_of_not_isAddable addable
        simp only [failed]
        exact .refl environment

/-- Settings of different names are all added if and only if each of them can be added alone. -/
theorem addSettings_eq_ok_iff
    {settings : List (String × Option String)}
    (distinct : (settings.map Prod.fst).Nodup)
    (environment : Environment) :
    (addSettings settings environment).outcome = .ok () ↔
      ∀ setting ∈ settings, IsAddable environment setting := by
  induction settings generalizing environment with
  | nil => simp [addSettings]
  | cons setting rest inductionHypothesis =>
      rw [List.map_cons, List.nodup_cons] at distinct
      rw [addSettings, List.forall_mem_cons]
      by_cases addable : IsAddable environment setting
      · rcases addSetting_of_isAddable addable with unchanged | ⟨value, _, _, _, added⟩
        · simp only [unchanged, addable, true_and]
          exact inductionHypothesis distinct.2 environment
        · simp only [added, addable, true_and]
          refine (inductionHypothesis distinct.2 _).trans (forall₂_congr fun other member => ?_)
          -- The name that has just been bound is not that of another setting.
          have different : other.1 ≠ setting.1 := fun same =>
            distinct.1 (same ▸ List.mem_map_of_mem member)
          simp only [IsAddable, Environment.lookup_assign, if_neg different]
      · obtain ⟨fault, failed⟩ := addSetting_of_not_isAddable addable
        simp [failed, addable]

/-! ## Bindings -/

theorem mem_of_mem_assign
    {name : String}
    {setting : Option String}
    {settled : List (String × Option String)}
    {entry : String × Option String}
    (member : entry ∈ assign name setting settled) :
    entry = (name, setting) ∨ entry ∈ settled := by
  induction settled with
  | nil => exact .inl (List.mem_singleton.mp member)
  | cons first rest inductionHypothesis =>
      obtain ⟨other, old⟩ := first
      rw [assign] at member
      split at member
      next same =>
          subst same
          exact (List.mem_cons.mp member).imp_right (List.mem_cons_of_mem _)
      next =>
          rcases List.mem_cons.mp member with rfl | inRest
          · exact .inr List.mem_cons_self
          · exact (inductionHypothesis inRest).imp_right (List.mem_cons_of_mem _)

/-- To bind a name keeps the names apart. -/
theorem nodup_assign
    {settled : List (String × Option String)}
    (distinct : (settled.map Prod.fst).Nodup)
    (name : String)
    (setting : Option String) :
    ((assign name setting settled).map Prod.fst).Nodup := by
  induction settled with
  | nil => simp [assign]
  | cons first rest inductionHypothesis =>
      obtain ⟨other, old⟩ := first
      rw [List.map_cons, List.nodup_cons] at distinct
      rw [assign]
      split
      · exact List.nodup_cons.mpr distinct
      next different =>
          refine List.nodup_cons.mpr ⟨fun member => ?_, inductionHypothesis distinct.2⟩
          obtain ⟨entry, known, same⟩ := List.mem_map.mp member
          rcases mem_of_mem_assign known with rfl | inRest
          · exact different same.symm
          · exact distinct.1 (same ▸ List.mem_map_of_mem inRest)

theorem nodup_resolve
    (environment : List (String × String))
    (bindings : List Binding) :
    ((resolve environment bindings).map Prod.fst).Nodup := by
  induction bindings using List.reverseRecOn with
  | nil => exact List.nodup_nil
  | append_singleton earlier last inductionHypothesis =>
      rw [resolve, List.foldl_concat, ← resolve]
      cases last with
      | named name value => exact nodup_assign inductionHypothesis name _
      | nothing => exact inductionHypothesis
      | malformed line => exact inductionHypothesis

/-- A setting with a value comes from a binding with one. -/
theorem exists_binding_of_mem_resolve
    {environment : List (String × String)}
    {bindings : List Binding}
    {name value : String}
    (member : (name, some value) ∈ resolve environment bindings) :
    ∃ text, Binding.named name (some text) ∈ bindings := by
  induction bindings using List.reverseRecOn with
  | nil => simp [resolve] at member
  | append_singleton earlier last inductionHypothesis =>
      have before (member : (name, some value) ∈ resolve environment earlier) :
          ∃ text, Binding.named name (some text) ∈ earlier ++ [last] := by
        obtain ⟨text, bound⟩ := inductionHypothesis member
        exact ⟨text, List.mem_append_left _ bound⟩
      rw [resolve, List.foldl_concat, ← resolve] at member
      cases last with
      | named other text? =>
          rcases mem_of_mem_assign member with same | earlier
          · obtain ⟨rfl, bound⟩ := Prod.mk.inj same
            obtain ⟨text, rfl, _⟩ := Option.map_eq_some_iff.mp bound.symm
            exact ⟨text, by simp⟩
          · exact before earlier
      | nothing => exact before member
      | malformed line => exact before member

/-! ## The reader of this library -/

theorem mem_settings_standardReader
    {text : String}
    {environment : Environment}
    {name value : String} :
    (name, value) ∈ standardReader.settings text environment ↔
      (name, some value) ∈ resolve environment (bindings text) := by
  simp only [standardReader, List.mem_filterMap, Option.map_eq_some_iff, Prod.mk.injEq,
    Prod.exists]
  constructor
  · rintro ⟨_, _, member, _, rfl, rfl, rfl⟩
    exact member
  · intro member
    exact ⟨name, some value, member, value, rfl, rfl, rfl⟩

/-- The settings of a text are bound in it, with references that may have been replaced. -/
theorem exists_binding_of_mem_settings
    {text : String}
    {environment : Environment}
    {name value : String}
    (member : (name, value) ∈ standardReader.settings text environment) :
    ∃ written, Binding.named name (some written) ∈ bindings text :=
  exists_binding_of_mem_resolve (mem_settings_standardReader.mp member)

theorem gains_standardReader
    (text : String)
    (environment : Environment) :
    Environment.Gains
      (fun name value =>
        (name, value) ∈ standardReader.settings text environment ∧ '\x00' ∉ value.toList)
      environment (standardReader.load text environment).environment := by
  unfold Reader.load standardReader
  dsimp only
  split
  · exact .refl environment
  · exact (gains_addSettings _ environment).mono fun name value added =>
      added.imp_left mem_settings_standardReader.mpr

/-- The reader of this library keeps the laws. -/
theorem isLawful_standardReader : standardReader.IsLawful where
  keeps := fun text environment => (gains_standardReader text environment).keeps
  adds := fun text environment name value set =>
    ((gains_standardReader text environment).adds name value set).imp_right And.left
  nulFree := fun text environment name value set =>
    ((gains_standardReader text environment).adds name value set).imp_right And.right

/-- A text is taken to its end if and only if settings files are left alone or each of its settings
can be added. -/
theorem load_standardReader_eq_ok_iff
    (text : String)
    (environment : Environment) :
    (standardReader.load text environment).outcome = .ok () ↔
      isDisabled environment ∨
        ∀ setting ∈ resolve environment (bindings text), IsAddable environment setting := by
  unfold Reader.load standardReader
  dsimp only
  split
  next disabled => simp [disabled]
  next due =>
      rw [or_iff_right due]
      exact addSettings_eq_ok_iff (nodup_resolve environment _) environment

end Settings
end TableQuery
