import Mathlib.Data.Set.Card
import TableQuery.Proofs.Attributes
import TableQuery.Proofs.Hashes

/-!
# Instances as members of sets

Instances with regular values that hide no operation are compared by an equivalence relation, and
equal ones have one hash or none.  Hence a set of instances has one member of each class of equal
ones, in whatever order they come.
-/

namespace TableQuery
namespace Instance

/-! ## Equality -/

/-- Instances of rows with regular values that do not hide the operation by which instances are
compared.  A class has one key column. -/
structure IsRegular (keyOf : String → Value) (made : Instance) : Prop where
  hydrated : made.IsHydrated
  values : ∀ entry ∈ made.attributes, entry.2.IsRegular
  shown : made.attribute? "to_dict" = none
  keyed : made.model.primaryKey = keyOf made.model.identity

/-- Whether two instances that need not be one are equal. -/
def Equals (self other : Instance) : Prop :=
  equal false self other = .ok true

variable {keyOf : String → Value} {first second third : Instance}

namespace IsRegular

/-- The attributes are a regular dictionary. -/
theorem attributes
    (regular : first.IsRegular keyOf) :
    (Value.dict first.attributes).IsRegular := by
  obtain ⟨columns, named, distinct⟩ := regular.hydrated.exists_columns
  refine .dict ?_ regular.values (named ▸ Value.keysApart_ofColumns distinct)
  intro entry member
  rw [named] at member
  obtain ⟨column, _, rfl⟩ := List.mem_map.mp member
  exact .text column.1

theorem attribute?_isRegular
    (regular : first.IsRegular keyOf)
    {name : String}
    {value : Value}
    (found : first.attribute? name = some value) :
    value.IsRegular := by
  obtain ⟨entry, member, _, rfl⟩ := Value.exists_mem_of_lookup found
  exact regular.values entry member

/-- Comparing regular instances gives an answer, which is right also for an instance and
itself. -/
theorem equal_eq
    (regular : first.IsRegular keyOf)
    (regular' : second.IsRegular keyOf)
    {same : Bool}
    (one : same = true → first = second) :
    equal same first second =
      .ok (decide (first.model.identity = second.model.identity) &&
        Value.equal (.dict first.attributes) (.dict second.attributes)) := by
  by_cases class' : first.model.identity = second.model.identity
  · have decided : (same || Value.equal (.dict first.attributes) (.dict second.attributes)) =
        Value.equal (.dict first.attributes) (.dict second.attributes) := by
      cases same with
      | false => rfl
      | true =>
          rw [← one rfl, regular.attributes.isSettled.1]
          rfl
    rw [equal_of_shown class' regular.shown regular'.shown, decided, decide_eq_true class',
      Bool.true_and]
  · simp [equal, class', pure, Except.pure]

theorem equals_iff
    (regular : first.IsRegular keyOf)
    (regular' : second.IsRegular keyOf) :
    first.Equals second ↔ first.model.identity = second.model.identity ∧
      Value.equal (.dict first.attributes) (.dict second.attributes) := by
  rw [Equals, regular.equal_eq regular' (by simp)]
  simp

theorem refl
    (regular : first.IsRegular keyOf) :
    first.Equals first :=
  (regular.equals_iff regular).mpr ⟨rfl, regular.attributes.isSettled.1⟩

theorem symm
    (regular : first.IsRegular keyOf)
    (regular' : second.IsRegular keyOf)
    (equals : first.Equals second) :
    second.Equals first := by
  obtain ⟨class', equalAttributes⟩ := (regular.equals_iff regular').mp equals
  exact (regular'.equals_iff regular).mpr
    ⟨class'.symm, regular.attributes.isSettled.symm equalAttributes⟩

theorem trans
    (regular : first.IsRegular keyOf)
    (regular' : second.IsRegular keyOf)
    (regular'' : third.IsRegular keyOf)
    (equals : first.Equals second)
    (equals' : second.Equals third) :
    first.Equals third := by
  obtain ⟨class', equalAttributes⟩ := (regular.equals_iff regular').mp equals
  obtain ⟨class'', equalAttributes'⟩ := (regular'.equals_iff regular'').mp equals'
  exact (regular.equals_iff regular'').mpr
    ⟨class'.trans class'', regular.attributes.isSettled.trans equalAttributes equalAttributes'⟩

end IsRegular

/-! ## Hashes -/

/-- The value of the key column is regular, and nothing is. -/
theorem IsRegular.getD_attribute?
    (regular : first.IsRegular keyOf)
    (name? : Option String) :
    ((name?.bind first.attribute?).getD .none).IsRegular := by
  cases found : name?.bind first.attribute? with
  | none => exact .none
  | some value =>
      obtain ⟨name, _, present⟩ := Option.bind_eq_some_iff.mp found
      exact regular.attribute?_isRegular present

/-- Equal instances have equal values, or none, in each column. -/
theorem IsRegular.attribute?_rel
    (regular : first.IsRegular keyOf)
    (regular' : second.IsRegular keyOf)
    (equals : first.Equals second)
    (name : String) :
    Option.Rel (fun value other => Value.equal value other)
      (first.attribute? name) (second.attribute? name) := by
  obtain ⟨class', _⟩ := (regular.equals_iff regular').mp equals
  obtain ⟨answer, answered, meaning⟩ := regular.hydrated.equal_iff regular'.hydrated class'
    regular.shown regular'.shown false
  obtain rfl := Except.ok.inj (answered.symm.trans equals)
  exact (meaning.mp rfl).resolve_left (by decide) name

/-- The key fields of equal instances have one hash or none, and name one column or none. -/
theorem IsRegular.keyField_eq
    (regular : first.IsRegular keyOf)
    (regular' : second.IsRegular keyOf)
    (equals : first.Equals second) :
    first.keyField.hashAtoms = second.keyField.hashAtoms ∧
      first.keyField.asText? = second.keyField.asText? := by
  have related := regular.attribute?_rel regular' equals "pk_field"
  obtain ⟨class', _⟩ := (regular.equals_iff regular').mp equals
  rw [keyField, keyField, regular.keyed, regular'.keyed, class']
  cases found : first.attribute? "pk_field" with
  | none =>
      cases found' : second.attribute? "pk_field" with
      | none => exact ⟨rfl, rfl⟩
      | some other =>
          rw [found, found'] at related
          cases related
  | some value =>
      cases found' : second.attribute? "pk_field" with
      | none =>
          rw [found, found'] at related
          cases related
      | some other =>
          rw [found, found', Option.rel_some_some] at related
          have regularValue := regular.attribute?_isRegular found
          exact ⟨regularValue.hashAtoms_eq (regular'.attribute?_isRegular found') related,
            regularValue.asText?_eq related⟩

theorem equal_getD
    {value? other? : Option Value}
    (related : Option.Rel (fun value other => Value.equal value other) value? other?) :
    Value.equal (value?.getD .none) (other?.getD .none) := by
  cases related with
  | some equals => exact equals
  | none => rfl

/-- Equal instances have one hash, or none of them has one. -/
theorem IsRegular.hashAtoms_eq
    (regular : first.IsRegular keyOf)
    (regular' : second.IsRegular keyOf)
    (equals : first.Equals second) :
    first.hashAtoms = second.hashAtoms := by
  obtain ⟨fields, names⟩ := regular.keyField_eq regular' equals
  rw [hashAtoms, hashAtoms, regular.hydrated.key_eq, regular'.hydrated.key_eq, fields, names]
  have values : (((second.keyField.asText?.bind first.attribute?).getD .none)).hashAtoms =
      ((second.keyField.asText?.bind second.attribute?).getD .none).hashAtoms := by
    refine (regular.getD_attribute? _).hashAtoms_eq (regular'.getD_attribute? _) (equal_getD ?_)
    cases second.keyField.asText? with
    | none => exact .none
    | some name => exact regular.attribute?_rel regular' equals name
  cases second.keyField.hashAtoms with
  | error fault => rfl
  | ok atoms => exact values

/-- An instance without a hash is refused for the type of its key or of its key field. -/
theorem eq_wrongType_of_hashAtoms
    {fault : Fault}
    (refused : first.hashAtoms = .error fault) :
    fault = Value.wrongType := by
  rw [hashAtoms, key] at refused
  cases fields : first.keyField.hashAtoms with
  | error own =>
      simp only [fields, bind, Except.bind] at refused
      exact Except.error.inj refused ▸ Value.eq_wrongType_of_hashAtoms fields
  | ok atoms =>
      simp only [fields, bind, Except.bind, pure, Except.pure] at refused
      exact Value.eq_wrongType_of_hashAtoms refused

/-! ## Sets -/

section Sets

variable {label : Type}

/-- Whether a list of members has one of each class of equal instances. -/
structure Represents (members instances : List (label × Instance)) : Prop where
  within : members ⊆ instances
  apart : members.Pairwise fun member other => ¬ member.2.Equals other.2
  covers : ∀ candidate ∈ instances, ∃ member ∈ members, member.2.Equals candidate.2

/-- The classes of equal instances. -/
def classes (instances : Set Instance) : Set (Set Instance) :=
  (fun self => {other ∈ instances | self.Equals other}) '' instances

/-- Equal instances are in one class. -/
theorem IsRegular.class_eq
    {instances : Set Instance}
    (regular : ∀ self ∈ instances, self.IsRegular keyOf)
    (member : first ∈ instances)
    (member' : second ∈ instances) :
    {other ∈ instances | first.Equals other} = {other ∈ instances | second.Equals other} ↔
      first.Equals second := by
  have own := regular first member
  have own' := regular second member'
  constructor
  · intro same
    have inClass : second ∈ {other ∈ instances | second.Equals other} := ⟨member', own'.refl⟩
    rw [← same] at inClass
    exact inClass.2
  · intro equals
    ext other
    refine and_congr_right fun listed => ⟨?_, ?_⟩
    · exact own'.trans own (regular other listed) (own.symm own' equals)
    · exact own.trans own' (regular other listed) equals

/-- There are as many members as classes. -/
theorem Represents.length_eq
    {members instances : List (label × Instance)}
    (represents : Represents members instances)
    (regular : ∀ member ∈ instances, member.2.IsRegular keyOf) :
    members.length = (classes {self | ∃ member ∈ instances, member.2 = self}).ncard := by
  classical
  generalize whole : {self | ∃ member ∈ instances, member.2 = self} = all
  have listed : ∀ member ∈ instances, member.2 ∈ all := by
    intro member present
    rw [← whole]
    exact ⟨member, present, rfl⟩
  have allRegular : ∀ self ∈ all, self.IsRegular keyOf := by
    rw [← whole]
    rintro _ ⟨member, present, rfl⟩
    exact regular member present
  have distinct : (members.map fun member => {other ∈ all | member.2.Equals other}).Nodup := by
    rw [List.Nodup, List.pairwise_map]
    refine represents.apart.imp_of_mem ?_
    intro first second present present' unequal same
    exact unequal ((IsRegular.class_eq allRegular (listed _ (represents.within present))
      (listed _ (represents.within present'))).mp same)
  have covered : classes all =
      (members.map fun member => {other ∈ all | member.2.Equals other}).toFinset := by
    ext class'
    simp only [classes, Set.mem_image, List.coe_toFinset, List.mem_map, Set.mem_ofPred_eq]
    constructor
    · rintro ⟨self, present, rfl⟩
      rw [← whole] at present
      obtain ⟨candidate, present, rfl⟩ := present
      obtain ⟨member, chosen, equals⟩ := represents.covers candidate present
      exact ⟨member, chosen, (IsRegular.class_eq allRegular
        (listed _ (represents.within chosen)) (listed _ present)).mpr equals⟩
    · rintro ⟨member, chosen, rfl⟩
      exact ⟨member.2, listed _ (represents.within chosen), rfl⟩
  rw [covered, Set.ncard_coe_finset, List.toFinset_card_of_nodup distinct, List.length_map]

end Sets

end Instance
end TableQuery
