import Mathlib.Data.List.Perm.Subperm
import Mathlib.Order.Basic
import TableQuery.Proofs.Hydration
import TableQuery.Proofs.Reals

/-!
# Equal values

Numbers of all types are compared exactly, texts and bytes by what they hold, and collections
member by member, dictionaries without regard to order.  On the values that hold no meaningless
number and no stream this comparison is reflexive, symmetric and transitive, however deep they are.
-/

namespace TableQuery
namespace Value

/-! ## Values without members -/

/-- What a value without members is compared by. -/
inductive Scalar where
  | nothing
  /-- A number of any type, counted in units of the least power of two. -/
  | finite (units : Int)
  | infinite (negative : Bool)
  | text (content : String)
  | bytes (content : List UInt8)
deriving DecidableEq

/-- An integer in units of the least power of two. -/
def units (number : Int) : Int :=
  number * (2 ^ (-Binary64.leastExponent).toNat : Nat)

/-- What a value is compared by, if it has no members and is no meaningless number. -/
def scalar? : Value → Option Scalar
  | .none => some .nothing
  | .bool truth => some (.finite (units (if truth then 1 else 0)))
  | .int number => some (.finite (units number))
  | .float (.finite negative significand exponent) =>
    some (.finite (Binary64.inLeastUnits negative significand exponent))
  | .float (.infinite negative) => some (.infinite negative)
  | .text content => some (.text content)
  | .direction given => some (.text given.keyword)
  | .bytes content => some (.bytes content)
  | _ => Option.none

theorem units_inj {left right : Int} : units left = units right ↔ left = right :=
  mul_left_inj' (Binary64.two_pow_ne_zero _)

theorem orderInt_finite
    (negative : Bool)
    (significand : Nat)
    (exponent number : Int) :
    (Binary64.finite negative significand exponent).orderInt number =
      some (compare (Binary64.inLeastUnits negative significand exponent) (units number)) := by
  have power : (2 : Int) ^ (-Binary64.leastExponent).toNat =
      (2 ^ (-Binary64.leastExponent).toNat : Nat) := by
    push_cast
    rfl
  rw [Binary64.orderInt, units, ← power]

theorem equalInt_iff
    {number : Int}
    {other : Value} :
    equalInt number other ↔ other.scalar? = some (.finite (units number)) := by
  cases other with
  | bool truth => exact beq_iff_eq.trans (by simpa [scalar?, units_inj] using eq_comm)
  | int value => exact beq_iff_eq.trans (by simpa [scalar?, units_inj] using eq_comm)
  | float value =>
      cases value with
      | nan => simp [equalInt, scalar?, Binary64.orderInt]
      | infinite negative => cases negative <;> simp [equalInt, scalar?, Binary64.orderInt]
      | finite negative significand exponent =>
          simp [equalInt, scalar?, orderInt_finite]
  | _ => simp [equalInt, scalar?]

theorem equalFloat_finite_iff
    {negative : Bool}
    {significand : Nat}
    {exponent : Int}
    {other : Value} :
    equalFloat (.finite negative significand exponent) other ↔
      other.scalar? =
        some (.finite (Binary64.inLeastUnits negative significand exponent)) := by
  cases other with
  | bool truth => simpa [equalFloat, scalar?, orderInt_finite] using eq_comm
  | int value => simpa [equalFloat, scalar?, orderInt_finite] using eq_comm
  | float value =>
      cases value with
      | nan => simp [equalFloat, scalar?, Binary64.order]
      | infinite sign => cases sign <;> simp [equalFloat, scalar?, Binary64.order]
      | finite sign digits power =>
          simpa [equalFloat, scalar?, Binary64.order] using eq_comm
  | _ => simp [equalFloat, scalar?]

theorem equalFloat_infinite_iff
    {negative : Bool}
    {other : Value} :
    equalFloat (.infinite negative) other ↔ other.scalar? = some (.infinite negative) := by
  cases other with
  | bool truth => cases negative <;> simp [equalFloat, scalar?, Binary64.orderInt]
  | int value => cases negative <;> simp [equalFloat, scalar?, Binary64.orderInt]
  | float value =>
      cases value with
      | nan => simp [equalFloat, scalar?, Binary64.order]
      | infinite sign =>
          cases negative <;> cases sign <;> simp [equalFloat, scalar?, Binary64.order]
      | finite sign digits power =>
          cases negative <;> simp [equalFloat, scalar?, Binary64.order]
  | _ => simp [equalFloat, scalar?]

/-- A value without members equals those that are compared by the same. -/
theorem equal_iff_of_scalar
    {value : Value}
    {scalar : Scalar}
    (known : value.scalar? = some scalar)
    (other : Value) :
    equal value other ↔ other.scalar? = some scalar := by
  cases value with
  | none =>
      obtain rfl := Option.some.inj known
      cases other with
      | float number => cases number <;> simp [equal, isNone, scalar?]
      | _ => simp [equal, isNone, scalar?]
  | bool truth =>
      obtain rfl := Option.some.inj known
      exact equalInt_iff
  | int number =>
      obtain rfl := Option.some.inj known
      exact equalInt_iff
  | float number =>
      cases number with
      | nan => cases known
      | infinite negative =>
          obtain rfl := Option.some.inj known
          exact equalFloat_infinite_iff
      | finite negative significand exponent =>
          obtain rfl := Option.some.inj known
          exact equalFloat_finite_iff
  | text content =>
      obtain rfl := Option.some.inj known
      cases other with
      | float number => cases number <;> simp [equal, asText?, scalar?]
      | _ => simp [equal, asText?, scalar?]
  | direction given =>
      obtain rfl := Option.some.inj known
      cases other with
      | float number => cases number <;> simp [equal, asText?, scalar?]
      | _ => simp [equal, asText?, scalar?]
  | bytes content =>
      obtain rfl := Option.some.inj known
      cases other with
      | float number => cases number <;> simp [equal, scalar?]
      | bytes others => simpa [equal, scalar?] using eq_comm
      | _ => simp [equal, scalar?]
  | _ => cases known

/-! ## Settled values -/

/-- A value equals itself, and what equals it equals the same values as it does. -/
def IsSettled (value : Value) : Prop :=
  equal value value ∧ ∀ other, equal value other → ∀ third, equal value third = equal other third

namespace IsSettled

variable {value other third : Value}

theorem symm
    (settled : value.IsSettled)
    (equals : equal value other) :
    equal other value := by
  rw [← settled.2 other equals]
  exact settled.1

theorem trans
    (settled : value.IsSettled)
    (equals : equal value other)
    (equals' : equal other third) :
    equal value third := by
  rw [settled.2 other equals]
  exact equals'

/-- Two values that equal one settled value equal each other. -/
theorem equal_of_equal
    (settled : value.IsSettled)
    (equals : equal value third)
    (settled' : other.IsSettled)
    (equals' : equal other third) :
    equal value other :=
  settled.trans equals (settled'.symm equals')

end IsSettled

theorem isSettled_of_scalar
    {value : Value}
    {scalar : Scalar}
    (known : value.scalar? = some scalar) :
    value.IsSettled := by
  refine ⟨(equal_iff_of_scalar known value).mpr known, ?_⟩
  intro other equals third
  rw [Bool.eq_iff_iff, equal_iff_of_scalar known,
    equal_iff_of_scalar ((equal_iff_of_scalar known other).mp equals)]

theorem isSettled_text (content : String) : (text content).IsSettled :=
  isSettled_of_scalar rfl

/-! ## Sequences -/

theorem equalAll_iff
    {items others : List Value} :
    equalAll items others ↔ List.Forall₂ (fun item other => equal item other) items others := by
  induction items generalizing others with
  | nil => cases others <;> simp [equalAll]
  | cons item rest inductionHypothesis =>
      cases others with
      | nil => simp [equalAll]
      | cons other others => simp [equalAll, inductionHypothesis]

theorem equalAll_self
    {items : List Value}
    (settled : ∀ item ∈ items, item.IsSettled) :
    equalAll items items :=
  equalAll_iff.mpr (List.forall₂_same.mpr fun item member => (settled item member).1)

theorem equalAll_congr
    {items others : List Value}
    (settled : ∀ item ∈ items, item.IsSettled)
    (equals : List.Forall₂ (fun item other => equal item other) items others)
    (thirds : List Value) :
    equalAll items thirds = equalAll others thirds := by
  induction equals generalizing thirds with
  | nil => rfl
  | cons equal rest inductionHypothesis =>
      rw [List.forall_mem_cons] at settled
      cases thirds with
      | nil => simp [equalAll]
      | cons third thirds =>
          rw [equalAll, equalAll, settled.1.2 _ equal, inductionHypothesis settled.2]

theorem equal_list_iff
    (items : List Value)
    (other : Value) :
    equal (list items) other ↔ ∃ others, other = list others ∧ equalAll items others := by
  cases other <;> simp [equal]

theorem equal_tuple_iff
    (items : List Value)
    (other : Value) :
    equal (tuple items) other ↔ ∃ others, other = tuple others ∧ equalAll items others := by
  cases other <;> simp [equal]

/-- A sequence of settled values is settled if it equals the sequences of its kind with equal
members. -/
theorem isSettled_sequence
    {kind : List Value → Value}
    (compared : ∀ items other,
      equal (kind items) other ↔ ∃ others, other = kind others ∧ equalAll items others)
    {items : List Value}
    (settled : ∀ item ∈ items, item.IsSettled) :
    (kind items).IsSettled := by
  refine ⟨(compared items _).mpr ⟨items, rfl, equalAll_self settled⟩, ?_⟩
  intro other equals third
  obtain ⟨others, rfl, members⟩ := (compared items other).mp equals
  rw [Bool.eq_iff_iff, compared, compared]
  simp only [equalAll_congr settled (equalAll_iff.mp members)]

/-! ## Dictionaries -/

/-- No key equals a later one. -/
def KeysApart (entries : List (Value × Value)) : Prop :=
  entries.Pairwise fun first second => equal first.1 second.1 = false

/-- Whether there is an equal value under the key of an entry. -/
def agrees (others : List (Value × Value)) (entry : Value × Value) : Bool :=
  (lookup entry.1 others).any (equal entry.2)

theorem equalEntries_eq_all (entries others : List (Value × Value)) :
    equalEntries entries others = entries.all (agrees others) := by
  induction entries with
  | nil => rfl
  | cons first rest inductionHypothesis =>
      rw [equalEntries, inductionHypothesis, List.all_cons, agrees, lookup]
      cases others.find? fun other => equal first.1 other.1 <;> rfl

theorem lookup_congr
    {key other : Value}
    (settled : key.IsSettled)
    (equals : equal key other)
    (entries : List (Value × Value)) :
    lookup key entries = lookup other entries := by
  unfold lookup
  simp only [settled.2 other equals]

/-- Under a settled key there is the value of the one entry whose key equals it. -/
theorem lookup_eq_of_mem
    {key : Value}
    (settled : key.IsSettled)
    {entries : List (Value × Value)}
    (apart : KeysApart entries)
    {entry : Value × Value}
    (member : entry ∈ entries)
    (equals : equal key entry.1) :
    lookup key entries = some entry.2 := by
  induction entries with
  | nil => cases member
  | cons first rest inductionHypothesis =>
      obtain ⟨others, following⟩ := List.pairwise_cons.mp apart
      rcases List.mem_cons.mp member with rfl | later
      · simp [lookup, equals]
      · have missed : equal key first.1 = false := by
          rw [Bool.eq_false_iff]
          intro found
          have same := others entry later
          rw [← settled.2 _ found, equals] at same
          cases same
        have rest := inductionHypothesis following later
        unfold lookup at rest ⊢
        rw [List.find?_cons_of_neg (by simp [missed]), rest]

theorem exists_mem_of_lookup
    {key value : Value}
    {entries : List (Value × Value)}
    (found : lookup key entries = some value) :
    ∃ entry ∈ entries, equal key entry.1 ∧ entry.2 = value := by
  obtain ⟨entry, first, rfl⟩ := Option.map_eq_some_iff.mp found
  exact ⟨entry, List.mem_of_find?_eq_some first, by simpa using List.find?_some first, rfl⟩

/-- Entries whose settled keys are apart have partners of equal keys that are apart as well. -/
theorem exists_partner
    {entries others : List (Value × Value)}
    (settled : ∀ entry ∈ entries, entry.1.IsSettled)
    (apart : KeysApart entries)
    (relation : Value → Value → Prop)
    (related : ∀ entry ∈ entries, ∃ other ∈ others,
      equal entry.1 other.1 ∧ relation entry.2 other.2) :
    ∃ partner : Value × Value → Value × Value,
      (entries.map partner).Subperm others ∧
        ∀ entry ∈ entries,
          equal entry.1 (partner entry).1 ∧ relation entry.2 (partner entry).2 := by
  choose! partner listed equalKeys relatedValues using related
  refine ⟨partner, ?_, fun entry member => ⟨equalKeys entry member, relatedValues entry member⟩⟩
  have distinct : (entries.map partner).Nodup := by
    rw [List.Nodup, List.pairwise_map]
    refine List.Pairwise.imp_of_mem ?_ apart
    intro first second member member' unequal same
    have equalFirst := equalKeys first member
    rw [same] at equalFirst
    rw [(settled first member).equal_of_equal equalFirst (settled second member')
      (equalKeys second member')] at unequal
    cases unequal
  have within : entries.map partner ⊆ others := by
    intro other mapped
    obtain ⟨entry, member, rfl⟩ := List.mem_map.mp mapped
    exact listed entry member
  exact List.subperm_of_subset distinct within

/-- Under the key of each entry of an equal dictionary there is an equal value. -/
theorem exists_mem_of_equalEntries
    {entries others : List (Value × Value)}
    (equals : equalEntries entries others)
    {entry : Value × Value}
    (member : entry ∈ entries) :
    ∃ other ∈ others, equal entry.1 other.1 ∧ equal entry.2 other.2 := by
  rw [equalEntries_eq_all, List.all_eq_true] at equals
  obtain ⟨value, found, equalValues⟩ := Option.any_eq_true _ _ |>.mp (equals entry member)
  obtain ⟨other, listed, equalKeys, rfl⟩ := exists_mem_of_lookup found
  exact ⟨other, listed, equalKeys, equalValues⟩

/-- The partners of the entries of a dictionary are all entries of an equal one. -/
theorem exists_partner_of_equalEntries
    {entries others : List (Value × Value)}
    (settled : ∀ entry ∈ entries, entry.1.IsSettled)
    (apart : KeysApart entries)
    (lengths : entries.length = others.length)
    (equals : equalEntries entries others) :
    ∃ partner : Value × Value → Value × Value,
      (entries.map partner).Perm others ∧
        ∀ entry ∈ entries,
          equal entry.1 (partner entry).1 ∧ equal entry.2 (partner entry).2 := by
  obtain ⟨partner, within, equalPairs⟩ := exists_partner settled apart (equal · ·)
    fun _ member => exists_mem_of_equalEntries equals member
  refine ⟨partner, within.perm_of_length_le ?_, equalPairs⟩
  rw [List.length_map, lengths]

theorem equal_dict_iff
    (entries : List (Value × Value))
    (other : Value) :
    equal (dict entries) other ↔ ∃ others, other = dict others ∧
      entries.length = others.length ∧ equalEntries entries others := by
  cases other <;> simp [equal]

theorem isSettled_dict
    {entries : List (Value × Value)}
    (settledKeys : ∀ entry ∈ entries, entry.1.IsSettled)
    (settledValues : ∀ entry ∈ entries, entry.2.IsSettled)
    (apart : KeysApart entries) :
    (dict entries).IsSettled := by
  constructor
  · refine (equal_dict_iff entries _).mpr ⟨entries, rfl, rfl, ?_⟩
    rw [equalEntries_eq_all, List.all_eq_true]
    intro entry member
    rw [agrees, lookup_eq_of_mem (settledKeys entry member) apart member
      (settledKeys entry member).1]
    exact (settledValues entry member).1
  · intro other equals third
    obtain ⟨others, rfl, lengths, equalOthers⟩ := (equal_dict_iff entries other).mp equals
    obtain ⟨partner, reordered, equalPairs⟩ :=
      exists_partner_of_equalEntries settledKeys apart lengths equalOthers
    have agreeing (thirds : List (Value × Value)) :
        equalEntries entries thirds = equalEntries others thirds := by
      have agree : ∀ entry ∈ entries, agrees thirds (partner entry) = agrees thirds entry := by
        intro entry member
        obtain ⟨equalKeys, equalValues⟩ := equalPairs entry member
        rw [agrees, agrees, lookup_congr (settledKeys entry member) equalKeys,
          funext ((settledValues entry member).2 _ equalValues)]
      rw [equalEntries_eq_all, equalEntries_eq_all, ← reordered.all_eq, List.all_map,
        Bool.eq_iff_iff, List.all_eq_true, List.all_eq_true]
      exact forall₂_congr fun entry member => by rw [Function.comp_apply, agree entry member]
    rw [Bool.eq_iff_iff, equal_dict_iff, equal_dict_iff]
    simp only [lengths, agreeing]

section Lookups

variable {entries others : List (Value × Value)}

/-- Equal dictionaries have equal values, or none, under each key. -/
theorem lookup_rel_of_equal_dict
    (settled : ∀ entry ∈ entries, entry.1.IsSettled)
    (apart : KeysApart entries)
    (apart' : KeysApart others)
    (equals : equal (dict entries) (dict others))
    {key : Value}
    (settledKey : key.IsSettled) :
    Option.Rel (fun value other => equal value other) (lookup key entries) (lookup key others) := by
  obtain ⟨_, same, lengths, equalOthers⟩ := (equal_dict_iff entries _).mp equals
  obtain rfl := Value.dict.inj same
  obtain ⟨partner, reordered, equalPairs⟩ :=
    exists_partner_of_equalEntries settled apart lengths equalOthers
  cases found : lookup key entries with
  | some value =>
      obtain ⟨entry, member, equalKey, rfl⟩ := exists_mem_of_lookup found
      obtain ⟨other, listed, equalKeys, equalValues⟩ :=
        exists_mem_of_equalEntries equalOthers member
      rw [lookup_eq_of_mem settledKey apart' listed (settledKey.trans equalKey equalKeys)]
      exact .some equalValues
  | none =>
      cases found' : lookup key others with
      | none => exact .none
      | some other =>
          obtain ⟨another, listed, equalKey, rfl⟩ := exists_mem_of_lookup found'
          obtain ⟨entry, member, rfl⟩ := List.mem_map.mp (reordered.mem_iff.mpr listed)
          have same := settledKey.equal_of_equal equalKey (settled entry member)
            (equalPairs entry member).1
          rw [lookup_eq_of_mem settledKey apart member same] at found
          cases found

/-- Where related values stand under each key, one stands under the key of each entry. -/
theorem exists_lookup_of_rel
    (settled : ∀ entry ∈ entries, entry.1.IsSettled)
    (apart : KeysApart entries)
    {relates : Value → Value → Prop}
    (related : ∀ key : Value, key.IsSettled →
      Option.Rel relates (lookup key entries) (lookup key others))
    {entry : Value × Value}
    (member : entry ∈ entries) :
    ∃ value, lookup entry.1 others = some value ∧ relates entry.2 value := by
  have settledKey := settled entry member
  have found := related entry.1 settledKey
  rw [lookup_eq_of_mem settledKey apart member settledKey.1] at found
  generalize lookup entry.1 others = present at found
  cases found with
  | some holds => exact ⟨_, rfl, holds⟩

/-- Dictionaries with settled keys that are apart are equal if there are equal values, or none,
under each key. -/
theorem equal_dict_iff_lookup
    (settled : ∀ entry ∈ entries, entry.1.IsSettled)
    (apart : KeysApart entries)
    (settled' : ∀ other ∈ others, other.1.IsSettled)
    (apart' : KeysApart others) :
    equal (dict entries) (dict others) ↔
      ∀ key : Value, key.IsSettled →
        Option.Rel (fun value other => equal value other)
          (lookup key entries) (lookup key others) := by
  constructor
  · exact fun equals _ => lookup_rel_of_equal_dict settled apart apart' equals
  · intro related
    have swapped : ∀ key : Value, key.IsSettled →
        Option.Rel (fun other value => equal value other)
          (lookup key others) (lookup key entries) := by
      intro key settledKey
      have found := related key settledKey
      generalize lookup key entries = left at found ⊢
      generalize lookup key others = right at found ⊢
      cases found with
      | some holds => exact .some holds
      | none => exact .none
    have equalOthers : equalEntries entries others := by
      rw [equalEntries_eq_all, List.all_eq_true]
      intro entry member
      obtain ⟨value, present, equalValues⟩ := exists_lookup_of_rel settled apart related member
      rw [agrees, present]
      exact equalValues
    have partners : ∀ other ∈ others, ∃ entry ∈ entries, equal other.1 entry.1 ∧ True := by
      intro other listed
      obtain ⟨value, present, _⟩ := exists_lookup_of_rel settled' apart' swapped listed
      obtain ⟨entry, member, equalKeys, _⟩ := exists_mem_of_lookup present
      exact ⟨entry, member, equalKeys, trivial⟩
    -- Each list has partners for all entries of the other one, so they are of one length.
    obtain ⟨_, within, _⟩ := exists_partner settled apart (equal · ·)
      fun _ member => exists_mem_of_equalEntries equalOthers member
    obtain ⟨_, within', _⟩ := exists_partner settled' apart' (fun _ _ => True) partners
    refine (equal_dict_iff entries _).mpr ⟨others, rfl, ?_, equalOthers⟩
    apply le_antisymm
    · simpa using within.length_le
    · simpa using within'.length_le

end Lookups

/-! ## Regular values -/

/-- Values without streams and without meaningless numbers, at any depth, whose dictionaries have
each key once. -/
inductive IsRegular : Value → Prop
  | none : IsRegular .none
  | bool (truth : Bool) : IsRegular (.bool truth)
  | int (number : Int) : IsRegular (.int number)
  | float {number : Binary64} (proper : number.IsProper) : IsRegular (.float number)
  | text (content : String) : IsRegular (.text content)
  | direction (given : Direction) : IsRegular (.direction given)
  | bytes (content : List UInt8) : IsRegular (.bytes content)
  | list {items : List Value} (members : ∀ item ∈ items, IsRegular item) :
    IsRegular (.list items)
  | tuple {items : List Value} (members : ∀ item ∈ items, IsRegular item) :
    IsRegular (.tuple items)
  | dict {entries : List (Value × Value)}
    (keys : ∀ entry ∈ entries, IsRegular entry.1)
    (values : ∀ entry ∈ entries, IsRegular entry.2)
    (apart : KeysApart entries) : IsRegular (.dict entries)

/-- A regular value holds something to be compared by, or it is a collection of regular members. -/
theorem IsRegular.byMembers
    {motive : ∀ value : Value, value.IsRegular → Prop}
    (scalar : ∀ {value : Value} (regular : value.IsRegular) {scalar : Scalar},
      value.scalar? = some scalar → motive value regular)
    (list : ∀ {items : List Value} (members : ∀ item ∈ items, item.IsRegular),
      (∀ item member, motive item (members item member)) → motive (.list items) (.list members))
    (tuple : ∀ {items : List Value} (members : ∀ item ∈ items, item.IsRegular),
      (∀ item member, motive item (members item member)) → motive (.tuple items) (.tuple members))
    (dict : ∀ {entries : List (Value × Value)} (keys : ∀ entry ∈ entries, entry.1.IsRegular)
      (values : ∀ entry ∈ entries, entry.2.IsRegular) (apart : KeysApart entries),
      (∀ entry member, motive entry.1 (keys entry member)) →
      (∀ entry member, motive entry.2 (values entry member)) →
      motive (.dict entries) (.dict keys values apart))
    {value : Value}
    (regular : value.IsRegular) :
    motive value regular := by
  induction regular with
  | none => exact scalar .none rfl
  | bool truth => exact scalar (.bool truth) rfl
  | int number => exact scalar (.int number) rfl
  | @float number proper =>
      cases number with
      | nan => cases proper
      | infinite negative => exact scalar (.float proper) rfl
      | finite negative significand exponent => exact scalar (.float proper) rfl
  | text content => exact scalar (.text content) rfl
  | direction given => exact scalar (.direction given) rfl
  | bytes content => exact scalar (.bytes content) rfl
  | list members inductionHypothesis => exact list members inductionHypothesis
  | tuple members inductionHypothesis => exact tuple members inductionHypothesis
  | dict keys values apart keysHypothesis valuesHypothesis =>
      exact dict keys values apart keysHypothesis valuesHypothesis

/-- Values without members are compared by what they hold, collections by members that are
settled. -/
theorem IsRegular.isSettled
    {value : Value}
    (regular : value.IsRegular) :
    value.IsSettled := by
  induction regular using IsRegular.byMembers with
  | scalar _ known => exact isSettled_of_scalar known
  | list _ inductionHypothesis => exact isSettled_sequence equal_list_iff inductionHypothesis
  | tuple _ inductionHypothesis => exact isSettled_sequence equal_tuple_iff inductionHypothesis
  | dict _ _ apart keysHypothesis valuesHypothesis =>
      exact isSettled_dict keysHypothesis valuesHypothesis apart

/-- Equal values are compared by the same. -/
theorem IsRegular.scalar?_eq
    {value other : Value}
    (regular : value.IsRegular)
    (equals : equal value other) :
    value.scalar? = other.scalar? := by
  cases regular using IsRegular.byMembers with
  | scalar _ known => rw [known, (equal_iff_of_scalar known other).mp equals]
  | list _ _ =>
      obtain ⟨others, rfl, _⟩ := (equal_list_iff _ _).mp equals
      rfl
  | tuple _ _ =>
      obtain ⟨others, rfl, _⟩ := (equal_tuple_iff _ _).mp equals
      rfl
  | dict _ _ _ _ _ =>
      obtain ⟨others, rfl, _⟩ := (equal_dict_iff _ _).mp equals
      rfl

theorem asText?_eq_some_iff
    {value : Value}
    {name : String} :
    value.asText? = some name ↔ value.scalar? = some (.text name) := by
  cases value with
  | float number => cases number <;> simp [asText?, scalar?]
  | _ => simp [asText?, scalar?]

/-- Equal values are the same text, or none of them is a text. -/
theorem IsRegular.asText?_eq
    {value other : Value}
    (regular : value.IsRegular)
    (equals : equal value other) :
    value.asText? = other.asText? := by
  ext name
  rw [asText?_eq_some_iff, asText?_eq_some_iff, regular.scalar?_eq equals]

end Value
end TableQuery
