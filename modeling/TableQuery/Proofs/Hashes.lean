import Mathlib.Data.Nat.ModEq
import TableQuery.Proofs.Equality

/-!
# Hashes of equal values

Equal values have one hash, or none of them has a hash.  For numbers this holds because their
residues are those of one count of least units, whatever the type of the number is.
-/

namespace TableQuery
namespace Value

/-! ## Residues -/

/-- Powers of two have one residue when their exponents differ by a multiple of 61. -/
theorem mul_two_pow_mod
    {power other : Nat}
    (same : power % 61 = other % 61)
    (factor : Nat) :
    factor * 2 ^ power % hashModulus = factor * 2 ^ other % hashModulus := by
  have cycle (power : Nat) : 2 ^ power ≡ 2 ^ (power % 61) [MOD hashModulus] := by
    calc
      2 ^ power = (2 ^ 61) ^ (power / 61) * 2 ^ (power % 61) := by
        rw [← pow_mul, ← pow_add, Nat.div_add_mod]
      _ ≡ 1 ^ (power / 61) * 2 ^ (power % 61) [MOD hashModulus] :=
        ((show 2 ^ 61 ≡ 1 [MOD hashModulus] by decide).pow _).mul_right _
      _ = 2 ^ (power % 61) := by rw [one_pow, one_mul]
  exact ((cycle power).trans (same ▸ (cycle other).symm)).mul_left factor

/-- The residue of a count of least units; the power makes up for that of the unit. -/
def unitsResidue (units : Int) : Int :=
  signedResidue (units < 0) (units.natAbs * 2 ^ 24 % hashModulus)

theorem unitsResidue_units (number : Int) :
    unitsResidue (units number) = intResidue number := by
  have sign : units number < 0 ↔ number < 0 := by
    have positive : 0 < ((2 ^ (-Binary64.leastExponent).toNat : Nat) : Int) :=
      Int.natCast_pos.mpr (Nat.two_pow_pos _)
    rw [units, mul_neg_iff]
    simp only [positive, positive.not_gt, and_true, and_false, false_or]
  have residue : (units number).natAbs * 2 ^ 24 % hashModulus = number.natAbs % hashModulus := by
    rw [units, Int.natAbs_mul, Int.natAbs_natCast, Nat.mul_assoc, ← Nat.pow_add,
      mul_two_pow_mod (by decide : ((-Binary64.leastExponent).toNat + 24) % 61 = 0 % 61),
      Nat.pow_zero, Nat.mul_one]
  rw [unitsResidue, intResidue, residue]
  simp only [sign]

theorem unitsResidue_finite
    (negative : Bool)
    (significand : Nat)
    {exponent : Int}
    (least : Binary64.leastExponent ≤ exponent) :
    unitsResidue (Binary64.inLeastUnits negative significand exponent) =
      signedResidue negative (significand * 2 ^ (exponent % 61).toNat % hashModulus) := by
  have residue : (Binary64.inLeastUnits negative significand exponent).natAbs * 2 ^ 24 %
      hashModulus = significand * 2 ^ (exponent % 61).toNat % hashModulus := by
    rw [Binary64.inLeastUnits, Binary64.natAbs_signed, Nat.mul_assoc, ← Nat.pow_add]
    apply mul_two_pow_mod
    simp only [Binary64.leastExponent] at least ⊢
    omega
  rw [unitsResidue, residue, Binary64.inLeastUnits]
  by_cases zero : significand = 0
  · rw [zero, Nat.zero_mul, Nat.zero_mul]
    cases negative <;> decide
  · have magnitude : 0 < significand * 2 ^ (exponent - Binary64.leastExponent).toNat :=
      Nat.mul_pos (Nat.pos_of_ne_zero zero) (Nat.two_pow_pos _)
    have sign : decide (Binary64.signed negative
        (significand * 2 ^ (exponent - Binary64.leastExponent).toNat) < 0) = negative := by
      cases negative
      · simp [Binary64.signed]
      · simpa [Binary64.signed] using magnitude
    rw [sign]

/-! ## Atoms -/

/-- The atom of what a value without members is compared by. -/
def Scalar.atom : Scalar → HashAtom
  | .nothing => .nothing
  | .finite units => .number (unitsResidue units)
  | .infinite negative => .number (Binary64.signed negative 314159)
  | .text content => bufferAtom (storage content.toList)
  | .bytes content => bufferAtom (content.map UInt8.toNat)

theorem hashAtoms_of_scalar
    {value : Value}
    (regular : value.IsRegular)
    {scalar : Scalar}
    (known : value.scalar? = some scalar) :
    hashAtoms value = .ok [scalar.atom] := by
  cases regular with
  | none =>
      obtain rfl := Option.some.inj known
      rfl
  | bool truth =>
      obtain rfl := Option.some.inj known
      rw [Scalar.atom, unitsResidue_units]
      cases truth <;> rfl
  | int number =>
      obtain rfl := Option.some.inj known
      rw [Scalar.atom, unitsResidue_units, hashAtoms]
  | @float number proper =>
      cases number with
      | nan => cases known
      | infinite negative =>
          obtain rfl := Option.some.inj known
          rfl
      | finite negative significand exponent =>
          obtain rfl := Option.some.inj known
          rw [Scalar.atom, unitsResidue_finite negative significand proper.2, hashAtoms, floatAtom]
  | text content =>
      obtain rfl := Option.some.inj known
      rfl
  | direction given =>
      obtain rfl := Option.some.inj known
      rfl
  | bytes content =>
      obtain rfl := Option.some.inj known
      rfl
  | list => cases known
  | tuple => cases known
  | dict => cases known

/-- Sequences of members with one hash each have one hash. -/
theorem hashAtomsAll_congr
    {items others : List Value}
    (same : List.Forall₂ (fun item other => hashAtoms item = hashAtoms other) items others) :
    hashAtomsAll items = hashAtomsAll others := by
  induction same with
  | nil => rfl
  | cons first rest inductionHypothesis =>
      rw [hashAtomsAll, hashAtomsAll, first, inductionHypothesis]

/-- Equal regular values have one hash or none: members at the same places have the same atoms, and
lists and dictionaries have none. -/
theorem IsRegular.hashAtoms_eq
    {value other : Value}
    (regular : value.IsRegular)
    (regular' : other.IsRegular)
    (equals : equal value other) :
    hashAtoms value = hashAtoms other := by
  induction regular using IsRegular.byMembers generalizing other with
  | scalar regular known =>
      rw [hashAtoms_of_scalar regular known,
        hashAtoms_of_scalar regular' ((equal_iff_of_scalar known other).mp equals)]
  | list members =>
      obtain ⟨others, rfl, _⟩ := (equal_list_iff _ _).mp equals
      rfl
  | tuple members inductionHypothesis =>
      obtain ⟨others, rfl, equalMembers⟩ := (equal_tuple_iff _ _).mp equals
      cases regular' with
      | tuple members' =>
          have pairs := equalAll_iff.mp equalMembers
          have same := hashAtomsAll_congr <|
            List.forall₂_iff_zip.mpr ⟨pairs.length_eq, fun {_ _} zipped =>
              inductionHypothesis _ (List.of_mem_zip zipped).1
                (members' _ (List.of_mem_zip zipped).2) (List.forall₂_zip pairs zipped)⟩
          rw [hashAtoms, hashAtoms, same, pairs.length_eq]
  | dict keys values apart =>
      obtain ⟨others, rfl, _⟩ := (equal_dict_iff _ _).mp equals
      rfl

mutual

/-- A value without a hash is refused for its type. -/
theorem eq_wrongType_of_hashAtoms
    {fault : Fault} :
    ∀ {value : Value}, hashAtoms value = .error fault → fault = wrongType
  | .list _, refused => (Except.error.inj refused).symm
  | .dict _, refused => (Except.error.inj refused).symm
  | .tuple items, refused => by
      cases members : hashAtomsAll items with
      | ok atoms => simp [hashAtoms, members, bind, Except.bind, pure, Except.pure] at refused
      | error first =>
          simp only [hashAtoms, members, bind, Except.bind] at refused
          exact Except.error.inj refused ▸ eq_wrongType_of_hashAtomsAll members

theorem eq_wrongType_of_hashAtomsAll
    {fault : Fault} :
    ∀ {items : List Value}, hashAtomsAll items = .error fault → fault = wrongType
  | item :: rest, refused => by
      cases first : hashAtoms item with
      | error own =>
          simp only [hashAtomsAll, first, bind, Except.bind] at refused
          exact Except.error.inj refused ▸ eq_wrongType_of_hashAtoms first
      | ok atoms =>
          cases others : hashAtomsAll rest with
          | error later =>
              simp only [hashAtomsAll, first, others, bind, Except.bind] at refused
              exact Except.error.inj refused ▸ eq_wrongType_of_hashAtomsAll others
          | ok following =>
              simp [hashAtomsAll, first, others, bind, Except.bind, pure, Except.pure] at refused

end

end Value
end TableQuery
