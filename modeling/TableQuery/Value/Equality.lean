import TableQuery.Fault

/-!
# Equality and hashing of values

Truth values, integers and floating-point numbers are compared as numbers, without rounding; texts
by their characters; collections member by member, except that the order of a dictionary does not
matter.  The hash of a value is described by the atoms that determine it: equal values have equal
atoms, and a list or a dictionary has none.
-/

namespace TableQuery
namespace Value

-- Powers are those of the core library, whatever else is known.
attribute [local instance (1100)] instPowNat

/-- Whether a value and an integer are the same number. -/
def equalInt (number : Int) : Value → Bool
  | .bool truth => number == (if truth then 1 else 0)
  | .int other => number == other
  | .float other => other.orderInt number == some .eq
  | _ => false

/-- Whether a value and a floating-point number are the same number. -/
def equalFloat (number : Binary64) : Value → Bool
  | .bool truth => number.orderInt (if truth then 1 else 0) == some .eq
  | .int other => number.orderInt other == some .eq
  | .float other => number.order other == some .eq
  | _ => false

mutual

/-- Whether two values are equal. -/
def equal : Value → Value → Bool
  | .none, other => other.isNone
  | .bool truth, other => equalInt (if truth then 1 else 0) other
  | .int number, other => equalInt number other
  | .float number, other => equalFloat number other
  | .text content, other => other.asText? == some content
  | .direction given, other => other.asText? == some given.keyword
  | .bytes content, .bytes other => content == other
  | .list items, .list others => equalAll items others
  | .tuple items, .tuple others => equalAll items others
  | .dict entries, .dict others => entries.length == others.length && equalEntries entries others
  | _, _ => false

/-- Whether two sequences have equal members at every position. -/
def equalAll : List Value → List Value → Bool
  | [], [] => true
  | item :: rest, other :: others => equal item other && equalAll rest others
  | _, _ => false

/-- Whether every key of the first dictionary has an equal value in the second. -/
def equalEntries : List (Value × Value) → List (Value × Value) → Bool
  | [], _ => true
  | (key, value) :: rest, others =>
    (match others.find? fun other => equal key other.1 with
      | some other => equal value other.2
      | .none => false) && equalEntries rest others

end

/-- The value under a key. -/
def lookup (key : Value) (entries : List (Value × Value)) : Option Value :=
  (entries.find? fun entry => equal key entry.1).map (·.2)

/-- Sets the value under a key: a key that is there keeps its place, a new one comes last. -/
def insert (key value : Value) : List (Value × Value) → List (Value × Value)
  | [] => [(key, value)]
  | (other, old) :: rest =>
    if equal key other then (other, value) :: rest else (other, old) :: insert key value rest

/-- The entries that remain when pairs are inserted one after the other. -/
def ofPairs (pairs : List (Value × Value)) : List (Value × Value) :=
  pairs.foldl (fun entries pair => insert pair.1 pair.2 entries) []

/-! ## Hashing -/

/-- A part of what determines the hash of a value. -/
inductive HashAtom where
  | nothing
  | number (residue : Int)
  | buffer (bytes : List Nat)
  /-- The start of a sequence of as many members. -/
  | sequence (length : Nat)
  /-- A value whose hash is its own and no other's. -/
  | unique
deriving DecidableEq, Repr

/-- Numbers are hashed by their residue for this prime. -/
def hashModulus : Nat := 2 ^ (61 : Nat) - 1

/-- Applies a sign to a residue; minus one is reserved. -/
def signedResidue (negative : Bool) (residue : Nat) : Int :=
  if Binary64.signed negative residue = -1 then -2 else Binary64.signed negative residue

/-- The residue of an integer. -/
def intResidue (number : Int) : Int :=
  signedResidue (number < 0) (number.natAbs % hashModulus)

/-- The atom of a floating-point number.  A power of two depends only on its exponent modulo 61. -/
def floatAtom : Binary64 → HashAtom
  | .nan => .unique
  | .infinite negative => .number (Binary64.signed negative 314159)
  | .finite negative significand exponent =>
    .number (signedResidue negative (significand * 2 ^ (exponent % 61).toNat % hashModulus))

/-- The bytes of a number, the lowest first. -/
def littleEndian : Nat → Nat → List Nat
  | 0, _ => []
  | width + 1, number => number % 256 :: littleEndian width (number / 256)

/-- The bytes that store a text: every character takes as many as the greatest one needs. -/
def storage (chars : List Char) : List Nat :=
  let greatest := chars.foldl (fun bound c => max bound c.toNat) 0
  let width := if greatest < 0x100 then 1 else if greatest < 0x10000 then 2 else 4
  chars.flatMap fun c => littleEndian width c.toNat

/-- The atom of stored bytes; no bytes hash as zero does. -/
def bufferAtom (bytes : List Nat) : HashAtom :=
  if bytes.isEmpty then .number 0 else .buffer bytes

mutual

/-- The atoms that determine the hash of a value. -/
def hashAtoms : Value → Except Fault (List HashAtom)
  | .none => .ok [.nothing]
  | .bool truth => .ok [.number (if truth then 1 else 0)]
  | .int number => .ok [.number (intResidue number)]
  | .float number => .ok [floatAtom number]
  | .text content => .ok [bufferAtom (storage content.toList)]
  | .direction given => .ok [bufferAtom (storage given.keyword.toList)]
  | .bytes content => .ok [bufferAtom (content.map UInt8.toNat)]
  | .tuple items => do return .sequence items.length :: (← hashAtomsAll items)
  | .stream _ => .ok [.unique]
  | .list _ => .error (.refused .type)
  | .dict _ => .error (.refused .type)

/-- The atoms of the members of a sequence. -/
def hashAtomsAll : List Value → Except Fault (List HashAtom)
  | [] => .ok []
  | item :: rest => do
    let first ← hashAtoms item
    let others ← hashAtomsAll rest
    return first ++ others

end

/-- Whether two lists of atoms determine one hash. -/
def sameHash (left right : List HashAtom) : Bool :=
  left == right && !left.contains .unique

end Value
end TableQuery
