import TableQuery.Fault

/-!
# Values without a text

An integer with too many digits is not written as a text, and neither is a collection that holds
one or in which too many collections stand inside one another.  The texts of values are total;
what asks for the text of a value that has none ends with the fault that is given here.
-/

namespace TableQuery

/-- How many collections may stand inside one another in a value that is written as a text, if that
is bounded.  The bound is what is left of the room for calls, which the library does not set. -/
class Nesting where
  bound? : Option Nat

/-- Where nothing else is said, collections stand inside one another without a bound. -/
instance Nesting.unbounded : Nesting := ⟨none⟩

namespace Value

mutual

/-- The fault for which a value is not written as a text, if there is one.  The parts of a
collection are written in order, with one place less for collections inside them. -/
def textFaultWithin (room : Option Nat) : Value → Option Fault
  | .int number => if Numeral.isTooLong number then some (.refused .value) else Option.none
  | .list items =>
    if room = some 0 then some (.refused .recursion) else textFaultOfAny (room.map (· - 1)) items
  | .tuple items =>
    if room = some 0 then some (.refused .recursion) else textFaultOfAny (room.map (· - 1)) items
  | .dict entries =>
    if room = some 0 then some (.refused .recursion)
    else textFaultOfEntries (room.map (· - 1)) entries
  | _ => Option.none

/-- The fault of the first of some values that is not written as a text. -/
def textFaultOfAny (room : Option Nat) : List Value → Option Fault
  | [] => Option.none
  | item :: rest => (textFaultWithin room item).or (textFaultOfAny room rest)

/-- The fault of the first key or value that is not written as a text. -/
def textFaultOfEntries (room : Option Nat) : List (Value × Value) → Option Fault
  | [] => Option.none
  | (key, value) :: rest =>
    ((textFaultWithin room key).or (textFaultWithin room value)).or (textFaultOfEntries room rest)

end

variable [Nesting]

/-- The fault for which a value has no text, if there is one. -/
def textFault? (value : Value) : Option Fault :=
  value.textFaultWithin Nesting.bound?

/-- Whether a value has a text. -/
def HasText (value : Value) : Prop :=
  value.textFault? = Option.none

instance (value : Value) : Decidable value.HasText :=
  inferInstanceAs (Decidable (value.textFault? = Option.none))

/-- Refuses values of which one has no text, with the fault of the first. -/
def checkTexts (values : List Value) : Except Fault Unit :=
  match values.findSome? textFault? with
  | some fault => .error fault
  | Option.none => .ok ()

/-- The text of a value, where it has one. -/
def toText (value : Value) : Except Fault String := do
  checkTexts [value]
  return value.display

end Value
end TableQuery
