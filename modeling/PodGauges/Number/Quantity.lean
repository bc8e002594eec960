import PodGauges.Number.Binary64

/-!
Numbers that are either exact integers or doubles, and the two ways in which an exact number can
be too large for a double.
-/

namespace PodGauges.Number

/-- An exact integer or a double. -/
inductive Quantity where
  | int (n : Int)
  | real (x : Float)

inductive RangeError where
  | integerTooLarge
  | quotientTooLarge
  deriving DecidableEq, Repr

/-- The words for a number that no double holds. -/
def RangeError.message : RangeError → String
  | .integerTooLarge => "int too large to convert to float"
  | .quotientTooLarge => "integer division result too large for a float"

/-- An integer as a double. -/
def realOfInteger (n : Int) : Except RangeError Float :=
  match ofInteger? n with
  | some x => .ok x
  | none => .error .integerTooLarge

/-- A quotient as a double. -/
def realOfQuotient (num : Int) (den : Nat) : Except RangeError Float :=
  match ofQuotient? num den with
  | some x => .ok x
  | none => .error .quotientTooLarge

/-- A quantity as a double. -/
def Quantity.toReal : Quantity → Except RangeError Float
  | .int n => realOfInteger n
  | .real x => .ok x

end PodGauges.Number
