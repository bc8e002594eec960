import PodGauges.Number.Binary64
import PodGauges.Number.Integer
import PodGauges.Text.Cutting

/-!
Literals of real numbers: a decimal with an optional fraction and an optional power of ten, or the
name of infinity or of no number. The value is the nearest double.
-/

namespace PodGauges.Number

open PodGauges.Text

/-- A lower-case letter for an upper-case one of the ASCII block. -/
def asciiLower (s : List Char) : List Char := s.map Char.toLower

/-- The digits of a part of a decimal that may be empty. -/
def optionalDigits? : List Char → Option (List Nat)
  | [] => some []
  | s => digitValues? decimalDigit? s

/-- Digits with at most one point among them, as the digits and the number behind the point. -/
def mantissa? (s : List Char) : Option (List Nat × Nat) :=
  match splitFirst? '.' s with
  | none => (digitValues? decimalDigit? s).map (·, 0)
  | some (whole, fraction) =>
    match optionalDigits? whole, optionalDigits? fraction with
    | some [], some [] => none
    | some w, some f => some (w ++ f, f.length)
    | _, _ => none

/-- The exponent behind its mark. -/
def exponent? (s : List Char) : Option Int :=
  let (negative, body) := takeSign s
  (digitValues? decimalDigit? body).map fun digits => withSign negative (valueOf 10 digits)

/-- A decimal as digits and a power of ten. -/
def decimal? (s : List Char) : Option (Nat × Int) :=
  let lower := asciiLower s
  match splitFirst? 'e' lower with
  | none => (mantissa? lower).map fun (digits, places) => (valueOf 10 digits, -(places : Int))
  | some (front, back) =>
    match mantissa? front, exponent? back with
    | some (digits, places), some e => some (valueOf 10 digits, e - places)
    | _, _ => none

/-- The double that is no number. -/
def notANumber : Float := 0.0 / 0.0

def real? (s : List Char) : Option Float :=
  let (negative, body) := takeSign (trimBy isLiteralBlank s)
  let lower := asciiLower body
  if lower = "inf".toList ∨ lower = "infinity".toList then some (signed negative infinity)
  else if lower = "nan".toList then some notANumber
  else (decimal? body).map fun (digits, e) => signed negative (ofDecimal digits e)

end PodGauges.Number
