import PodGauges.Number.Integer
import PodGauges.Number.Quantity

/-!
Limits set by the kernel: a finite amount, or no limit at all.
-/

namespace PodGauges

open Number

/-- A finite amount or no limit. -/
inductive Limit where
  | finite (amount : Quantity)
  | unlimited

namespace Limit

/-- The word by which the kernel writes the absence of a limit. -/
def unlimitedWord : List Char := ['m', 'a', 'x']

/-- An integer, or the word for no limit, with white space around it. -/
def ofText? (text : List Char) : Option Limit :=
  if Text.trim text = unlimitedWord then some .unlimited
  else (integer? (Text.trim text)).map fun n => .finite (.int n)

/-- No limit is infinite. -/
def toReal : Limit → Except RangeError Float
  | .finite amount => amount.toReal
  | .unlimited => .ok infinity

end Limit

end PodGauges
