import PodGauges.Text.Blank
import PodGauges.Text.DecimalDigit

/-!
Integer literals in base ten and base sixteen. Digits may be of any script, a single underscore
may stand between two digits, and white space around the literal is ignored. The value of a
literal is the fold of its digits.
-/

namespace PodGauges.Number

open PodGauges.Text

/-- White space around a literal: that of the ASCII block without the separators, and all beyond. -/
def isLiteralBlank (c : Char) : Bool := isAsciiBlank c || (0x7F < c.toNat && isBlank c)

/-- A sign in front of a literal, and what it signs. -/
def takeSign : List Char → Bool × List Char
  | '-' :: s => (true, s)
  | '+' :: s => (false, s)
  | s => (false, s)

/-- The values of a run of digits with at most one underscore between neighbours. -/
def digitValues? (digit? : Char → Option Nat) : List Char → Option (List Nat)
  | [] => none
  | [c] => (digit? c).map ([·])
  | c :: '_' :: s => (digit? c).bind fun d => (digitValues? digit? s).map (d :: ·)
  | c :: s => (digit? c).bind fun d => (digitValues? digit? s).map (d :: ·)

/-- The number that digits spell, the most significant first. -/
def valueOf (base : Nat) (digits : List Nat) : Nat :=
  digits.foldl (fun n d => n * base + d) 0

def withSign (negative : Bool) (magnitude : Nat) : Int :=
  if negative then -(magnitude : Int) else magnitude

/-- Decimal literals of more digits than this are refused; leading zeros count. -/
def maxDecimalDigits : Nat := 4300

def integer? (s : List Char) : Option Int :=
  let (negative, body) := takeSign (trimBy isLiteralBlank s)
  match digitValues? decimalDigit? body with
  | some digits =>
    if digits.length ≤ maxDecimalDigits then some (withSign negative (valueOf 10 digits)) else none
  | none => none

def hexDigit? (c : Char) : Option Nat :=
  if 'a' ≤ c && c ≤ 'f' then some (c.toNat - 'a'.toNat + 10)
  else if 'A' ≤ c && c ≤ 'F' then some (c.toNat - 'A'.toNat + 10)
  else decimalDigit? c

/-- The digits behind an optional base mark, which one underscore may follow. -/
def dropHexMark : List Char → List Char
  | z :: x :: s =>
    if decimalDigit? z == some 0 && (x == 'x' || x == 'X') then
      match s with
      | '_' :: t => t
      | t => t
    else z :: x :: s
  | s => s

/-- The value of an integer literal in base sixteen. -/
def hexInteger? (s : List Char) : Option Int :=
  let (negative, body) := takeSign (trimBy isLiteralBlank s)
  (digitValues? hexDigit? (dropHexMark body)).map fun digits =>
    withSign negative (valueOf 16 digits)

/-- The decimal digits of an integer, without leading zeros. -/
def decimalText (n : Int) : String :=
  if n < 0 then "-" ++ Nat.repr n.natAbs else Nat.repr n.natAbs

end PodGauges.Number
