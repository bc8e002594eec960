import PodGauges.Pattern.Node
import PodGauges.Text.Blank
import PodGauges.Text.DecimalDigit
import PodGauges.Text.Letter
import PodGauges.Text.LetterCase

/-!
Which characters the parts of a pattern stand for that take one character. Without regard to case
a character is compared by its lower-case form, and lower-case letters with one upper-case letter
in common count as one.
-/

namespace PodGauges.Pattern

open Text

/-- Whether a character belongs to a class; under the ASCII switch no other characters do. -/
def Category.holds (flags : Flags) (category : Category) (c : Char) : Bool :=
  match category with
  | .digit => if flags.ascii then isAsciiDigit c else isDecimalDigit c
  | .space => if flags.ascii then isAsciiBlank c else isBlank c
  | .word => if flags.ascii then c.isAlphanum || c == '_' else isWordChar c

/-- The lower-case form by which points are compared. -/
def fold (flags : Flags) (point : Nat) : Nat :=
  if flags.ascii then (if 0x41 ≤ point ∧ point ≤ 0x5A then point + 32 else point)
  else lowerPoint point

/-- The lower-case forms that count as one with a given one. -/
def equals (flags : Flags) (lower : Nat) : List Nat :=
  if flags.ascii then [lower] else lower :: caseSiblings lower

/-- The points whose lower-case form counts as one with a given one. -/
def unfold (flags : Flags) (lower : Nat) : List Nat :=
  if flags.ascii then [lower, lower - 32].filter (fold flags · == lower)
  else (equals flags lower).flatMap lowerSources

/-- A point that has forms in both cases. -/
def isCased (flags : Flags) (point : Nat) : Bool :=
  if flags.ascii then point < 0x80 && (Char.ofNat point).isAlpha else isCasedPoint point

/-- Whether some point of a range has forms in both cases. -/
def isCasedRange (flags : Flags) (low high : Nat) : Bool :=
  if flags.ascii then (low ≤ 0x5A && 0x41 ≤ high) || (low ≤ 0x7A && 0x61 ≤ high)
  else rangeHasCase low high

def pointHolds (flags : Flags) (point : Nat) (c : Char) : Bool :=
  if flags.ignoreCase && isCased flags point then
    (equals flags (fold flags point)).contains (fold flags c.toNat)
  else c.toNat == point

namespace SetItem

/-- The last point of the basic plane. -/
def basicLimit : Nat := 0xFFFF

/-- Whether a member makes its set compare lower-case forms; all members outside the basic plane
do. -/
def comparesFolded (flags : Flags) : SetItem → Bool
  | .point x => basicLimit < fold flags x || isCased flags x
  | .range low high => basicLimit < high || isCasedRange flags low high
  | .category _ _ => false

/-- Whether a character is in a member as it stands. -/
def holds (flags : Flags) (c : Char) : SetItem → Bool
  | .point x => c.toNat == x
  | .range low high => low ≤ c.toNat && c.toNat ≤ high
  | .category kind negated => kind.holds flags c != negated

/-- Whether a character is in a member by its lower-case form. A member outside the basic plane
knows only that form, a range that reaches there also the upper-case form that belongs to it. -/
def holdsFolded (flags : Flags) (c : Char) : SetItem → Bool
  | .point x =>
    let lower := fold flags c.toNat
    if basicLimit < fold flags x then lower == x
    else (equals flags (fold flags x)).contains lower
  | .range low high =>
    let lower := fold flags c.toNat
    let upper := upperPoint lower
    (unfold flags lower).any (fun point => low ≤ point && point ≤ min high basicLimit) ||
      (basicLimit < high &&
        ((low ≤ lower && lower ≤ high) || (low ≤ upper && upper ≤ high)))
  | .category kind negated =>
    kind.holds flags (Char.ofNat (fold flags c.toNat)) != negated

end SetItem

/-- Whether a character is in a set. A set of a single point compares like the point alone. -/
def setHolds (flags : Flags) (negated : Bool) (items : List SetItem) (c : Char) : Bool :=
  negated != match items with
    | [.point x] => pointHolds flags x c
    | _ =>
      if flags.ignoreCase && items.any (·.comparesFolded flags) then
        items.any (·.holdsFolded flags c)
      else items.any (·.holds flags c)

end PodGauges.Pattern
