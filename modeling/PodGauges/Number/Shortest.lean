import PodGauges.Number.Binary64

/-!
The shortest decimal that reads back as a given double. The reals that round to a double form an
interval around it; of the decimals in that interval one with the fewest digits is taken, and
among those the one nearest to the double.
-/

namespace PodGauges.Number

structure Decimal where
  digits : Nat
  exponent : Int
  deriving DecidableEq, Repr

/-- `a * 10 ^ i` against `n * 2 ^ j`. -/
def compareScaled (a : Nat) (i : Int) (n : Nat) (j : Int) : Ordering :=
  compare ((a * Nat.pow 10 i.toNat) <<< (-j).toNat) ((n <<< j.toNat) * Nat.pow 10 (-i).toNat)

/-- Whether a decimal rounds to the double; the ends of the interval belong to even mantissas. -/
def Binary.readsBack (x : Binary) (d : Decimal) : Bool :=
  let low := if x.narrowBelow then 4 * x.mantissa - 1 else 4 * x.mantissa - 2
  let even := x.mantissa % 2 == 0
  let below := compareScaled d.digits d.exponent low (x.exponent - 2)
  let above := compareScaled d.digits d.exponent (4 * x.mantissa + 2) (x.exponent - 2)
  (below == .gt || (even && below == .eq)) && (above == .lt || (even && above == .eq))

/-- The least `k` for which the double is below `10 ^ k`. -/
def Binary.scale (x : Binary) : Int :=
  let estimate := ((Nat.log2 x.mantissa : Int) + x.exponent) * 30103 / 100000
  match [estimate - 1, estimate, estimate + 1].find? fun k =>
      compareScaled 1 k x.mantissa x.exponent == .gt with
  | some k => k
  | none => estimate + 2

/-- The decimal of a grid `10 ^ e` at or just below the double. -/
def Binary.floorOn (x : Binary) (e : Int) : Decimal :=
  ⟨(x.mantissa <<< x.exponent.toNat) * Nat.pow 10 (-e).toNat /
    (Nat.pow 10 e.toNat <<< (-x.exponent).toNat), e⟩

/-- The decimal of a grid that reads back and is nearest to the double, a tie going to even. -/
def Binary.onGrid? (x : Binary) (e : Int) : Option Decimal :=
  let low := x.floorOn e
  let high : Decimal := ⟨low.digits + 1, e⟩
  match x.readsBack low, x.readsBack high with
  | true, true =>
    match compareScaled (2 * low.digits + 1) e (2 * x.mantissa) x.exponent with
    | .gt => some low
    | .lt => some high
    | .eq => some (if low.digits % 2 = 0 then low else high)
  | true, false => some low
  | false, true => some high
  | false, false => none

/-- The same number with no zero at the end of its digits; the bound is the count of zeros to
look for. -/
def Decimal.strip : Nat → Decimal → Decimal
  | 0, d => d
  | n + 1, d =>
    if d.digits ≠ 0 ∧ d.digits % 10 = 0 then strip n ⟨d.digits / 10, d.exponent + 1⟩ else d

/-- The shortest decimal for a positive double. Seventeen digits always identify it; the last case
is the double itself. -/
def Binary.shortest (x : Binary) : Decimal :=
  match (List.range 17).findSome? fun (n : Nat) => x.onGrid? (x.scale - (n + 1)) with
  | some d => d.strip 400
  | none => ⟨(x.mantissa <<< x.exponent.toNat) * Nat.pow 5 (-x.exponent).toNat, min x.exponent 0⟩

end PodGauges.Number
