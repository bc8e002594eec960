/-!
Rounding of exact quotients to the 64-bit binary format: to nearest, ties to the even mantissa.
Every conversion from integers, quotients and decimals goes through `nearest?`.
-/

namespace PodGauges.Number

/-- The quotient rounded to a natural number, a half to the even neighbour. -/
def divHalfEven (num den : Nat) : Nat :=
  let q := num / den
  let r := num % den
  if 2 * r < den then q
  else if den < 2 * r then q + 1
  else if q % 2 = 0 then q else q + 1

/-- `num / den` against `2 ^ e`: the greatest `e` with `2 ^ e ≤ num / den`. -/
def binaryExponent (num den : Nat) : Int :=
  let e : Int := (Nat.log2 num : Int) - Nat.log2 den
  if den <<< e.toNat ≤ num <<< (-e).toNat then e else e - 1

/-- The bits of the double nearest to a positive quotient. The exponent field and the mantissa are
added up, so a mantissa that rounds up to the next power of two carries into the exponent. -/
def nearestBits (num den : Nat) : Nat :=
  let q := max (binaryExponent num den - 52) (-1074)
  ((q + 1074).toNat <<< 52) + divHalfEven (num <<< (-q).toNat) (den <<< q.toNat)

/-- The bits of infinity, one more than those of the greatest finite double. -/
def infinityBits : Nat := 0x7FF <<< 52

/-- The double nearest to a quotient, unless it lies beyond the finite ones. -/
def nearest? (num den : Nat) : Option Float :=
  if num = 0 then some 0.0
  else
    let bits := nearestBits num den
    if bits < infinityBits then some (Float.ofBits (UInt64.ofNat bits)) else none

/-- The infinite double. -/
def infinity : Float := Float.ofBits (UInt64.ofNat infinityBits)

def signed (negative : Bool) (x : Float) : Float := if negative then -x else x

/-- The double nearest to an integer over a positive one. -/
def ofQuotient? (num : Int) (den : Nat) : Option Float :=
  (nearest? num.natAbs den).map (signed (num < 0))

def ofInteger? (n : Int) : Option Float := ofQuotient? n 1

/-- The double nearest to `digits * 10 ^ exponent`, or infinity beyond the finite ones. The guards
keep the powers small: `10 ^ k` has at least `3 * k` bits. -/
def ofDecimal (digits : Nat) (exponent : Int) : Float :=
  if digits = 0 then 0.0
  else if 0 ≤ exponent then
    if 1100 < (Nat.log2 digits : Int) + 3 * exponent then infinity
    else (nearest? (digits * Nat.pow 10 exponent.toNat) 1).getD infinity
  else if (Nat.log2 digits : Int) + 1101 < 3 * -exponent then 0.0
  else (nearest? digits (Nat.pow 10 (-exponent).toNat)).getD infinity

/-- A finite double taken apart: the sign and the two parts of `mantissa * 2 ^ exponent`. -/
structure Binary where
  negative : Bool
  mantissa : Nat
  exponent : Int
  /-- The gap to the next double towards zero is half the gap to the one away from it. -/
  narrowBelow : Bool

def Binary.ofFloat (x : Float) : Binary :=
  let bits := x.toBits.toNat
  let field : Nat := (bits >>> 52) % 2048
  let fraction : Nat := bits % (1 <<< 52)
  if field = 0 then ⟨1 <<< 63 ≤ bits, fraction, -1074, false⟩
  else ⟨1 <<< 63 ≤ bits, (1 <<< 52) + fraction, (field : Int) - 1075, fraction = 0 ∧ 1 < field⟩

/-- The integer part of a finite double, towards zero. -/
def integerPart (x : Float) : Int :=
  let b := Binary.ofFloat x
  withSign b.negative ((b.mantissa <<< b.exponent.toNat) >>> (-b.exponent).toNat)
where
  withSign (negative : Bool) (n : Nat) : Int := if negative then -(n : Int) else n

end PodGauges.Number
