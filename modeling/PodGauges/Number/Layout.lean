import PodGauges.Number.Shortest

/-!
How the digits of a real number are laid out: positionally or with a power of ten, and the names
of the values that have no digits. The decisions of one output format are one `Layout`.
-/

namespace PodGauges.Number

/-- The decisions of an output format. The leading digit of a number stands for some power of ten;
powers from -4 up to the limit for its sign are written positionally. -/
structure Layout where
  positiveLimit : Int
  negativeLimit : Int
  infinity : String
  negativeInfinity : String
  notANumber : String

def plain : Layout where
  positiveLimit := 16
  negativeLimit := 16
  infinity := "inf"
  negativeInfinity := "-inf"
  notANumber := "nan"

/-- Digits with a point, given the power of ten of the leading one. -/
def positional (digits : List Char) (lead : Int) : List Char :=
  if lead < 0 then '0' :: '.' :: List.replicate (-lead - 1).toNat '0' ++ digits
  else
    let whole := lead.toNat + 1
    let padded := digits ++ List.replicate (whole - digits.length) '0'
    let fraction := padded.drop whole
    padded.take whole ++ '.' :: (if fraction.isEmpty then ['0'] else fraction)

/-- Digits with a power of ten of at least two digits. -/
def scientific (digits : List Char) (lead : Int) : List Char :=
  let mantissa := match digits with
    | d :: e :: rest => d :: '.' :: e :: rest
    | ds => ds
  let power := Nat.toDigits 10 lead.natAbs
  mantissa ++ 'e' :: (if lead < 0 then '-' else '+') ::
    (List.replicate (2 - power.length) '0' ++ power)

/-- The magnitude of a finite double with the shortest digits. -/
def magnitudeText (limit : Int) (b : Binary) : List Char :=
  if b.mantissa = 0 then ['0', '.', '0']
  else
    let d := b.shortest
    let digits := Nat.toDigits 10 d.digits
    let lead := d.exponent + digits.length - 1
    if -4 ≤ lead ∧ lead < limit then positional digits lead else scientific digits lead

/-- The written form of a double. -/
def Layout.render (layout : Layout) (x : Float) : String :=
  if x.isNaN then layout.notANumber
  else
    let b := Binary.ofFloat x
    if x.isInf then (if b.negative then layout.negativeInfinity else layout.infinity)
    else if b.negative then String.ofList ('-' :: magnitudeText layout.negativeLimit b)
    else String.ofList (magnitudeText layout.positiveLimit b)

end PodGauges.Number
