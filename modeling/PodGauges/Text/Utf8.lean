/-!
Decoding of UTF-8. Bytes fall into pieces, each a character or a maximal run of bytes that begins
no character. The strict decoder reports the first such run, the lenient one replaces each by
U+FFFD.
-/

namespace PodGauges.Text.Utf8

/-- Why a run of bytes is no character. -/
inductive Fault where
  | invalidStart
  | invalidContinuation
  | unexpectedEnd
  deriving DecidableEq, Repr

/-- The words for a malformed sequence. -/
def Fault.message : Fault → String
  | .invalidStart => "invalid start byte"
  | .invalidContinuation => "invalid continuation byte"
  | .unexpectedEnd => "unexpected end of data"

/-- A character, or a run of undecodable bytes. -/
inductive Piece where
  | char (c : Char)
  | invalid (fault : Fault) (length : Nat)
  deriving DecidableEq, Repr

def Piece.size : Piece → Nat
  | .char c => c.utf8Size
  | .invalid _ length => length

/-- A sequence that has begun: its bytes so far, the bytes it is owed, and the interval in which
the next of them has to lie. -/
structure Pending where
  used : Nat
  owed : Nat
  low : Nat
  high : Nat
  value : Nat

def start (b : UInt8) : Piece ⊕ Pending :=
  let n := b.toNat
  if n < 0x80 then .inl (.char (Char.ofNat n))
  else if n < 0xC2 then .inl (.invalid .invalidStart 1)
  else if n < 0xE0 then .inr ⟨1, 1, 0x80, 0xBF, n - 0xC0⟩
  else if n < 0xF0 then
    .inr ⟨1, 2, if n = 0xE0 then 0xA0 else 0x80, if n = 0xED then 0x9F else 0xBF, n - 0xE0⟩
  else if n < 0xF5 then
    .inr ⟨1, 3, if n = 0xF0 then 0x90 else 0x80, if n = 0xF4 then 0x8F else 0xBF, n - 0xF0⟩
  else .inl (.invalid .invalidStart 1)

/-- The pieces of the bytes that follow a pending sequence, that sequence included. -/
def piecesFrom : Option Pending → List UInt8 → List Piece
  | none, [] => []
  | some p, [] => [.invalid .unexpectedEnd p.used]
  | none, b :: s =>
    match start b with
    | .inl piece => piece :: piecesFrom none s
    | .inr p => piecesFrom (some p) s
  | some p, b :: s =>
    let n := b.toNat
    if p.low ≤ n ∧ n ≤ p.high then
      let value := p.value * 64 + (n - 0x80)
      if p.owed ≤ 1 then .char (Char.ofNat value) :: piecesFrom none s
      else piecesFrom (some ⟨p.used + 1, p.owed - 1, 0x80, 0xBF, value⟩) s
    else
      .invalid .invalidContinuation p.used ::
        match start b with
        | .inl piece => piece :: piecesFrom none s
        | .inr q => piecesFrom (some q) s

/-- The pieces of a text in bytes. -/
def pieces (bytes : List UInt8) : List Piece := piecesFrom none bytes

/-- The text, with U+FFFD for each undecodable run. -/
def decodeLossy (bytes : List UInt8) : List Char :=
  (pieces bytes).map fun
    | .char c => c
    | .invalid _ _ => '\uFFFD'

/-- Where and why strict decoding stops. -/
structure DecodeError where
  fault : Fault
  first : UInt8
  start : Nat
  length : Nat
  deriving DecidableEq, Repr

/-- Two digits of base sixteen. -/
def hexByte (b : UInt8) : String :=
  String.ofList [Nat.digitChar (b.toNat / 16), Nat.digitChar (b.toNat % 16)]

/-- The words for a failed decoding: the bytes refused, their place and the fault. -/
def DecodeError.message (e : DecodeError) : String :=
  let place :=
    if e.length = 1 then s!"byte 0x{hexByte e.first} in position {e.start}"
    else s!"bytes in position {e.start}-{e.start + e.length - 1}"
  s!"'utf-8' codec can't decode {place}: {e.fault.message}"

/-- The characters up to the first undecodable run, or where that run stands. -/
def collect (offset : Nat) : List Piece → Except (Nat × Fault × Nat) (List Char)
  | [] => .ok []
  | .char c :: rest => (collect (offset + c.utf8Size) rest).map (c :: ·)
  | .invalid fault length :: _ => .error (offset, fault, length)

/-- The text, or its first undecodable run. -/
def decode (bytes : List UInt8) : Except DecodeError (List Char) :=
  match collect 0 (pieces bytes) with
  | .ok text => .ok text
  | .error (offset, fault, length) => .error ⟨fault, bytes.getD offset 0, offset, length⟩

/-- Bytes as characters of the ASCII block; all others become U+FFFD. -/
def asciiText (bytes : List UInt8) : List Char :=
  bytes.map fun b => if b < 0x80 then Char.ofNat b.toNat else '\uFFFD'

def encode (s : String) : List UInt8 := s.toUTF8.toList

end PodGauges.Text.Utf8
