import PodGauges.Number.Integer
import PodGauges.Pattern.Source

/-!
Escapes in patterns: classes, positions, characters by name or number, and back references.
-/

namespace PodGauges.Pattern

open Number

/-- The escapes that stand for a control character or for the backslash. -/
def controlEscape? : Char → Option Nat
  | 'a' => some 7
  | 'b' => some 8
  | 'f' => some 12
  | 'n' => some 10
  | 'r' => some 13
  | 't' => some 9
  | 'v' => some 11
  | '\\' => some 92
  | _ => none

/-- The escapes that stand for a class. -/
def categoryEscape? : Char → Option SetItem
  | 'd' => some (.category .digit false)
  | 'D' => some (.category .digit true)
  | 's' => some (.category .space false)
  | 'S' => some (.category .space true)
  | 'w' => some (.category .word false)
  | 'W' => some (.category .word true)
  | _ => none

/-- The escapes that stand for a position. -/
def boundaryEscape? : Char → Option Boundary
  | 'A' => some .textStart
  | 'b' => some .wordEdge
  | 'B' => some .noWordEdge
  | 'Z' => some .textEnd
  | _ => none

def isOctal (c : Char) : Bool := '0' ≤ c && c ≤ '7'

/-- The digits of base ten; those of other scripts have no meaning in an escape. -/
def isDigit (c : Char) : Bool := '0' ≤ c && c ≤ '9'

def isHex (c : Char) : Bool := isDigit c || ('a' ≤ c && c ≤ 'f') || ('A' ≤ c && c ≤ 'F')

def spelled (base : Nat) (digits : List Char) : Nat :=
  valueOf base (digits.filterMap hexDigit?)

def escapeText (c : Char) (digits : List Char) : String := String.ofList ('\\' :: c :: digits)

/-- The first code point that is none. -/
def codePointLimit : Nat := 0x110000

/-- Numbers from here on are not even looked up among the code points. -/
def lookUpLimit : Nat := 1 <<< 31

/-- A character by a fixed number of hexadecimal digits. -/
def hexEscape (c : Char) (width : Nat) : Reader Nat := do
  let digits ← Reader.takeWhile isHex width
  let text := escapeText c digits
  if digits.length ≠ width then Reader.fail (.incompleteEscape text) text.length
  let point := spelled 16 digits
  if lookUpLimit ≤ point then throw .pointTooLarge
  if codePointLimit ≤ point then Reader.fail (.badEscape text) text.length
  return point

/-- A character by its name between braces. -/
def namedEscape : Reader Nat := do
  if ← Reader.accept '\x7b' then
    let name ← Reader.name '\x7d' "character name"
    match (← get).dialect.named? name with
    | some c => return c.toNat
    | none => Reader.fail (.undefinedCharacterName (String.ofList name)) (name.length + 4)
  else Reader.fail .missingBrace 0

/-- An octal escape that is out of range is refused. -/
def octalPoint (text : String) (point : Nat) : Reader Nat :=
  if 0o377 < point then Reader.fail (.octalTooLarge text) text.length else return point

/-- The escapes that mean the same inside and outside of sets: characters by number or name, and
characters that stand for themselves. -/
def pointEscape (c : Char) : Reader Nat := do
  match c with
  | 'x' => hexEscape c 2
  | 'u' => hexEscape c 4
  | 'U' => hexEscape c 8
  | 'N' => namedEscape
  | _ =>
    if c.isAlpha || isDigit c then Reader.fail (.badEscape (escapeText c [])) 2 else return c.toNat

def setEscape (c : Char) : Reader SetItem := do
  match controlEscape? c, categoryEscape? c with
  | some point, _ => return .point point
  | none, some item => return item
  | none, none =>
    if isOctal c then
      let digits ← Reader.takeWhile isOctal 2
      return .point (← octalPoint (escapeText c digits) (spelled 8 (c :: digits)))
    else return .point (← pointEscape c)

/-- A reference to a group that has to be closed. -/
def groupReference (group : Nat) (length : Nat) : Reader Node := do
  if group < (← Reader.groupCount) then
    match ← Reader.closedWidth? group with
    | none => Reader.fail .openGroupReference length
    | some width =>
      Reader.checkLookBehind group
      return .backReference group width
  else Reader.fail (.invalidGroupReference group) (length - 1)

/-- A digit other than zero begins a reference of one or two digits, unless three octal digits
follow one another. -/
def numberEscape (c : Char) : Reader Node := do
  let second ← Reader.takeWhile isDigit 1
  match second with
  | [d] =>
    if isOctal c && isOctal d then
      match ← Reader.takeWhile isOctal 1 with
      | [e] =>
        return .point (← octalPoint (escapeText c [d, e]) (spelled 8 [c, d, e]))
      | _ => groupReference (spelled 10 [c, d]) 3
    else groupReference (spelled 10 [c, d]) 3
  | _ => groupReference (spelled 10 [c]) 2

def escape (c : Char) : Reader Node := do
  match boundaryEscape? c, categoryEscape? c, controlEscape? c with
  | some boundary, _, _ => return .boundary boundary
  | none, some item, _ => return .set false [item]
  | none, none, some point => return .point point
  | none, none, none =>
    if c = '0' then
      let digits ← Reader.takeWhile isOctal 2
      return .point (spelled 8 digits)
    else if isDigit c then numberEscape c
    else return .point (← pointEscape c)

end PodGauges.Pattern
