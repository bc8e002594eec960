import PodGauges.Pattern.Dialect
import PodGauges.Pattern.Fault
import PodGauges.Pattern.Node

/-!
The text of a pattern as it is read: tokens with one token of look-ahead, and what has been read of
flags and groups so far. A token is a character, or a backslash and the character behind it.
-/

namespace PodGauges.Pattern

/-- A character of a pattern, or a character behind a backslash. -/
inductive Token where
  | plain (c : Char)
  | escaped (c : Char)
  deriving DecidableEq, Repr

namespace Token

/-- The token as it was written. -/
def text : Token → String
  | .plain c => String.singleton c
  | .escaped c => String.ofList ['\\', c]

def length : Token → Nat
  | .plain _ => 1
  | .escaped _ => 2

end Token

/-- The unread part of a pattern: the next token, what follows it, and where that starts. -/
structure Source where
  next : Option Token
  rest : List Char
  index : Nat
  deriving Repr

namespace Source

/-- The source that continues with given characters; a lone backslash at their end is refused as
soon as it comes into view. -/
def load (rest : List Char) (index : Nat) : Except Error Source :=
  match rest with
  | [] => .ok ⟨none, [], index⟩
  | ['\\'] => .error (.malformed .trailingBackslash (some index))
  | '\\' :: c :: rest => .ok ⟨some (.escaped c), rest, index + 2⟩
  | c :: rest => .ok ⟨some (.plain c), rest, index + 1⟩

def position (s : Source) : Nat := s.index - (s.next.elim 0 Token.length)

end Source

/-- What is known while a pattern is read. Groups are numbered from one; the width of a group is
known once it is closed. -/
structure Reading where
  source : Source
  flags : Flags
  names : List (String × Nat)
  widths : List (Option (Nat × Nat))
  lookBehindGroups : Option Nat
  conditions : List (Nat × Nat)
  dialect : Dialect

/-- What is known before anything is read. -/
def Reading.start (dialect : Dialect) (source : Source) : Reading :=
  ⟨source, {}, [], [none], none, [], dialect⟩

/-- A step of reading, which may refuse the text. -/
abbrev Reader := StateT Reading (Except Error)

namespace Reader

def position : Reader Nat := do return (← get).source.position

def failAt {α : Type} (fault : Fault) (position : Nat) : Reader α :=
  throw (.malformed fault (some position))

/-- Refusal some characters before the next token. -/
def fail {α : Type} (fault : Fault) (back : Nat) : Reader α := do
  failAt fault ((← position) - back)

def peek : Reader (Option Token) := do return (← get).source.next

def take : Reader (Option Token) := do
  let state ← get
  let source ← Source.load state.source.rest state.source.index
  set { state with source := source }
  return state.source.next

/-- Takes the next token if it is a given character. -/
def accept (c : Char) : Reader Bool := do
  if (← peek) = some (.plain c) then
    let _ ← take
    return true
  else return false

def takeWhile (p : Char → Bool) : Nat → Reader (List Char)
  | 0 => return []
  | n + 1 => do
    match ← peek with
    | some (.plain c) =>
      if p c then
        let _ ← take
        return c :: (← takeWhile p n)
      else return []
    | _ => return []

/-- Takes the characters before a terminator, and the terminator; the count bounds their number. -/
def takeUntil (terminator : Char) (what : String) : Nat → List Char → Reader (List Char)
  | 0, _ => throw (.malformed (.unterminatedName terminator) none)
  | n + 1, taken => do
    match ← take with
    | none =>
      if taken = [] then fail (.missingName what) 0
      else fail (.unterminatedName terminator) taken.length
    | some token =>
      if token = .plain terminator then
        if taken = [] then fail (.missingName what) 1 else return taken
      else takeUntil terminator what n (taken ++ token.text.toList)

/-- The name before a terminator. -/
def name (terminator : Char) (what : String) : Reader (List Char) := do
  takeUntil terminator what ((← get).source.rest.length + 2) []

/-- The number of groups begun, the whole pattern included. -/
def groupCount : Reader Nat := do return (← get).widths.length

def closedWidth? (group : Nat) : Reader (Option (Nat × Nat)) := do
  return (← get).widths[group]?.join

/-- Inside a look-behind only groups from outside may be referred to. -/
def checkLookBehind (group : Nat) : Reader Unit := do
  match (← get).lookBehindGroups with
  | none => return ()
  | some outside =>
    if (← closedWidth? group).isNone then fail .openGroupReference 0
    else if outside ≤ group then fail .lookBehindGroupReference 0

def openGroup (name : Option (List Char)) : Reader Nat := do
  let state ← get
  let group := state.widths.length
  let state := { state with widths := state.widths ++ [none] }
  match name with
  | none => set state
  | some name =>
    let text := String.ofList name
    match state.names.lookup text with
    | some previous => fail (.redefinedName text group previous) (name.length + 1)
    | none => set { state with names := (text, group) :: state.names }
  return group

def closeGroup (group : Nat) (body : Node) : Reader Unit :=
  modify fun state => { state with widths := state.widths.set group (some body.width) }

end Reader

end PodGauges.Pattern
