import PodGauges.Pattern.CharClass
import PodGauges.Pattern.Grammar

/-!
Searching a text for a pattern. Matching a part of a pattern at a position means to go on, from
each position where the part can end and in order of preference, with what has to match behind it,
until that succeeds.
-/

namespace PodGauges.Pattern

open Text

/-- A position in a text: what is before it, the nearest character first, what is left and how
much that is, and what each group took when it was last passed. -/
structure Cursor where
  before : List Char
  after : List Char
  left : Nat
  groups : List (Nat × List Char)

namespace Cursor

/-- The position before a text, with no group passed. -/
def start (text : List Char) : Cursor := ⟨[], text, text.length, []⟩

/-- The position behind the next character, if that is of a kind. -/
def pass? (cursor : Cursor) (kind : Char → Bool) : Option Cursor :=
  match cursor.after with
  | c :: rest =>
    if kind c then some { cursor with before := c :: cursor.before, after := rest,
                                      left := cursor.left - 1 }
    else none
  | [] => none

/-- The position behind as many characters as given, if each is of the kind asked for in turn. -/
def passAll? (cursor : Cursor) : List (Char → Bool) → Option Cursor
  | [] => some cursor
  | kind :: kinds => (cursor.pass? kind).bind (·.passAll? kinds)

/-- The position some characters before. -/
def back? (cursor : Cursor) : Nat → Option Cursor
  | 0 => some cursor
  | n + 1 =>
    match cursor.before with
    | c :: rest => { cursor with before := rest, after := c :: cursor.after,
                                 left := cursor.left + 1 }.back? n
    | [] => none

/-- What was taken since an earlier position. -/
def takenSince (cursor earlier : Cursor) : List Char :=
  earlier.after.take (earlier.left - cursor.left)

def withGroup (cursor : Cursor) (group : Nat) (taken : List Char) : Cursor :=
  { cursor with groups := (group, taken) :: cursor.groups }

end Cursor

/-- Whether a position meets a condition. An empty text has neither edges of words nor other
places. -/
def Boundary.holds (flags : Flags) (cursor : Cursor) : Boundary → Bool
  | .textStart => cursor.before.isEmpty
  | .textEnd => cursor.after.isEmpty
  | .lineStart => cursor.before.isEmpty || (flags.multiline && cursor.before.head? == some '\n')
  | .lineEnd =>
    cursor.after.isEmpty || cursor.after == ['\n'] ||
      (flags.multiline && cursor.after.head? == some '\n')
  | .wordEdge => isText && isEdge
  | .noWordEdge => isText && !isEdge
where
  isText : Bool := !(cursor.before.isEmpty && cursor.after.isEmpty)
  isEdge : Bool :=
    cursor.before.head?.any (Category.word.holds flags) !=
      cursor.after.head?.any (Category.word.holds flags)

/-- What has to match behind a position. -/
abbrev Continuation := Cursor → Option Cursor

/-- A way to match from a position on, given what has to match behind. -/
abbrev Matcher := Cursor → Continuation → Option Cursor

namespace Matcher

def times (body : Matcher) : Nat → Matcher
  | 0, cursor, next => next cursor
  | n + 1, cursor, next => body cursor fun later => times body n later next

/-- The same matching at most a number of times, rather more often. A round that takes nothing is
the last. -/
def atMost (body : Matcher) : Nat → Matcher
  | 0, cursor, next => next cursor
  | n + 1, cursor, next =>
    (body cursor fun later =>
      if later.left = cursor.left then next later else atMost body n later next)
    <|> next cursor

/-- The same matching at most a number of times, rather less often. -/
def atMostReluctantly (body : Matcher) : Nat → Matcher
  | 0, cursor, next => next cursor
  | n + 1, cursor, next =>
    next cursor <|>
      body cursor fun later =>
        if later.left = cursor.left then next later else atMostReluctantly body n later next

/-- The first way to match, and no other. -/
def committed (body : Matcher) : Matcher :=
  fun cursor next => (body cursor some).bind next

/-- The same matching between two numbers of times. More rounds than characters are left are no
use, whatever the numbers ask for. -/
def repeated (greed : Greed) (least : Nat) (most : Option Nat) (body : Matcher) : Matcher :=
  fun cursor next =>
    let enough := cursor.left + 1
    let more := match most with
      | some most => min (most - least) enough
      | none => enough
    let least := min least enough
    match greed with
    | .greedy => times body least cursor fun later => atMost body more later next
    | .reluctant => times body least cursor fun later => atMostReluctantly body more later next
    | .possessive =>
      committed (fun cursor next =>
        times (committed body) least cursor fun later => atMost (committed body) more later next)
        cursor next

/-- A condition on what is ahead; the position stays where it is. -/
def ahead (negated : Bool) (body : Matcher) : Matcher := fun cursor next =>
  match body cursor some, negated with
  | some later, false => next { cursor with groups := later.groups }
  | none, true => next cursor
  | _, _ => none

/-- A condition on the last characters of a fixed number. -/
def behind (negated : Bool) (width : Nat) (body : Matcher) : Matcher := fun cursor next =>
  match (cursor.back? width).bind (body · some), negated with
  | some later, false => next { cursor with groups := later.groups }
  | none, true => next cursor
  | _, _ => none

end Matcher

def repeatKinds (flags : Flags) (taken : List Char) : List (Char → Bool) :=
  taken.map fun c d =>
    if flags.ignoreCase then fold flags c.toNat == fold flags d.toNat else c == d

def Node.matcher : Node → Flags → Matcher
  | .empty, _ => fun cursor next => next cursor
  | .point x, flags => fun cursor next => (cursor.pass? (pointHolds flags x)).bind next
  | .any, flags => fun cursor next => (cursor.pass? fun c => flags.dotAll || c != '\n').bind next
  | .set negated items, flags => fun cursor next =>
    (cursor.pass? (setHolds flags negated items)).bind next
  | .boundary b, flags => fun cursor next => if b.holds flags cursor then next cursor else none
  | .seq a b, flags => fun cursor next =>
    a.matcher flags cursor fun later => b.matcher flags later next
  | .alt a b, flags => fun cursor next =>
    a.matcher flags cursor next <|> b.matcher flags cursor next
  | .group index on off body, flags => fun cursor next =>
    body.matcher (flags.within on off) cursor fun later =>
      match index with
      | some number => next (later.withGroup number (later.takenSince cursor))
      | none => next later
  | .loop greed least most body, flags => Matcher.repeated greed least most (body.matcher flags)
  | .look true negated body, flags => Matcher.ahead negated (body.matcher flags)
  | .look false negated body, flags => Matcher.behind negated body.width.1 (body.matcher flags)
  | .atomic body, flags => Matcher.committed (body.matcher flags)
  | .backReference number _, flags => fun cursor next => do
    let taken ← cursor.groups.lookup number
    let later ← cursor.passAll? (repeatKinds flags taken)
    next later
  | .conditional number present absent, flags => fun cursor next =>
    if (cursor.groups.lookup number).isSome then present.matcher flags cursor next
    else absent.matcher flags cursor next

/-- Whether a pattern matches at a position or at some later one. -/
def Node.isFoundFrom (root : Node) (flags : Flags) (before : List Char) (left : Nat) :
    List Char → Bool
  | [] => (root.matcher flags ⟨before, [], left, []⟩ some).isSome
  | c :: rest =>
    (root.matcher flags ⟨before, c :: rest, left, []⟩ some).isSome ||
      isFoundFrom root flags (c :: before) (left - 1) rest

end PodGauges.Pattern

namespace PodGauges

/-- Whether a pattern matches anywhere in a text. -/
def Pattern.search (pattern : Pattern) (text : List Char) : Bool :=
  pattern.root.isFoundFrom pattern.flags [] text.length text

end PodGauges
