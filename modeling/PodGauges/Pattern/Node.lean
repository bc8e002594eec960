/-!
Patterns as trees. Characters are code points, so that a pattern may also ask for one that no text
can hold.
-/

namespace PodGauges.Pattern

/-- Switches that change what parts of a pattern mean. -/
structure Flags where
  ignoreCase : Bool := false
  multiline : Bool := false
  dotAll : Bool := false
  verbose : Bool := false
  ascii : Bool := false
  unicode : Bool := false
  template : Bool := false
  deriving DecidableEq, Repr

namespace Flags

/-- The switches of either. -/
def union (a b : Flags) : Flags where
  ignoreCase := a.ignoreCase || b.ignoreCase
  multiline := a.multiline || b.multiline
  dotAll := a.dotAll || b.dotAll
  verbose := a.verbose || b.verbose
  ascii := a.ascii || b.ascii
  unicode := a.unicode || b.unicode
  template := a.template || b.template

/-- The switches of the first that the second does not have. -/
def without (a b : Flags) : Flags where
  ignoreCase := a.ignoreCase && !b.ignoreCase
  multiline := a.multiline && !b.multiline
  dotAll := a.dotAll && !b.dotAll
  verbose := a.verbose && !b.verbose
  ascii := a.ascii && !b.ascii
  unicode := a.unicode && !b.unicode
  template := a.template && !b.template

/-- Whether a switch chooses the character classes. -/
def choosesClasses (a : Flags) : Bool := a.ascii || a.unicode

/-- The switches inside a group that turns some on and some off. -/
def within (outer on off : Flags) : Flags :=
  let outer := if on.choosesClasses then { outer with ascii := false, unicode := false } else outer
  (outer.union on).without off

end Flags

/-- Classes of characters with a name of their own. -/
inductive Category where
  | digit
  | space
  | word
  deriving DecidableEq, Repr

inductive SetItem where
  | point (x : Nat)
  | range (low high : Nat)
  | category (category : Category) (negated : Bool)
  deriving DecidableEq, Repr

/-- Conditions on a position. -/
inductive Boundary where
  | lineStart
  | lineEnd
  | textStart
  | textEnd
  | wordEdge
  | noWordEdge
  deriving DecidableEq, Repr

/-- How many repetitions are tried first, and whether the others are tried at all. -/
inductive Greed where
  | greedy
  | reluctant
  | possessive
  deriving DecidableEq, Repr

inductive Node where
  | empty
  | point (x : Nat)
  | any
  | set (negated : Bool) (items : List SetItem)
  | boundary (b : Boundary)
  | seq (first second : Node)
  | alt (first second : Node)
  | group (index : Option Nat) (on off : Flags) (body : Node)
  | loop (greed : Greed) (least : Nat) (most : Option Nat) (body : Node)
  | look (ahead negated : Bool) (body : Node)
  | atomic (body : Node)
  | backReference (index : Nat) (width : Nat × Nat)
  | conditional (index : Nat) (present absent : Node)
  deriving Repr

def maxWidth : Nat := 1 <<< 64

/-- The least and the greatest number of characters that a node takes. -/
def Node.width : Node → Nat × Nat
  | .empty | .boundary _ | .look .. => (0, 0)
  | .point _ | .any | .set .. => (1, 1)
  | .seq a b => (min (a.width.1 + b.width.1) maxWidth, min (a.width.2 + b.width.2) maxWidth)
  | .alt a b => (min a.width.1 b.width.1, max a.width.2 b.width.2)
  | .group _ _ _ body | .atomic body => body.width
  | .loop _ least most body =>
    let (low, high) := body.width
    (min (low * least) maxWidth,
      match most with
      | some most => min (high * most) maxWidth
      | none => if high = 0 then 0 else maxWidth)
  | .backReference _ width => width
  | .conditional _ present absent =>
    (min present.width.1 absent.width.1, max present.width.2 absent.width.2)

end PodGauges.Pattern
